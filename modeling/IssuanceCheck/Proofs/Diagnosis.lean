import IssuanceCheck.Proofs.AddressChecks
import IssuanceCheck.Proofs.Caa.Findings
import IssuanceCheck.Proofs.Fetch.Findings

namespace IssuanceCheck

open Dns

variable {suffix : String → Option String} {lookup : Lookup} {fetch : Fetcher} {sweep : Sweep}
  {request : Request} {d : Diagnosis} {name : String} {wildcard : Bool} {f : Finding}
  {policy : List Finding}

theorem exists_eq_ok {ε α : Type} {x : Except ε α} (h : x.toOption.isSome = true) :
    ∃ a, x = .ok a := by
  cases x with
  | error e => cases h
  | ok a => exact ⟨a, rfl⟩

theorem Request.unsuitable_eq (hs : Name.Splits (Name.normalize request.domain) name wildcard) :
    request.unsuitable =
      if wildcard = true ∧ request.method ≠ .dns01 then
        [methodNotSuitable (Name.normalize request.domain) request.method]
      else [] := by
  simp [unsuitable, Name.splits_iff.1 hs, Method.supportsWildcard]

theorem Request.unsuitable_eq_nil_iff
    (hs : Name.Splits (Name.normalize request.domain) name wildcard) :
    request.unsuitable = [] ↔ wildcard = false ∨ request.method = .dns01 := by
  rw [unsuitable_eq hs]
  cases wildcard <;> simp

theorem Request.unsuitable_isBlocking (hf : f ∈ request.unsuitable) : f.isBlocking = true := by
  simp only [unsuitable] at hf
  split at hf
  · rw [List.mem_singleton.1 hf]
    rfl
  · cases hf

theorem Request.reached_of_stage (hs : Name.Splits (Name.normalize request.domain) name wildcard)
    (h : request.method = .http01 ∧ wildcard = false) :
    request.reached lookup sweep = checkAddresses lookup sweep name := by
  simp [reached, Name.splits_iff.1 hs, h]

theorem Request.reached_of_no_stage
    (hs : Name.Splits (Name.normalize request.domain) name wildcard)
    (h : ¬(request.method = .http01 ∧ wildcard = false)) :
    request.reached lookup sweep = pure ([], []) := by
  simp only [reached, Name.splits_iff.1 hs, Bool.and_eq_true, decide_eq_true_eq, Bool.not_eq_true']
  exact if_neg h

theorem Request.reached_eq_nil_iff
    (hs : Name.Splits (Name.normalize request.domain) name wildcard) (lookup : Lookup)
    (fetch : Fetcher) :
    (request.reached lookup fetch.sweep).value.1 = [] ↔
      (request.method = .http01 → wildcard = false → IsReached lookup fetch name) := by
  by_cases h : request.method = .http01 ∧ wildcard = false
  · rw [reached_of_stage hs h, (checkAddresses_run lookup fetch.sweep name).findings_eq_nil_iff]
    exact ⟨fun hr _ _ => hr, fun hr => hr h.1 h.2⟩
  · rw [reached_of_no_stage hs h]
    exact iff_of_true rfl fun hm hw => absurd ⟨hm, hw⟩ h

theorem Request.reached_isBlocking
    (hfetch : ∀ name ip f, (fetch name ip).finding = some f → f.isBlocking = true)
    (hf : f ∈ (request.reached lookup fetch.sweep).value.1) : f.isBlocking = true := by
  simp only [reached] at hf
  split at hf
  · exact (checkAddresses_run lookup fetch.sweep _).isBlocking (hfetch _) f hf
  · cases hf

theorem diagnoseThrough_of_error {e : Caa.CheckError}
    (h : (Caa.check suffix lookup (Name.normalize request.domain) request.issuer).value =
      .error e) :
    diagnoseThrough suffix lookup sweep request =
      ⟨(Caa.check suffix lookup (Name.normalize request.domain) request.issuer).trace.map .query,
        .error e⟩ := by
  refine Traced.ext ?_ ?_
  · simp [diagnoseThrough, h]
  · simp [diagnoseThrough, h]

theorem diagnoseThrough_of_ok
    (h : (Caa.check suffix lookup (Name.normalize request.domain) request.issuer).value =
      .ok policy) :
    let reached := request.reached lookup sweep
    diagnoseThrough suffix lookup sweep request =
      ⟨(Caa.check suffix lookup (Name.normalize request.domain) request.issuer).trace.map .query ++
          reached.trace,
        .ok ⟨⟨Name.normalize request.domain, request.method,
          bySeverity (request.unsuitable ++ policy ++ reached.value.1),
          reached.value.2.map (·.observation)⟩, reached.value.2⟩⟩ := by
  refine Traced.ext ?_ ?_
  · simp [diagnoseThrough, h]
  · simp [diagnoseThrough, h]

theorem diagnoseThrough_eq_ok (h : (diagnoseThrough suffix lookup sweep request).value = .ok d) :
    ∃ policy,
      (Caa.check suffix lookup (Name.normalize request.domain) request.issuer).value =
        .ok policy ∧
      d.report.findings =
        bySeverity (request.unsuitable ++ policy ++ (request.reached lookup sweep).value.1) ∧
      d.report.observations = (request.reached lookup sweep).value.2.map (·.observation) := by
  cases hp : (Caa.check suffix lookup (Name.normalize request.domain) request.issuer).value with
  | error e =>
      rw [diagnoseThrough_of_error hp] at h
      cases h
  | ok policy =>
      rw [diagnoseThrough_of_ok hp, Except.ok.injEq] at h
      exact ⟨policy, rfl, by rw [← h], by rw [← h]⟩

theorem mem_bySeverity {findings : List Finding} : f ∈ bySeverity findings ↔ f ∈ findings :=
  List.mem_mergeSort

theorem bySeverity_eq_nil_iff {findings : List Finding} :
    bySeverity findings = [] ↔ findings = [] := by
  rw [← List.length_eq_zero_iff, ← List.length_eq_zero_iff, bySeverity, List.length_mergeSort]

theorem diagnose_isBlocking
    (hfetch : ∀ name ip f, (fetch name ip).finding = some f → f.isBlocking = true)
    (h : (diagnose suffix lookup fetch request).value = .ok d) (hf : f ∈ d.report.findings) :
    f.isBlocking = true := by
  obtain ⟨policy, hp, hd, -⟩ := diagnoseThrough_eq_ok h
  rw [hd, mem_bySeverity, List.mem_append, List.mem_append] at hf
  rcases hf with (hu | hc) | hr
  · exact Request.unsuitable_isBlocking hu
  · exact (Finding.isBlocking_iff f).2 (.inr (Caa.check_severity hp hc))
  · exact Request.reached_isBlocking hfetch hr

theorem diagnose_eq_nil_iff (h : (diagnose suffix lookup fetch request).value = .ok d) :
    d.report.findings = [] ↔
      request.unsuitable = [] ∧
        (Caa.check suffix lookup (Name.normalize request.domain) request.issuer).value = .ok [] ∧
        (request.reached lookup fetch.sweep).value.1 = [] := by
  obtain ⟨policy, hp, hd, -⟩ := diagnoseThrough_eq_ok h
  rw [hd, bySeverity_eq_nil_iff, List.append_eq_nil_iff, List.append_eq_nil_iff, and_assoc, hp,
    Except.ok.injEq]

theorem Report.isBlocking_eq_false_iff {r : Report}
    (h : ∀ f ∈ r.findings, f.isBlocking = true) : r.isBlocking = false ↔ r.findings = [] := by
  rw [isBlocking, List.any_eq_false]
  constructor
  · intro hn
    exact List.eq_nil_iff_forall_not_mem.2 fun f hf => hn f hf (h f hf)
  · intro he f hf
    rw [he] at hf
    cases hf

/-- A report blocks issuance exactly when it has a finding, and it has none exactly when nothing
stands against issuance: the method goes with the name, the policy check passes, and the validation
request, where there is one, succeeds at every address. The policy check passes when every name that
it comes to, with only silent names below, answers and permits the issuer. -/
theorem diagnose_passes_iff {peers : String → IpAddr → Fetch.Client → Fetch.Peer}
    {settings : Fetch.Settings}
    (h : (diagnose suffix lookup (fun name ip => Fetch.check (peers name ip) settings name ip)
      request).value = .ok d) :
    let domain := Name.normalize request.domain
    let policy := (Caa.check suffix lookup domain request.issuer).value
    ∃ name wildcard, Name.Splits domain name wildcard ∧
      (d.report.isBlocking = false ↔ d.report.findings = []) ∧
      (d.report.findings = [] ↔
        (wildcard = false ∨ request.method = .dns01) ∧ policy = .ok [] ∧
          (request.method = .http01 → wildcard = false →
            IsReached lookup (fun name ip => Fetch.check (peers name ip) settings name ip) name)) ∧
      (policy = .ok [] ↔
        ∀ front level behind, Name.searchPath suffix name = front ++ level :: behind →
          (∀ l ∈ front, Caa.IsSilent lookup l) →
            Caa.Permits lookup wildcard request.issuer level) ∧
      (d.report.worst = none ↔ d.report.findings = []) ∧
      ∀ s, d.report.worst = some s → s = .error ∨ s = .fatal := by
  intro domain policy
  have hs : Name.Splits domain (Name.splitWildcard domain).1 (Name.splitWildcard domain).2 :=
    Name.splits_splitWildcard domain
  have hb : ∀ f ∈ d.report.findings, f.isBlocking = true := fun f hf =>
    diagnose_isBlocking (fun name ip f hs =>
      (Finding.isBlocking_iff f).2 (.inl (Fetch.check_severity hs))) h hf
  refine ⟨_, _, hs, Report.isBlocking_eq_false_iff hb, ?_, ?_, Finding.worst_eq_none_iff, ?_⟩
  · rw [diagnose_eq_nil_iff h, Request.unsuitable_eq_nil_iff hs, Request.reached_eq_nil_iff hs]
  · obtain ⟨findings, hp, -⟩ := diagnoseThrough_eq_ok h
    rw [show policy = _ from congrArg Traced.value (Caa.check_eq_walk hs hp)]
    exact Caa.walk_eq_nil_iff lookup _ request.issuer _
  · intro s hs
    obtain ⟨f, hf, rfl⟩ := Finding.exists_of_worst hs
    exact (Finding.isBlocking_iff f).1 (hb f hf)

/-- The name itself has a record of another type alone and its parent a CAA record behind such a
one, so that an issuer passes and another does not. -/
theorem diagnose_passes_permitted_issuer :
    let address : Record := .a (Ipv4.ofOctets [192, 0, 2, 1])
    let permitted : CaaRecord := ⟨"example.com", 0, "issue", "ca.test"⟩
    let lookup : Lookup := fun query =>
      .ok (if query.type = .aaaa then [.caa permitted]
        else if query.name = "www.example.com" then [address]
        else [address, .caa permitted])
    let fetch : Fetcher := fun name ip => Fetch.check (fun _ _ _ => .response ⟨200, []⟩) {} name ip
    let run (issuer : String) :=
      (diagnose (fun _ => some "com") lookup fetch ⟨"WWW.Example.com.", .http01, issuer⟩).value
    (∃ d, run "ca.test" = .ok d ∧ d.report.isBlocking = false ∧ d.report.worst = none) ∧
      ∃ d, run "other.test" = .ok d ∧ d.report.isBlocking = true := by
  intro address permitted lookup fetch run
  have hnormal : Name.normalize "WWW.Example.com." = "www.example.com" := by decide +kernel
  have hpath : Name.searchPath (fun _ => some "com") "www.example.com" =
      ["www.example.com", "example.com", "com"] := by decide +kernel
  have hplain : Name.Splits (Name.normalize "WWW.Example.com.") "www.example.com" false := by
    rw [hnormal]
    exact .plain (by decide)
  have hcarries : Carries .caa [address, .caa permitted] [permitted] :=
    .foreign (by simp [address]) (.one permitted .nil)
  have hsilent : Caa.IsSilent lookup "www.example.com" := ⟨[address], rfl, by simp [address]⟩
  have hloud : ¬Caa.IsSilent lookup "example.com" := by
    rw [Caa.isSilent_of_ok rfl]
    decide
  have hreached : IsReached lookup fetch "www.example.com" :=
    ⟨[.v4 (Ipv4.ofOctets [192, 0, 2, 1])],
      hasAddresses_iff.2 ⟨_, _, rfl, rfl, by decide⟩, by decide, by decide +kernel⟩
  constructor
  · obtain ⟨d, hd⟩ : ∃ d, run "ca.test" = .ok d := exists_eq_ok (by decide +kernel)
    obtain ⟨name, wildcard, hs, hb, hf, hp, hw, -⟩ := diagnose_passes_iff hd
    obtain ⟨rfl, rfl⟩ := hs.unique hplain
    have hnone : d.report.findings = [] := by
      refine hf.2 ⟨.inl rfl, hp.2 ?_, fun _ _ => hreached⟩
      rw [hpath]
      intro front level behind hfront hbelow
      match front with
      | [] =>
          cases hfront
          exact Caa.permits_of_silent hsilent false "ca.test"
      | [_] =>
          cases hfront
          exact ⟨_, _, rfl, hcarries, .inr (by decide)⟩
      | _ :: l :: front =>
          obtain rfl : l = "example.com" := (List.cons.inj (List.cons.inj hfront).2).1.symm
          exact absurd (hbelow _ (by simp)) hloud
    exact ⟨d, hd, hb.2 hnone, hw.2 hnone⟩
  · obtain ⟨d, hd⟩ : ∃ d, run "other.test" = .ok d := exists_eq_ok (by decide +kernel)
    obtain ⟨name, wildcard, hs, hb, hf, hp, -⟩ := diagnose_passes_iff hd
    obtain ⟨rfl, rfl⟩ := hs.unique hplain
    refine ⟨d, hd, Bool.of_not_eq_false fun hpass => ?_⟩
    have hpermits := hp.1 (hf.1 (hb.1 hpass)).2.1 ["www.example.com"] "example.com" ["com"] hpath
      (by simpa using hsilent)
    obtain ⟨answer, records, ha, hc, hpermitted⟩ := hpermits
    cases ha
    rw [← hc.filterMap_caa?] at hpermitted
    revert hpermitted
    decide

end IssuanceCheck
