import IssuanceCheck.Proofs.Diagnosis

namespace IssuanceCheck

open Dns

variable {suffix : String → Option String} {lookup : Lookup} {request : Request} {d : Diagnosis}
  {findings : List Finding} {f : Finding} {name : String} {sweep : Sweep} {ips : List IpAddr}
  {settings : Fetch.Settings} {peers : String → Nat → IpAddr → Fetch.Client → Fetch.Peer}

theorem Severity.max_eq_left {s t : Severity} (h : t.rank ≤ s.rank) : s.max t = s := by
  revert h
  cases s <;> cases t <;> decide

theorem Finding.worst_of_forall_le (h : ∀ g ∈ findings, g.severity.rank ≤ f.severity.rank) :
    worst (f :: findings) = some f.severity := by
  rw [worst_cons]
  congr 1
  induction findings with
  | nil => rfl
  | cons g findings ih =>
      rw [List.foldl_cons, Severity.max_eq_left (h g List.mem_cons_self)]
      exact ih fun g hg => h g (List.mem_cons_of_mem _ hg)

theorem bySeverity_perm (findings : List Finding) : (bySeverity findings).Perm findings :=
  List.mergeSort_perm findings _

theorem atLeast_trans (f g k : Finding) (hfg : decide (g.severity.rank ≤ f.severity.rank))
    (hgk : decide (k.severity.rank ≤ g.severity.rank)) :
    decide (k.severity.rank ≤ f.severity.rank) :=
  decide_eq_true (Nat.le_trans (of_decide_eq_true hgk) (of_decide_eq_true hfg))

theorem atLeast_total (f g : Finding) : decide (g.severity.rank ≤ f.severity.rank) ||
    decide (f.severity.rank ≤ g.severity.rank) := by
  rw [← Bool.decide_or]
  exact decide_eq_true (Nat.le_total ..)

theorem bySeverity_pairwise (findings : List Finding) :
    (bySeverity findings).Pairwise fun f g => g.severity.rank ≤ f.severity.rank :=
  (List.pairwise_mergeSort atLeast_trans atLeast_total findings).imp of_decide_eq_true

theorem filter_bySeverity (findings : List Finding) (s : Severity) :
    (bySeverity findings).filter (·.severity = s) = findings.filter (·.severity = s) := by
  have hs : ∀ f ∈ findings.filter (·.severity = s), f.severity = s := fun f hf =>
    of_decide_eq_true (List.mem_filter.1 hf).2
  have hp : (findings.filter (·.severity = s)).Pairwise fun f g =>
      decide (g.severity.rank ≤ f.severity.rank) = true :=
    List.pairwise_of_forall_mem_list fun f hf g hg =>
      decide_eq_true (Nat.le_of_eq (by rw [hs f hf, hs g hg]))
  have hsub : (findings.filter (·.severity = s)).Sublist (bySeverity findings) :=
    List.sublist_mergeSort atLeast_trans atLeast_total hp List.filter_sublist
  have hfilter := hsub.filter (·.severity = s)
  simp only [List.filter_filter, Bool.and_self] at hfilter
  exact (hfilter.eq_of_length ((bySeverity_perm findings).filter _).length_eq.symm).symm

theorem head_bySeverity (findings : List Finding) :
    (bySeverity findings).head?.map (·.severity) = Finding.worst (bySeverity findings) := by
  have hp := bySeverity_pairwise findings
  cases h : bySeverity findings with
  | nil => rfl
  | cons f rest =>
      rw [h] at hp
      exact (Finding.worst_of_forall_le (List.pairwise_cons.1 hp).1).symm

theorem mapIdx_check_ip (peer : Nat → IpAddr → Fetch.Client → Fetch.Peer)
    (settings : Fetch.Settings) (name : String) (ips : List IpAddr) :
    (ips.mapIdx fun i ip => Fetch.check (peer i ip) settings name ip).map (·.observation.ip) =
      ips.map IpAddr.canonical :=
  List.ext_getElem (by simp) fun i _ _ => by simp [Fetch.check_ip]

theorem AddressChecks.map_ip {run : Traced Effect (List Finding × List Fetch.Checked)}
    (h : AddressChecks lookup sweep name run) (hips : HasAddresses lookup name ips)
    (hsweep : (sweep name ips).map (·.observation.ip) = ips.map IpAddr.canonical) :
    run.value.2.map (·.observation.ip) = ips.map IpAddr.canonical := by
  cases h with
  | failedIpv6 h6 _ => exact absurd h6 hips.not_error.1
  | failedIpv4 _ h4 _ => exact absurd h4 hips.not_error.2
  | noAddress h =>
      rw [hips.unique h]
      rfl
  | fetched h _ =>
      rw [← hips.unique h]
      exact hsweep

/-- A report holds all that the checks have found and nothing else, in whatever order the fetches
finish: the findings of the method, the CAA policy and the addresses, the most severe first and
otherwise in this order, and one observation for every address in the answers. -/
theorem report_assembled (schedules : (n : Nat) → Fetch.Schedule n)
    (h : (diagnoseThrough suffix lookup (fun name => Fetch.joinAll schedules fun i ip =>
      Fetch.check (peers name i ip) settings name ip) request).value = .ok d) :
    let domain := Name.normalize request.domain
    let unsuitable : Finding := ⟨"MethodNotSuitable",
      s!"A wildcard domain name ({domain}) was provided with the {request.method} validation " ++
      "method. Wildcard certificates can only be validated using dns-01.", "", .fatal⟩
    ∃ name wildcard policy reached, Name.Splits domain name wildcard ∧
      let assembled :=
        (if wildcard = true ∧ request.method ≠ .dns01 then [unsuitable] else []) ++ policy ++
          reached
      (Caa.check suffix lookup domain request.issuer).value = .ok policy ∧
        (request.method = .http01 ∧ wildcard = false →
          ∃ run, AddressChecks lookup (fun name ips =>
              ips.mapIdx fun i ip => Fetch.check (peers name i ip) settings name ip) name run ∧
            reached = run.value.1 ∧ d.report.observations = run.value.2.map (·.observation) ∧
            ∀ v6 v4, lookup ⟨name, .aaaa⟩ = .ok v6 → lookup ⟨name, .a⟩ = .ok v4 →
              ∃ ips6 ips4, Carries .aaaa v6 ips6 ∧ Carries .a v4 ips4 ∧
                d.report.observations.map (·.ip) =
                  (ips6.map IpAddr.v6 ++ ips4.map IpAddr.v4).map IpAddr.canonical) ∧
        (¬(request.method = .http01 ∧ wildcard = false) →
          reached = [] ∧ d.report.observations = []) ∧
        d.report.findings.Perm assembled ∧
        d.report.findings.Pairwise (fun f g => g.severity.rank ≤ f.severity.rank) ∧
        (∀ s, d.report.findings.filter (·.severity = s) = assembled.filter (·.severity = s)) ∧
        d.report.findings.head?.map (·.severity) = d.report.worst := by
  intro domain unsuitable
  simp only [funext (Fetch.joinAll_eq_mapIdx schedules _)] at h
  obtain ⟨policy, hp, hf, ho⟩ := diagnoseThrough_eq_ok h
  have hs : Name.Splits domain (Name.splitWildcard domain).1 (Name.splitWildcard domain).2 :=
    Name.splits_splitWildcard domain
  rw [Request.unsuitable_eq hs, methodNotSuitable] at hf
  refine ⟨_, _, policy, _, hs, hp, fun hstage => ?_, fun hstage => ?_, hf ▸ bySeverity_perm _,
    hf ▸ bySeverity_pairwise _, hf ▸ filter_bySeverity _, ?_⟩
  · rw [ho, Request.reached_of_stage hs hstage]
    refine ⟨_, checkAddresses_run .., rfl, rfl, fun v6 v4 h6 h4 => ?_⟩
    obtain ⟨ips6, hc6⟩ := exists_carries Record.aaaa v6
    obtain ⟨ips4, hc4⟩ := exists_carries Record.a v4
    refine ⟨ips6, ips4, hc6, hc4, ?_⟩
    rw [List.map_map]
    exact (checkAddresses_run ..).map_ip ⟨v6, v4, ips6, ips4, h6, h4, hc6, hc4, rfl⟩
      (mapIdx_check_ip _ _ _ _)
  · rw [ho, Request.reached_of_no_stage hs hstage]
    exact ⟨rfl, rfl⟩
  · rw [Report.worst, hf]
    exact head_bySeverity _

/-- The fetches finish in reverse order. One address is there three times, once in its IPv6 form, a
record of another type stands beside it, and only the second fetch fails. -/
theorem report_assembled_same_address :
    let v4 := Ipv4.ofOctets [192, 0, 2, 1]
    let v6 := Ipv6.ofList [0, 0, 0, 0, 0, 0xFFFF, 0xC000, 0x0201]
    let lookup : Lookup := fun query =>
      .ok (match query.type with
        | .aaaa => [.aaaa v6, .a (Ipv4.ofOctets [192, 0, 2, 9])]
        | .a => [.a v4, .a v4]
        | _ => [])
    let peers : String → Nat → IpAddr → Fetch.Client → Fetch.Peer := fun _ i _ _ _ _ =>
      if i = 1 then .failure ["connection refused"] else .response ⟨200, []⟩
    let schedules : (n : Nat) → Fetch.Schedule n := fun n =>
      ⟨(List.finRange n).reverse, List.reverse_perm _⟩
    ∃ d, (diagnoseThrough (fun _ => some "com") lookup (fun name =>
        Fetch.joinAll schedules fun i ip => Fetch.check (peers name i ip) {} name ip)
        { domain := "Example.com." }).value = .ok d ∧
      d.report.observations.map (·.ip) = [.v4 v4, .v4 v4, .v4 v4] ∧
      d.report.findings.map (·.name) = ["ANotWorking"] := by
  intro v4 v6 lookup peers schedules
  obtain ⟨d, hd⟩ : ∃ d, (diagnoseThrough (fun _ => some "com") lookup (fun name =>
      Fetch.joinAll schedules fun i ip => Fetch.check (peers name i ip) {} name ip)
      { domain := "Example.com." }).value = .ok d := exists_eq_ok (by decide +kernel)
  obtain ⟨name, wildcard, policy, reached, hs, hp, hstage, -, hperm, -⟩ :=
    report_assembled schedules hd
  have hnormal : Name.normalize "Example.com." = "example.com" := by decide +kernel
  rw [hnormal] at hs hp
  obtain ⟨rfl, rfl⟩ := hs.unique (.plain (by decide))
  have hips : HasAddresses lookup "example.com" [.v6 v6, .v4 v4, .v4 v4] :=
    hasAddresses_iff.2 ⟨_, _, rfl, rfl, by decide⟩
  obtain ⟨run, hchecks, rfl, -, hobserved⟩ := hstage ⟨rfl, rfl⟩
  refine ⟨d, hd, ?_, ?_⟩
  · obtain ⟨ips6, ips4, hc6, hc4, hobserved⟩ := hobserved _ _ rfl rfl
    rw [hobserved, ← hc6.filterMap_ipv6?, ← hc4.filterMap_ipv4?]
    decide
  · have hnone : (Caa.check (fun _ => some "com") lookup "example.com" defaultIssuer).value =
        .ok [] := by decide +kernel
    obtain rfl : policy = [] := (Except.ok.inj (hnone.symm.trans hp)).symm
    have hreached : run.value.1.map (·.name) = ["ANotWorking"] := by
      cases hchecks with
      | failedIpv6 h6 _ => cases h6
      | failedIpv4 _ h4 _ => cases h4
      | noAddress h => exact absurd (hips.unique h) (by simp)
      | fetched h _ =>
          rw [← hips.unique h]
          decide +kernel
    have hnames := hperm.map (·.name)
    rw [if_neg (by simp), List.nil_append, List.nil_append, hreached] at hnames
    exact List.perm_singleton.1 hnames

end IssuanceCheck
