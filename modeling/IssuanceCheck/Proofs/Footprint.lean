import IssuanceCheck.Proofs.Diagnosis

namespace IssuanceCheck

open Dns

variable {suffix : String → Option String} {lookup : Lookup} {sweep : Sweep} {request : Request}
  {name : String} {wildcard : Bool} {asked : List String}

theorem filterMap_query? (queries : List Query) :
    (queries.map Effect.query).filterMap Effect.query? = queries := by
  simp [List.filterMap_map, Function.comp_def, Effect.query?]

theorem Caa.check_asks {domain : String} (hs : Name.Splits domain name wildcard)
    (suffix : String → Option String) (lookup : Lookup) (issuer : String) :
    ∃ asked, (check suffix lookup domain issuer).trace = caaQueries asked ∧
      asked <+: Name.searchPath suffix name ∧ (asked = [] ↔ name = "" ∨ suffix name = none) := by
  by_cases hn : name = "" ∨ suffix name = none
  · rw [check_of_invalid hs hn]
    exact ⟨[], rfl, List.nil_prefix, iff_of_true rfl hn⟩
  · rw [check_of_valid hs hn]
    have hpath := Name.searchPath_ne_nil suffix name
    rcases walk_decides lookup wildcard issuer (Name.searchPath suffix name) with
      ⟨_, hq, _⟩ | ⟨i, level, hi, _, _, hq, _⟩
    · exact ⟨_, hq, List.prefix_rfl, iff_of_false hpath hn⟩
    · refine ⟨_, hq, List.take_prefix _ _, iff_of_false (fun he => ?_) hn⟩
      rcases List.take_eq_nil_iff.1 he with h | h
      · exact Nat.succ_ne_zero i h
      · exact hpath h

theorem footprint_nodup (ha : asked.Nodup) {queries : List Query}
    (hq : queries <+: [⟨name, .aaaa⟩, ⟨name, .a⟩]) : (Caa.caaQueries asked ++ queries).Nodup := by
  have hboth : [(⟨name, .aaaa⟩ : Query), ⟨name, .a⟩].Nodup := by simp
  have hn : queries.Nodup := hboth.sublist hq.sublist
  refine List.nodup_append.2 ⟨Caa.caaQueries_nodup ha, hn, ?_⟩
  rintro q hc q' hq' rfl
  obtain ⟨level, _, rfl⟩ := List.mem_map.1 hc
  simpa using hq.subset hq'

theorem diagnoseThrough_trace_of_stage {policy : List Finding}
    (hs : Name.Splits (Name.normalize request.domain) name wildcard)
    (hp : (Caa.check suffix lookup (Name.normalize request.domain) request.issuer).value =
      .ok policy) (h : request.method = .http01 ∧ wildcard = false) :
    (diagnoseThrough suffix lookup sweep request).trace =
      (Caa.check suffix lookup (Name.normalize request.domain) request.issuer).trace.map .query ++
        (checkAddresses lookup sweep name).trace := by
  rw [diagnoseThrough_of_ok hp, Request.reached_of_stage hs h]

theorem diagnoseThrough_trace_of_no_stage
    (hs : Name.Splits (Name.normalize request.domain) name wildcard)
    (h : ¬((∃ policy,
        (Caa.check suffix lookup (Name.normalize request.domain) request.issuer).value =
          .ok policy) ∧ request.method = .http01 ∧ wildcard = false)) :
    (diagnoseThrough suffix lookup sweep request).trace =
      (Caa.check suffix lookup (Name.normalize request.domain) request.issuer).trace.map
        .query := by
  cases hp : (Caa.check suffix lookup (Name.normalize request.domain) request.issuer).value with
  | error e => rw [diagnoseThrough_of_error hp]
  | ok policy =>
      rw [diagnoseThrough_of_ok hp, Request.reached_of_no_stage hs fun h' => h ⟨⟨policy, hp⟩, h'⟩]
      exact List.append_nil _

theorem diagnoseThrough_eq_error {e : Caa.CheckError}
    (h : (diagnoseThrough suffix lookup sweep request).value = .error e) :
    (Caa.check suffix lookup (Name.normalize request.domain) request.issuer).value = .error e := by
  cases hp : (Caa.check suffix lookup (Name.normalize request.domain) request.issuer).value with
  | error e' =>
      rw [diagnoseThrough_of_error hp, Except.error.injEq] at h
      rw [h]
  | ok policy =>
      rw [diagnoseThrough_of_ok hp] at h
      cases h

/-- All that a run does, in order: it asks for the policy of the domain, from the name itself up the
search path; then, for a plain name and http-01 and unless the policy check has failed, for the
addresses of that name; then it starts the validation requests, if there are addresses. -/
theorem diagnose_footprint (suffix : String → Option String) (lookup : Lookup) (sweep : Sweep)
    (request : Request) :
    let domain := Name.normalize request.domain
    let policy := (Caa.check suffix lookup domain request.issuer).value
    let run := diagnoseThrough suffix lookup sweep request
    ∃ name wildcard asked, Name.Splits domain name wildcard ∧
      asked <+: Name.searchPath suffix name ∧ (asked = [] ↔ name = "" ∨ suffix name = none) ∧
      let stage := (∃ findings, policy = .ok findings) ∧ request.method = .http01 ∧ wildcard = false
      (stage → ∃ reached, AddressChecks lookup sweep name reached ∧
        run.trace = (Caa.caaQueries asked).map .query ++ reached.trace) ∧
      (¬stage → run.trace = (Caa.caaQueries asked).map .query) ∧
      (run.trace.filterMap Effect.query?).Nodup ∧
      (∀ host ip, .fetch host ip ∈ run.trace →
        host = name ∧ ∃ ips, HasAddresses lookup name ips ∧ ip ∈ ips) ∧
      ∀ e, run.value = .error e →
        policy = .error e ∧ ∀ effect ∈ run.trace, ∃ level, effect = .query ⟨level, .caa⟩ := by
  intro domain policy run
  have hs : Name.Splits domain (Name.splitWildcard domain).1 (Name.splitWildcard domain).2 :=
    Name.splits_splitWildcard domain
  obtain ⟨asked, hq, hpath, hnil⟩ := Caa.check_asks hs suffix lookup request.issuer
  refine ⟨_, _, asked, hs, hpath, hnil, ?_⟩
  intro stage
  have hstage (h : stage) : run.trace = (Caa.caaQueries asked).map .query ++
      (checkAddresses lookup sweep (Name.splitWildcard domain).1).trace := by
    obtain ⟨⟨findings, hp⟩, hm⟩ := h
    rw [← hq]
    exact diagnoseThrough_trace_of_stage hs hp hm
  have hnone (h : ¬stage) : run.trace = (Caa.caaQueries asked).map .query := by
    rw [← hq]
    exact diagnoseThrough_trace_of_no_stage hs h
  have hchecks := checkAddresses_run lookup sweep (Name.splitWildcard domain).1
  have hasked : asked.Nodup := (Name.searchPath_nodup suffix _).sublist hpath.sublist
  refine ⟨fun h => ⟨_, hchecks, hstage h⟩, hnone, ?_, fun host ip hf => ?_, fun e hv => ?_⟩
  · by_cases h : stage
    · rw [hstage h, List.filterMap_append, filterMap_query?]
      exact footprint_nodup hasked hchecks.queries
    · rw [hnone h, filterMap_query?]
      exact Caa.caaQueries_nodup hasked
  · by_cases h : stage
    · rw [hstage h] at hf
      exact hchecks.of_fetch (by simpa using hf)
    · rw [hnone h] at hf
      simp at hf
  · have hp : policy = .error e := diagnoseThrough_eq_error hv
    have hstage' : ¬stage := by
      rintro ⟨⟨findings, h⟩, _⟩
      cases hp.symm.trans h
    rw [hnone hstage']
    refine ⟨hp, fun effect hm => ?_⟩
    simp only [Caa.caaQueries, List.mem_map] at hm
    obtain ⟨_, ⟨level, _, rfl⟩, rfl⟩ := hm
    exact ⟨level, rfl⟩

/-- Two names of the zone have CAA records, and the name below both has other records alone. It is
checked on its own and behind a wildcard. -/
theorem diagnose_footprint_two_levels :
    let v4 := Ipv4.ofOctets [192, 0, 2, 1]
    let v6 := Ipv6.ofList [0x2001, 0xDB8, 0, 0, 0, 0, 0, 1]
    let lookup : Lookup := fun query =>
      .ok (if query.type = .caa ∧ query.name ≠ "c.b.test" then
          [.a v4, .caa ⟨query.name, 0, "issue", "ca.test"⟩]
        else [.a v4, .aaaa v6])
    let trace (domain : String) :=
      (diagnoseThrough (fun _ => some "test") lookup (fun _ _ => [])
        ⟨domain, .http01, "ca.test"⟩).trace
    trace "*.c.b.test" = [.query ⟨"c.b.test", .caa⟩, .query ⟨"b.test", .caa⟩] ∧
      trace "c.b.test" = [.query ⟨"c.b.test", .caa⟩, .query ⟨"b.test", .caa⟩,
        .query ⟨"c.b.test", .aaaa⟩, .query ⟨"c.b.test", .a⟩,
        .fetch "c.b.test" (.v6 v6), .fetch "c.b.test" (.v4 v4)] := by
  intro v4 v6 lookup trace
  have hpath : Name.searchPath (fun _ => some "test") "c.b.test" =
      ["c.b.test", "b.test", "test"] := by decide +kernel
  constructor
  · obtain ⟨name, wildcard, asked, hs, hprefix, -, -, hnone, -⟩ := diagnose_footprint
      (fun _ => some "test") lookup (fun _ _ => []) ⟨"*.c.b.test", .http01, "ca.test"⟩
    have hnormal : Name.normalize "*.c.b.test" = "*." ++ "c.b.test" := by decide +kernel
    rw [hnormal] at hs
    obtain ⟨rfl, rfl⟩ := hs.unique (.wildcard _)
    have htrace : trace "*.c.b.test" = (Caa.caaQueries asked).map .query := hnone (by simp)
    have hlength : (trace "*.c.b.test").length = 2 := by decide +kernel
    rw [htrace, Caa.caaQueries, List.length_map, List.length_map] at hlength
    rw [htrace, List.prefix_iff_eq_take.1 hprefix, hlength, hpath]
    rfl
  · obtain ⟨name, wildcard, asked, hs, hprefix, -, hstage, -⟩ := diagnose_footprint
      (fun _ => some "test") lookup (fun _ _ => []) ⟨"c.b.test", .http01, "ca.test"⟩
    have hnormal : Name.normalize "c.b.test" = "c.b.test" := by decide +kernel
    rw [hnormal] at hs
    obtain ⟨rfl, rfl⟩ := hs.unique (.plain (by decide))
    have hpolicy : (Caa.check (fun _ => some "test") lookup (Name.normalize "c.b.test")
        "ca.test").value = .ok [] := by decide +kernel
    have hips : HasAddresses lookup "c.b.test" [.v6 v6, .v4 v4] :=
      hasAddresses_iff.2 ⟨_, _, rfl, rfl, rfl⟩
    obtain ⟨reached, hchecks, hreached⟩ := hstage ⟨⟨_, hpolicy⟩, rfl, rfl⟩
    have htrace : reached.trace = [.query ⟨"c.b.test", .aaaa⟩, .query ⟨"c.b.test", .a⟩,
        .fetch "c.b.test" (.v6 v6), .fetch "c.b.test" (.v4 v4)] := by
      cases hchecks with
      | failedIpv6 h6 _ => cases h6
      | failedIpv4 _ h4 _ => cases h4
      | noAddress h => exact absurd (hips.unique h) (by simp)
      | fetched h _ =>
          rw [← hips.unique h]
          rfl
    have hlength : (trace "c.b.test").length = 6 := by decide +kernel
    rw [show trace "c.b.test" = _ from hreached, htrace, List.length_append, Caa.caaQueries,
      List.length_map, List.length_map] at hlength
    have htwo : asked.length = 2 := by simpa using hlength
    rw [show trace "c.b.test" = _ from hreached, htrace, List.prefix_iff_eq_take.1 hprefix, htwo,
      hpath]
    rfl

end IssuanceCheck
