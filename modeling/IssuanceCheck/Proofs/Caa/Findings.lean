import IssuanceCheck.Proofs.Caa.Decision
import IssuanceCheck.Proofs.Caa.Walk

namespace IssuanceCheck.Caa

open Dns

variable {lookup : Lookup} {suffix : String → Option String} {wildcard : Bool}
  {domain issuer level name : String} {findings : List Finding} {f : Finding} {path : List String}

/-- A name whose answer does not stand against issuance: it comes back, and the CAA records in it, if
there are any, permit the issuer. -/
def Permits (lookup : Lookup) (wildcard : Bool) (issuer level : String) : Prop :=
  ∃ answer records, lookup ⟨level, .caa⟩ = .ok answer ∧ Carries .caa answer records ∧
    (records = [] ∨ (∀ r ∈ records, ¬r.IsCriticalUnknown) ∧ IsPermitted records wildcard issuer)

theorem evaluate_severity {records : List CaaRecord}
    (h : evaluate domain wildcard records issuer = some f) : f.severity = .fatal := by
  simp only [evaluate] at h
  split at h
  · cases h
    rfl
  · split at h
    · cases h
    · split at h
      · cases h
      · cases h
        rfl

theorem Decides.severity {answer : Answer}
    (h : Decides wildcard issuer level answer (.ok findings)) (hf : f ∈ findings) :
    f.severity = .fatal := by
  cases h with
  | policy hc => exact evaluate_severity (Option.mem_toList.1 hf)
  | unresolved h =>
      rw [List.mem_singleton.1 hf]
      exact h.severity_eq

theorem walk_severity (h : (walk lookup wildcard issuer path).value = .ok findings)
    (hf : f ∈ findings) : f.severity = .fatal := by
  rcases walk_decides lookup wildcard issuer path with ⟨_, _, hv⟩ | ⟨_, level, _, _, _, _, hv⟩
  · rw [hv] at h
    cases h
    cases hf
  · rw [h] at hv
    exact hv.severity hf

theorem permits_of_silent (h : IsSilent lookup level) (wildcard : Bool) (issuer : String) :
    Permits lookup wildcard issuer level := by
  obtain ⟨answer, ha, hc⟩ := h
  rw [← filterMap_caa?_eq_nil_iff] at hc
  exact ⟨answer, [], ha, carries_caa_iff.2 hc, .inl rfl⟩

theorem Decides.eq_nil_iff {value : Except CheckError (List Finding)}
    (h : Decides wildcard issuer level (lookup ⟨level, .caa⟩) value) (hs : ¬IsSilent lookup level) :
    value = .ok [] ↔ Permits lookup wildcard issuer level := by
  generalize ha : lookup ⟨level, .caa⟩ = answer at h
  cases h with
  | @policy answer records hc =>
      rw [Except.ok.injEq, Option.toList_eq_nil_iff, evaluate_eq_none_iff]
      constructor
      · rintro ⟨hu, hp⟩
        exact ⟨answer, records, ha, hc, .inr ⟨fun r hr hr' => hu ⟨r, hr, hr'⟩, hp⟩⟩
      · rintro ⟨answer', records', ha', hc', hp⟩
        cases ha.symm.trans ha'
        obtain rfl : records = records' := hc.filterMap_caa?.symm.trans hc'.filterMap_caa?
        rcases hp with rfl | ⟨hu, hp⟩
        · exact absurd ((isSilent_of_ok ha).2 hc.filterMap_caa?) hs
        · exact ⟨fun ⟨r, hr, hr'⟩ => hu r hr hr', hp⟩
  | unresolved =>
      refine iff_of_false (by simp) ?_
      rintro ⟨answer, records, ha', -⟩
      cases ha.symm.trans ha'
  | invalidName =>
      refine iff_of_false (by simp) ?_
      rintro ⟨answer, records, ha', -⟩
      cases ha.symm.trans ha'

theorem walk_eq_nil_iff (lookup : Lookup) (wildcard : Bool) (issuer : String) (path : List String) :
    (walk lookup wildcard issuer path).value = .ok [] ↔
      ∀ front level behind, path = front ++ level :: behind →
        (∀ l ∈ front, IsSilent lookup l) → Permits lookup wildcard issuer level := by
  induction path with
  | nil => simp [walk]
  | cons level path ih =>
      by_cases h : IsSilent lookup level
      · rw [(walk_of_silent h wildcard issuer path).2, ih]
        constructor
        · rintro hall (_ | ⟨l, front⟩) decider behind heq hs
          · cases heq
            exact permits_of_silent h wildcard issuer
          · cases heq
            exact hall front decider behind rfl fun l' hl => hs l' (List.mem_cons_of_mem _ hl)
        · rintro hall front decider behind rfl hs
          exact hall (level :: front) decider behind rfl (List.forall_mem_cons.2 ⟨h, hs⟩)
      · rw [(walk_of_not_silent h wildcard issuer path).2.eq_nil_iff h]
        constructor
        · rintro hp (_ | ⟨l, front⟩) decider behind heq hs
          · cases heq
            exact hp
          · cases heq
            exact absurd (hs level List.mem_cons_self) h
        · exact fun hall => hall [] level path rfl (by simp)

theorem check_eq_walk (hs : Name.Splits domain name wildcard)
    (h : (check suffix lookup domain issuer).value = .ok findings) :
    check suffix lookup domain issuer =
      walk lookup wildcard issuer (Name.searchPath suffix name) := by
  by_cases hn : name = "" ∨ suffix name = none
  · rw [check_of_invalid hs hn] at h
    cases h
  · exact check_of_valid hs hn issuer

theorem check_severity (h : (check suffix lookup domain issuer).value = .ok findings)
    (hf : f ∈ findings) : f.severity = .fatal := by
  rw [check_eq_walk (Name.splits_splitWildcard domain) h] at h
  exact walk_severity h hf

end IssuanceCheck.Caa
