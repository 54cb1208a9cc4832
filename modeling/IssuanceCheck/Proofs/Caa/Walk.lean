import IssuanceCheck.Caa.Walk
import IssuanceCheck.Proofs.Dns.Carries
import IssuanceCheck.Proofs.Finding
import IssuanceCheck.Proofs.Name.Climb
import IssuanceCheck.Proofs.Name.Wildcard

namespace IssuanceCheck.Caa

open Dns

variable {lookup : Lookup} {level : String} {answer : List Record}

/-- A name that answers without any CAA record leaves the decision to the names above it. -/
def IsSilent (lookup : Lookup) (level : String) : Prop :=
  ∃ answer, lookup ⟨level, .caa⟩ = .ok answer ∧ ∀ r, .caa r ∉ answer

/-- What the answer of the name that decides comes to. -/
inductive Decides (wildcard : Bool) (issuer level : String) :
    Answer → Except CheckError (List Finding) → Prop where
  | policy {answer records} (h : Carries .caa answer records) :
      Decides wildcard issuer level (.ok answer)
        (.ok (evaluate level wildcard records issuer).toList)
  | unresolved {reason f} (h : f.IsLookupFailure level "CAA" reason) :
      Decides wildcard issuer level (.error (.unresolved reason)) (.ok [f])
  | invalidName (name reason : String) :
      Decides wildcard issuer level (.error (.invalidName name reason))
        (.error (.lookup level (.invalidName name reason)))

def caaQueries (path : List String) : List Query := path.map (⟨·, .caa⟩)

theorem isSilent_of_ok (h : lookup ⟨level, .caa⟩ = .ok answer) :
    IsSilent lookup level ↔ answer.filterMap Record.caa? = [] := by
  rw [filterMap_caa?_eq_nil_iff]
  constructor
  · rintro ⟨answer', ha, hc⟩
    cases h.symm.trans ha
    exact hc
  · exact fun hc => ⟨answer, h, hc⟩

theorem walk_of_silent (h : IsSilent lookup level) (wildcard : Bool) (issuer : String)
    (path : List String) :
    (walk lookup wildcard issuer (level :: path)).trace =
        ⟨level, .caa⟩ :: (walk lookup wildcard issuer path).trace ∧
      (walk lookup wildcard issuer (level :: path)).value =
        (walk lookup wildcard issuer path).value := by
  obtain ⟨answer, ha, hc⟩ := h
  rw [← filterMap_caa?_eq_nil_iff] at hc
  constructor <;> simp [walk, ha, hc]

theorem walk_of_not_silent (h : ¬IsSilent lookup level) (wildcard : Bool) (issuer : String)
    (path : List String) :
    (walk lookup wildcard issuer (level :: path)).trace = [⟨level, .caa⟩] ∧
      Decides wildcard issuer level (lookup ⟨level, .caa⟩)
        (walk lookup wildcard issuer (level :: path)).value := by
  cases ha : lookup ⟨level, .caa⟩ with
  | error e =>
      cases e with
      | invalidName name reason =>
          refine ⟨by simp [walk, ha], ?_⟩
          simp only [walk, Traced.bind_value, ask_value, ha, Traced.pure_value]
          exact .invalidName name reason
      | unresolved reason =>
          refine ⟨by simp [walk, ha], ?_⟩
          simp only [walk, Traced.bind_value, ask_value, ha, Traced.pure_value]
          exact .unresolved (Finding.isLookupFailure_dnsLookupFailed level "CAA" reason)
  | ok answer =>
      cases hc : answer.filterMap Record.caa? with
      | nil => exact absurd ((isSilent_of_ok ha).2 hc) h
      | cons record records =>
          refine ⟨by simp [walk, ha, hc], ?_⟩
          simp only [walk, Traced.bind_value, ask_value, ha, hc, Traced.pure_value]
          exact .policy (carries_caa_iff.2 hc)

theorem walk_decides (lookup : Lookup) (wildcard : Bool) (issuer : String) (path : List String) :
    ((∀ level ∈ path, IsSilent lookup level) ∧
        (walk lookup wildcard issuer path).trace = caaQueries path ∧
        (walk lookup wildcard issuer path).value = .ok []) ∨
      ∃ i level, path[i]? = some level ∧ (∀ l ∈ path.take i, IsSilent lookup l) ∧
        ¬IsSilent lookup level ∧
        (walk lookup wildcard issuer path).trace = caaQueries (path.take (i + 1)) ∧
        Decides wildcard issuer level (lookup ⟨level, .caa⟩)
          (walk lookup wildcard issuer path).value := by
  induction path with
  | nil => exact .inl ⟨by simp, rfl, rfl⟩
  | cons level path ih =>
      by_cases h : IsSilent lookup level
      · obtain ⟨hq, hv⟩ := walk_of_silent h wildcard issuer path
        rcases ih with ⟨hs, hq', hv'⟩ | ⟨i, decider, hi, hs, hd, hq', hv'⟩
        · exact .inl ⟨by simpa [h] using hs, by rw [hq, hq']; rfl, by rw [hv, hv']⟩
        · refine .inr ⟨i + 1, decider, by simpa using hi, by simpa [h] using hs, hd, ?_, ?_⟩
          · rw [hq, hq']
            rfl
          · rwa [hv]
      · obtain ⟨hq, hv⟩ := walk_of_not_silent h wildcard issuer path
        exact .inr ⟨0, level, rfl, by simp, h, by rw [hq]; rfl, hv⟩

section

variable {suffix : String → Option String} {domain name : String} {wildcard : Bool}

theorem check_of_invalid (hs : Name.Splits domain name wildcard)
    (h : name = "" ∨ suffix name = none) (issuer : String) :
    check suffix lookup domain issuer =
      pure (.error (.invalidDomain domain "no public suffix")) := by
  simp only [check, Name.splits_iff.1 hs]
  exact if_pos h

theorem check_of_valid (hs : Name.Splits domain name wildcard)
    (h : ¬(name = "" ∨ suffix name = none)) (issuer : String) :
    check suffix lookup domain issuer =
      walk lookup wildcard issuer (Name.searchPath suffix name) := by
  simp only [check, Name.splits_iff.1 hs]
  exact if_neg h

end

theorem caaQueries_nodup {path : List String} (h : path.Nodup) : (caaQueries path).Nodup :=
  h.map fun _ _ he => (Query.mk.inj he).1

/-- The policy of a domain is that of its nearest ancestor with CAA records, the name itself
included. Each name up to that one is asked once and nothing above it, and the wildcard flag of the
domain goes along with the records. -/
theorem check_nearest_ancestor (suffix : String → Option String) (lookup : Lookup)
    (domain issuer : String) :
    let run := check suffix lookup domain issuer
    ∃ name wildcard, Name.Splits domain name wildcard ∧
      let path := Name.searchPath suffix name
      if name = "" ∨ suffix name = none then
        run.trace = [] ∧ run.value = .error (.invalidDomain domain "no public suffix")
      else
        run.trace.Nodup ∧
          (((∀ level ∈ path, IsSilent lookup level) ∧ run.trace = caaQueries path ∧
              run.value = .ok []) ∨
            ∃ i level, path[i]? = some level ∧ (∀ l ∈ path.take i, IsSilent lookup l) ∧
              ¬IsSilent lookup level ∧ run.trace = caaQueries (path.take (i + 1)) ∧
              Decides wildcard issuer level (lookup ⟨level, .caa⟩) run.value) := by
  intro run
  have hs := Name.splits_splitWildcard domain
  refine ⟨_, _, hs, ?_⟩
  generalize (Name.splitWildcard domain).1 = name at hs ⊢
  generalize (Name.splitWildcard domain).2 = wildcard at hs ⊢
  intro path
  have hn : path.Nodup := Name.searchPath_nodup suffix name
  split
  next h =>
    have hr : run = pure (.error (.invalidDomain domain "no public suffix")) :=
      check_of_invalid hs h issuer
    rw [hr]
    exact ⟨rfl, rfl⟩
  next h =>
    have hr : run = walk lookup wildcard issuer path := check_of_valid hs h issuer
    rw [hr]
    have hd := walk_decides lookup wildcard issuer path
    refine ⟨?_, hd⟩
    rcases hd with ⟨_, hq, _⟩ | ⟨i, _, _, _, _, hq, _⟩
    · exact hq ▸ caaQueries_nodup hn
    · exact hq ▸ caaQueries_nodup (hn.sublist (List.take_sublist _ _))

/-- Two levels of a zone have CAA records, both with records of other types among them, and the name
below has records of other types alone. -/
theorem check_nearest_ancestor_wildcard :
    let foreign : Record := .a (Ipv4.ofOctets [192, 0, 2, 1])
    let lookup : Lookup := fun query =>
      .ok (if query.name = "c.b.test" then [foreign]
        else if query.name = "b.test" then
          [foreign, .caa ⟨"b.test", 0, "issue", "ca.test"⟩, .caa ⟨"b.test", 0, "issuewild", ";"⟩]
        else [.caa ⟨"test", 0, "issuewild", "ca.test"⟩, foreign])
    let run := check (fun _ => some "test") lookup "*.c.b.test" "ca.test"
    run.trace = caaQueries ["c.b.test", "b.test"] ∧
      ∃ f, run.value = .ok [f] ∧ f.name = "CaaIssuanceNotAllowed" := by
  intro foreign lookup run
  obtain ⟨name, wildcard, hs, h⟩ :=
    check_nearest_ancestor (fun _ => some "test") lookup "*.c.b.test" "ca.test"
  obtain ⟨rfl, rfl⟩ := hs.unique (.wildcard "c.b.test")
  have hpath : Name.searchPath (fun _ => some "test") "c.b.test" =
      ["c.b.test", "b.test", "test"] := by decide +kernel
  have hsilent : IsSilent lookup "c.b.test" := ⟨[foreign], rfl, by simp [foreign]⟩
  have hloud : ¬IsSilent lookup "b.test" := by
    rw [isSilent_of_ok rfl]
    decide
  rw [if_neg (by simp), hpath] at h
  obtain ⟨-, ⟨hall, -⟩ | ⟨i, level, hi, hbelow, hdecides, htrace, hvalue⟩⟩ := h
  · exact absurd (hall "b.test" (by simp)) hloud
  · match i with
    | 0 =>
        cases hi
        exact absurd hsilent hdecides
    | 1 =>
        cases hi
        refine ⟨htrace, ?_⟩
        generalize run.value = value at hvalue
        cases hvalue with
        | policy hc =>
            rw [← hc.filterMap_caa?]
            exact ⟨_, rfl, rfl⟩
    | i + 2 => exact absurd (hbelow "b.test" (by simp)) hloud

end IssuanceCheck.Caa
