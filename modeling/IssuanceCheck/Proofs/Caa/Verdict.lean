import IssuanceCheck.Caa.Policy
import Mathlib.Tactic.SplitIfs

namespace IssuanceCheck.Caa

open Dns Text

variable {domain issuer : String} {wildcard : Bool} {records : List CaaRecord} {record : CaaRecord}

def knownTags : List String := ["issue", "issuewild", "iodef"]

theorem role_eq_issue_iff :
    role record = .issue ↔ toAsciiLower record.tag.toList = "issue".toList := by
  rw [role]
  split_ifs with h <;> simp only [h]

theorem role_eq_issuewild_iff :
    role record = .issuewild ↔ toAsciiLower record.tag.toList = "issuewild".toList := by
  rw [role]
  split_ifs with h <;> simp_all

theorem role_eq_criticalUnknown_iff :
    role record = .criticalUnknown ↔ record.isCritical = true ∧
      ∀ word ∈ knownTags, toAsciiLower record.tag.toList ≠ word.toList := by
  simp only [role, knownTags, List.forall_mem_cons, List.not_mem_nil, false_implies, implies_true,
    and_true]
  split_ifs <;> simp_all

theorem criticalUnknown_isEmpty_iff (records : List CaaRecord) :
    (!(Policy.classify records).criticalUnknown.isEmpty) = true ↔
      ∃ r ∈ records, role r = .criticalUnknown := by
  simp [Policy.classify]

theorem issue_isEmpty_iff (records : List CaaRecord) :
    (Policy.classify records).issue.isEmpty = true ↔ ¬∃ r ∈ records, role r = .issue := by
  simp [Policy.classify]

theorem applicableRole_eq (records : List CaaRecord) (wildcard : Bool) :
    (Policy.classify records).applicableRole wildcard =
      if wildcard = true ∧ ∃ r ∈ records, role r = .issuewild then .issuewild else .issue := by
  simp [Policy.applicableRole, Policy.classify]

theorem applicable_eq (records : List CaaRecord) (wildcard : Bool) :
    (Policy.classify records).applicable wildcard =
      records.filter (role · = (Policy.classify records).applicableRole wildcard) := by
  rw [Policy.applicable]
  split
  next h => rw [h]; rfl
  next h =>
    have hi : (Policy.classify records).applicableRole wildcard = .issue := by
      rw [Policy.applicableRole] at h ⊢
      split
      next hw => exact absurd (if_pos hw) h
      · rfl
    rw [hi]
    rfl

theorem mem_applicable_iff :
    record ∈ (Policy.classify records).applicable wildcard ↔ record ∈ records ∧ role record =
      if wildcard = true ∧ ∃ r ∈ records, role r = .issuewild then .issuewild else .issue := by
  rw [applicable_eq, List.mem_filter, decide_eq_true_eq, applicableRole_eq]

theorem evaluate_of_critical (h : ∃ r ∈ records, role r = .criticalUnknown) :
    evaluate domain wildcard records issuer =
      some (criticalUnknown domain wildcard (records.filter (role · = .criticalUnknown))
        issuer) := by
  rw [evaluate]
  exact if_pos ((criticalUnknown_isEmpty_iff records).2 h)

/-- Whether records that a policy knows permit an issuer: a plain name without `issue` records is
open to all, and else one of the deciding records has to name the issuer. -/
def Permitted (records : List CaaRecord) (wildcard : Bool) (issuer : String) : Prop :=
  (wildcard = false ∧ ¬∃ r ∈ records, role r = .issue) ∨
    ∃ r ∈ (Policy.classify records).applicable wildcard, Caa.issuer r.value = issuer

theorem evaluate_of_permitted (h : ¬∃ r ∈ records, role r = .criticalUnknown)
    (hp : Permitted records wildcard issuer) :
    evaluate domain wildcard records issuer = none := by
  rw [evaluate, if_neg (mt (criticalUnknown_isEmpty_iff records).1 h)]
  rcases hp with ⟨rfl, hopen⟩ | ⟨r, hr, hn⟩
  · exact if_pos (by rw [(issue_isEmpty_iff records).2 hopen]; rfl)
  · split
    · rfl
    · rw [if_pos]
      rw [List.any_eq_true]
      exact ⟨r, hr, decide_eq_true hn⟩

theorem evaluate_of_not_permitted (h : ¬∃ r ∈ records, role r = .criticalUnknown)
    (hp : ¬Permitted records wildcard issuer) :
    evaluate domain wildcard records issuer =
      some (issuanceNotAllowed domain wildcard ((Policy.classify records).applicable wildcard)
        issuer) := by
  obtain ⟨hopen, hnamed⟩ := not_or.1 hp
  rw [evaluate, if_neg (mt (criticalUnknown_isEmpty_iff records).1 h), if_neg, if_neg]
  · rw [List.any_eq_true]
    rintro ⟨r, hr, hn⟩
    exact hnamed ⟨r, hr, of_decide_eq_true hn⟩
  · rw [Bool.and_eq_true, issue_isEmpty_iff, Bool.not_eq_true']
    exact fun hn => hopen hn.symm

end IssuanceCheck.Caa
