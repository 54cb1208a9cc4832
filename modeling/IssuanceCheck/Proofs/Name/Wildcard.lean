import IssuanceCheck.Name

namespace IssuanceCheck.Name

/-- A domain name is a wildcard in front of a name, or a plain name, which has none in front. -/
inductive Splits : String → String → Bool → Prop where
  | wildcard (name : String) : Splits ("*." ++ name) name true
  | plain {name : String} (h : ¬"*.".toList <+: name.toList) : Splits name name false

theorem splitWildcard_of_wildcard (name : String) :
    splitWildcard ("*." ++ name) = (name, true) := by
  have hlist : ("*." ++ name).toList = '*' :: '.' :: name.toList := by
    rw [String.toList_append]
    rfl
  simp only [splitWildcard, hlist, String.ofList_toList]

theorem splitWildcard_of_plain {name : String} (h : ¬"*.".toList <+: name.toList) :
    splitWildcard name = (name, false) := by
  rw [splitWildcard]
  split
  next rest hlist => exact absurd ⟨rest, hlist.symm⟩ h
  next => rfl

theorem splits_iff {domain name : String} {wildcard : Bool} :
    Splits domain name wildcard ↔ splitWildcard domain = (name, wildcard) := by
  constructor
  · rintro (⟨name⟩ | h)
    · exact splitWildcard_of_wildcard name
    · exact splitWildcard_of_plain h
  · intro hsplit
    by_cases h : "*.".toList <+: domain.toList
    · obtain ⟨rest, hrest⟩ := h
      obtain rfl : "*." ++ String.ofList rest = domain := by
        rw [← String.toList_inj, ← hrest]
        simp only [String.toList_append, String.toList_ofList]
      rw [splitWildcard_of_wildcard] at hsplit
      cases hsplit
      exact .wildcard _
    · rw [splitWildcard_of_plain h] at hsplit
      cases hsplit
      exact .plain h

theorem Splits.unique {domain name name' : String} {wildcard wildcard' : Bool}
    (h : Splits domain name wildcard) (h' : Splits domain name' wildcard') :
    name = name' ∧ wildcard = wildcard' :=
  Prod.mk.inj ((splits_iff.1 h).symm.trans (splits_iff.1 h'))

theorem splits_splitWildcard (domain : String) :
    Splits domain (splitWildcard domain).1 (splitWildcard domain).2 :=
  splits_iff.2 rfl

end IssuanceCheck.Name
