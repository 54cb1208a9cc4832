import IssuanceCheck.Suffix
import IssuanceCheck.Proofs.Name.Path
import IssuanceCheck.Proofs.Text.Joined

namespace IssuanceCheck.Suffix

open Text Name

def Mark.best (depth best : Nat) : Mark → Nat
  | .inner => best
  | .rule => depth + 1
  | .exception => depth

namespace Rules

variable {rules : Rules} {key label : String} {depth best : Nat} {labels front : List String}

def child? (rules : Rules) (key label : String) : Option (String × Mark) :=
  match rules[place key label]? with
  | some mark => some (place key label, mark)
  | none => (rules[place key "*"]?).map (place key "*", ·)

theorem descend_nil (rules : Rules) (key : String) (depth best : Nat) :
    descend rules key depth best [] = best := by
  rw [descend]

theorem descend_of_child {next : String} {mark : Mark}
    (h : child? rules key label = some (next, mark)) :
    descend rules key depth best (label :: labels) =
      descend rules next (depth + 1) (mark.best depth best) labels := by
  cases hfound : rules[place key label]? with
  | some found =>
      simp only [child?, hfound, Option.some.injEq, Prod.mk.injEq] at h
      obtain ⟨rfl, rfl⟩ := h
      simp only [descend, hfound]
      cases found <;> rfl
  | none =>
      simp only [child?, hfound, Option.map_eq_some_iff, Prod.mk.injEq] at h
      obtain ⟨found, hwild, rfl, rfl⟩ := h
      simp only [descend, hfound, hwild]
      cases found <;> rfl

theorem descend_of_no_child (h : child? rules key label = none) :
    descend rules key depth best (label :: labels) = best := by
  cases hfound : rules[place key label]? with
  | some found => simp only [child?, hfound, reduceCtorEq] at h
  | none =>
      simp only [child?, hfound, Option.map_eq_none_iff] at h
      simp only [descend, hfound, h]

theorem descend_le (h : best ≤ depth) :
    descend rules key depth best labels ≤ depth + labels.length := by
  induction labels generalizing key depth best with
  | nil => rwa [descend_nil]
  | cons label labels ih =>
      rw [List.length_cons]
      cases hchild : child? rules key label with
      | none =>
          rw [descend_of_no_child hchild]
          omega
      | some child =>
          obtain ⟨next, mark⟩ := child
          rw [descend_of_child hchild]
          have hbest : mark.best depth best ≤ depth + 1 := by
            cases mark <;> simp only [Mark.best] <;> omega
          have hrest : descend rules next (depth + 1) (mark.best depth best) labels ≤
              depth + 1 + labels.length := ih hbest
          omega

def HasException (rules : Rules) : Prop := ∃ key : String, rules[key]? = some Mark.exception

theorem mark_ne_exception (hrules : ¬HasException rules) {next : String} {mark : Mark}
    (h : child? rules key label = some (next, mark)) : mark ≠ .exception := by
  rintro rfl
  unfold child? at h
  split at h
  next hfound =>
    cases h
    exact hrules ⟨_, hfound⟩
  next =>
    obtain ⟨found, hfound, he⟩ := Option.map_eq_some_iff.1 h
    cases he
    exact hrules ⟨_, hfound⟩

theorem descend_eq_or_le (rules : Rules) (key : String) (depth best : Nat) (labels : List String) :
    descend rules key depth best labels = best ∨
      depth ≤ descend rules key depth best labels ∧
        (¬HasException rules → depth < descend rules key depth best labels) := by
  induction labels generalizing key depth best with
  | nil => exact .inl (descend_nil rules key depth best)
  | cons label labels ih =>
      cases hchild : child? rules key label with
      | none => exact .inl (descend_of_no_child hchild)
      | some child =>
          obtain ⟨next, mark⟩ := child
          rw [descend_of_child hchild]
          rcases ih next (depth + 1) (mark.best depth best) with h | ⟨h, -⟩
          · rw [h]
            cases mark with
            | inner => exact .inl rfl
            | rule => exact .inr ⟨Nat.le_succ depth, fun _ => Nat.lt_succ_self depth⟩
            | exception =>
                exact .inr ⟨Nat.le_refl depth, fun hr => absurd rfl (mark_ne_exception hr hchild)⟩
          · exact .inr ⟨by omega, fun _ => by omega⟩

theorem descend_prefix (hfront : front <+: labels)
    (h : descend rules key depth best labels < depth + front.length ∨
      ¬HasException rules ∧ descend rules key depth best labels ≤ depth + front.length) :
    descend rules key depth best front = descend rules key depth best labels := by
  induction front generalizing key depth best labels with
  | nil =>
      rw [List.length_nil, Nat.add_zero] at h
      rw [descend_nil]
      rcases descend_eq_or_le rules key depth best labels with he | ⟨hle, hlt⟩
      · exact he.symm
      · rcases h with h | ⟨hrules, h⟩
        · omega
        · have := hlt hrules
          omega
  | cons label front ih =>
      obtain ⟨behind, rfl⟩ := hfront
      rw [List.cons_append] at h ⊢
      cases hchild : child? rules key label with
      | none => rw [descend_of_no_child hchild, descend_of_no_child hchild]
      | some child =>
          obtain ⟨next, mark⟩ := child
          rw [descend_of_child hchild] at h ⊢
          rw [descend_of_child hchild]
          refine ih (List.prefix_append front behind) ?_
          rw [List.length_cons] at h
          rcases h with h | ⟨hrules, h⟩
          · exact .inl (by omega)
          · exact .inr ⟨hrules, by omega⟩

def labelsOf (cs : List Char) : List String := (cs.splitOn '.').reverse.map String.ofList

def covered (rules : Rules) : List String → Nat
  | [] => 0
  | first :: rest => if rules.contains first then descend rules first 1 1 rest else 1

theorem covered_pos (rules : Rules) (hne : labels ≠ []) : 1 ≤ covered rules labels := by
  obtain ⟨first, rest, rfl⟩ := List.exists_cons_of_ne_nil hne
  rw [covered]
  split
  · rcases descend_eq_or_le rules first 1 1 rest with h | ⟨h, -⟩
    · exact h.ge
    · exact h
  · exact Nat.le_refl 1

theorem covered_le (rules : Rules) (labels : List String) :
    covered rules labels ≤ labels.length := by
  cases labels with
  | nil => exact Nat.le_refl 0
  | cons first rest =>
      rw [covered, List.length_cons]
      split
      · have hrest : descend rules first 1 1 rest ≤ 1 + rest.length := descend_le (Nat.le_refl 1)
        omega
      · omega

theorem covered_prefix (hfront : front <+: labels) (hne : front ≠ [])
    (h : covered rules labels < front.length ∨
      ¬HasException rules ∧ covered rules labels ≤ front.length) :
    covered rules front = covered rules labels := by
  obtain ⟨first, rest, rfl⟩ := List.exists_cons_of_ne_nil hne
  obtain ⟨behind, rfl⟩ := hfront
  rw [List.cons_append, covered] at h ⊢
  rw [covered]
  split
  next hfirst =>
    refine descend_prefix (List.prefix_append rest behind) ?_
    rw [if_pos hfirst, List.length_cons] at h
    rcases h with h | ⟨hrules, h⟩
    · exact .inl (by omega)
    · exact .inr ⟨hrules, by omega⟩
  · rfl

theorem isAligned_iff_splitOn {t cs : List Char} :
    IsAligned t cs ↔ t.splitOn '.' <:+ cs.splitOn '.' := by
  constructor
  · rintro (rfl | ⟨front, rfl⟩)
    · exact List.suffix_refl _
    · rw [List.splitOn_append_cons_self]
      exact List.suffix_append _ _
  · rintro ⟨front, h⟩
    rw [← joinWith_splitOn '.' cs, ← h]
    cases front with
    | nil => exact .inl (joinWith_splitOn '.' t).symm
    | cons first rest =>
        refine .inr ⟨joinWith ['.'] (first :: rest), ?_⟩
        rw [joinWith_append (List.cons_ne_nil first rest) (List.splitOn_ne_nil '.' t),
          joinWith_splitOn]

theorem publicSuffix_of_unrooted {name : String} (hroot : name.toList.getLast? ≠ some '.') :
    rules.publicSuffix name =
      let suffix := joinWith ['.']
        ((name.toList.splitOn '.').reverse.take (covered rules (labelsOf name.toList))).reverse
      if suffix.isEmpty then none else some (String.ofList suffix) := by
  have hdef : rules.publicSuffix name =
      let rooted := name.toList.getLast? == some '.'
      let stem := if rooted then name.toList.dropLast else name.toList
      let suffix := joinWith ['.']
        ((stem.splitOn '.').reverse.take (covered rules (labelsOf stem))).reverse
      if suffix.isEmpty && !rooted then none else some (String.ofList suffix) := rfl
  have hrooted : (name.toList.getLast? == some '.') = false := beq_eq_false_iff_ne.2 hroot
  simp only [hdef, hrooted, Bool.false_eq_true, if_false, Bool.not_false, Bool.and_true]

theorem publicSuffix_eq {name : String} {parts : List (List Char)}
    (hroot : name.toList.getLast? ≠ some '.') (hparts : parts <:+ name.toList.splitOn '.')
    (hlength : covered rules (labelsOf name.toList) = parts.length)
    (hne : joinWith ['.'] parts ≠ []) :
    rules.publicSuffix name = some (String.ofList (joinWith ['.'] parts)) := by
  have htake : (name.toList.splitOn '.').reverse.take parts.reverse.length = parts.reverse :=
    (List.prefix_iff_eq_take.1 (List.reverse_prefix.2 hparts)).symm
  rw [publicSuffix_of_unrooted hroot, hlength, ← List.length_reverse, htake, List.reverse_reverse]
  exact if_neg (mt List.isEmpty_iff.1 hne)

theorem prefix_labelsOf {t cs : List Char} (h : t.splitOn '.' <:+ cs.splitOn '.') :
    labelsOf t <+: labelsOf cs :=
  (List.reverse_prefix.2 h).map String.ofList

theorem length_labelsOf (cs : List Char) : (labelsOf cs).length = (cs.splitOn '.').length := by
  rw [labelsOf, List.length_map, List.length_reverse]

theorem labelsOf_ne_nil (cs : List Char) : labelsOf cs ≠ [] := by
  intro h
  have := length_labelsOf cs
  rw [h] at this
  exact List.splitOn_ne_nil '.' cs (List.length_eq_zero_iff.1 this.symm)

theorem getLast?_of_suffix {t cs : List Char} (h : t <:+ cs) (hne : t ≠ []) :
    t.getLast? = cs.getLast? := by
  obtain ⟨front, rfl⟩ := h
  rw [List.getLast?_append_of_ne_nil front hne]

/-- A name that does not end in a dot has a suffix, which is aligned with it. Every longer aligned
name has the same one, and so has the suffix itself, unless there are exceptions. -/
theorem publicSuffix_stable (rules : Rules) {name : String} (hne : name ≠ "")
    (hroot : name.toList.getLast? ≠ some '.') :
    ∃ s, rules.publicSuffix name = some s ∧ s ≠ "" ∧ IsAligned s.toList name.toList ∧
      ∀ t : String, IsAligned t.toList name.toList → s.toList <:+ t.toList →
        t ≠ s ∨ ¬HasException rules → rules.publicSuffix t = some s := by
  let whole := name.toList.splitOn '.'
  let count := covered rules (labelsOf name.toList)
  have hcount : count ≤ whole.length :=
    (covered_le rules _).trans_eq (length_labelsOf name.toList)
  let parts := whole.drop (whole.length - count)
  have hlength : count = parts.length := by
    rw [List.length_drop]
    omega
  have hparts : parts <:+ whole := List.drop_suffix _ _
  have hpartsne : parts ≠ [] := by
    have := covered_pos rules (labelsOf_ne_nil name.toList)
    exact List.length_pos_iff.1 (by omega)
  have hsplit : (joinWith ['.'] parts).splitOn '.' = parts :=
    splitOn_joinWith (fun t ht => not_mem_of_mem_splitOn (hparts.subset ht)) hpartsne
  have haligned : IsAligned (joinWith ['.'] parts) name.toList :=
    isAligned_iff_splitOn.2 (hsplit.symm ▸ hparts)
  have hsuffixne : joinWith ['.'] parts ≠ [] := by
    intro h
    rcases h ▸ haligned with h | ⟨front, hfront⟩
    · exact hne (String.toList_eq_nil_iff.1 h.symm)
    · exact hroot (by simp [hfront])
  refine ⟨String.ofList (joinWith ['.'] parts), publicSuffix_eq hroot hparts hlength hsuffixne,
    ?_, ?_, ?_⟩
  · exact fun h => hsuffixne (String.ofList_eq_empty_iff.1 h)
  · rwa [String.toList_ofList]
  · intro t ht hsuffix hor
    rw [String.toList_ofList] at hsuffix
    have htne : t.toList ≠ [] := fun h => hsuffixne (List.suffix_nil.1 (h ▸ hsuffix))
    have htroot : t.toList.getLast? ≠ some '.' := by rwa [getLast?_of_suffix ht.suffix htne]
    have htparts : t.toList.splitOn '.' <:+ whole := isAligned_iff_splitOn.1 ht
    -- `t` has all labels of `s`. These decide the suffix, unless an exception has one label more.
    have hle : parts <:+ t.toList.splitOn '.' := by
      rcases List.suffix_or_suffix_of_suffix hparts htparts with h | h
      · exact h
      · rw [← hsplit] at h
        have heq := hsuffix.eq_of_length_le (isAligned_iff_splitOn.2 h).length_le
        have hsame : t.toList.splitOn '.' = parts := by rw [← heq, hsplit]
        exact hsame.symm ▸ List.suffix_refl _
    refine publicSuffix_eq htroot hle ?_ hsuffixne
    rw [← hlength]
    refine covered_prefix (prefix_labelsOf htparts) (labelsOf_ne_nil t.toList) ?_
    have hlast : count ≤ (labelsOf t.toList).length := by
      rw [hlength, length_labelsOf]
      exact hle.length_le
    rcases hor with hts | hrules
    · refine .inl (Nat.lt_of_le_of_ne hlast fun he => hts ?_)
      rw [length_labelsOf] at he
      rw [hle.eq_of_length (hlength ▸ he), joinWith_splitOn, String.ofList_toList]
    · exact .inr ⟨hrules, hlast⟩

end Rules

end IssuanceCheck.Suffix
