import IssuanceCheck.Proofs.Name.Climb
import Mathlib.Data.List.Chain

namespace IssuanceCheck.Name

open Text

variable {boundary : List Char → Bool} {cs p s t : List Char}

theorem parentChars?_eq_some_iff :
    parentChars? cs = some p ↔ p ≠ [] ∧ ∃ label, '.' ∉ label ∧ cs = label ++ '.' :: p := by
  simp only [parentChars?, Option.filter_eq_some_iff, Option.map_eq_some_iff, Bool.not_eq_true',
    List.isEmpty_eq_false_iff]
  constructor
  · rintro ⟨⟨⟨label, rest⟩, hsplit, rfl⟩, hne⟩
    obtain ⟨hcs, hdot⟩ := splitFirst?_eq_some hsplit
    exact ⟨hne, label, hdot, hcs⟩
  · rintro ⟨hne, label, hdot, rfl⟩
    exact ⟨⟨(label, p), splitFirst?_append hdot p, rfl⟩, hne⟩

/-- What is left of a name behind nothing, or behind one of its dots. -/
def IsAligned (t cs : List Char) : Prop := t = cs ∨ ∃ front, cs = front ++ '.' :: t

theorem IsAligned.suffix (h : IsAligned t cs) : t <:+ cs := by
  rcases h with rfl | ⟨front, rfl⟩
  · exact List.suffix_refl t
  · exact ⟨front ++ ['.'], by simp⟩

theorem IsAligned.length_le (h : IsAligned t cs) : t.length ≤ cs.length := h.suffix.length_le

theorem isAligned_append_iff {label : List Char} (hdot : '.' ∉ label) :
    IsAligned t (label ++ '.' :: p) ↔ t = label ++ '.' :: p ∨ IsAligned t p := by
  refine or_congr_right ⟨?_, ?_⟩
  · rintro ⟨front, h⟩
    rcases List.append_eq_append_iff.1 h with ⟨rest, hfront, hp⟩ | ⟨rest, hlabel, ht⟩
    · cases rest with
      | nil => exact .inl (List.cons.inj hp).2.symm
      | cons c rest => exact .inr ⟨rest, (List.cons.inj hp).2⟩
    · cases rest with
      | nil => exact .inl (List.cons.inj ht).2
      | cons c rest =>
          rw [hlabel, ← (List.cons.inj ht).1] at hdot
          exact absurd (by simp) hdot
  · rintro (rfl | ⟨front, rfl⟩)
    · exact ⟨label, rfl⟩
    · exact ⟨label ++ '.' :: front, by simp⟩

theorem isAligned_of_parent (hp : parentChars? cs = some p) :
    IsAligned t cs ↔ t = cs ∨ IsAligned t p := by
  obtain ⟨-, label, hdot, rfl⟩ := parentChars?_eq_some_iff.1 hp
  exact isAligned_append_iff hdot

theorem isAligned_of_parent_none (hp : parentChars? cs = none) (ht : t ≠ []) :
    IsAligned t cs ↔ t = cs := by
  cases hsplit : splitFirst? '.' cs with
  | none =>
      refine or_iff_left ?_
      rintro ⟨front, rfl⟩
      exact splitFirst?_eq_none.1 hsplit (by simp)
  | some parts =>
      obtain ⟨label, rest⟩ := parts
      obtain ⟨rfl, hdot⟩ := splitFirst?_eq_some hsplit
      have hrest : rest = [] := by
        by_contra hne
        cases hp.symm.trans (parentChars?_eq_some_iff.2 ⟨hne, label, hdot, rfl⟩)
      rw [isAligned_append_iff hdot, hrest]
      exact or_iff_left fun h => ht (List.suffix_nil.1 h.suffix)

theorem head?_climb (boundary : List Char → Bool) (cs : List Char) :
    (climb boundary cs).head? = some cs := by
  rw [climb]
  split
  · rfl
  · split <;> rfl

theorem climb_steps (boundary : List Char → Bool) (cs : List Char) :
    (climb boundary cs).IsChain (fun n p => parentChars? n = some p) ∧
      (∀ n ∈ (climb boundary cs).dropLast, boundary n = false) ∧
      ∃ last, (climb boundary cs).getLast? = some last ∧
        (boundary last = true ∨ parentChars? last = none) := by
  induction cs using climb.induct boundary with
  | case1 cs hb =>
      rw [climb_of_boundary hb]
      exact ⟨.singleton cs, by simp, cs, rfl, .inl hb⟩
  | case2 cs hb hp =>
      rw [climb_of_parent_none hp]
      exact ⟨.singleton cs, by simp, cs, rfl, .inr hp⟩
  | case3 cs hb p hp ih =>
      obtain ⟨hchain, hfront, last, hlast, hstop⟩ := ih
      have hhead := head?_climb boundary p
      rw [climb_of_parent hb hp]
      refine ⟨?_, ?_, last, ?_, hstop⟩
      · refine List.isChain_cons.2 ⟨fun n hn => ?_, hchain⟩
        rw [hhead] at hn
        exact hp.trans hn
      · rw [List.dropLast_cons_of_ne_nil (climb_ne_nil boundary p)]
        exact List.forall_mem_cons.2 ⟨Bool.eq_false_iff.2 hb, hfront⟩
      · rw [List.getLast?_cons, hlast]
        rfl

theorem climb_sorted (boundary : List Char → Bool) (cs : List Char) :
    (climb boundary cs).Pairwise (fun n p => p.length < n.length) := by
  induction cs using climb.induct boundary with
  | case1 cs hb => simp [climb_of_boundary hb]
  | case2 cs hb hp => simp [climb_of_parent_none hp]
  | case3 cs hb p hp ih =>
      rw [climb_of_parent hb hp, List.pairwise_cons]
      refine ⟨fun n hn => ?_, ih⟩
      exact Nat.lt_of_le_of_lt (length_le_of_mem_climb hn) (parentChars?_length hp)

theorem length_climb_le (boundary : List Char → Bool) (cs : List Char) :
    (climb boundary cs).length ≤ cs.count '.' + 1 := by
  induction cs using climb.induct boundary with
  | case1 cs hb => simp [climb_of_boundary hb]
  | case2 cs hb hp => simp [climb_of_parent_none hp]
  | case3 cs hb p hp ih =>
      rw [climb_of_parent hb hp]
      obtain ⟨-, label, -, rfl⟩ := parentChars?_eq_some_iff.1 hp
      simp only [List.length_cons, List.count_append, List.count_cons_self]
      omega

theorem exists_above_self (boundary : List Char → Bool) (s : List Char) :
    ∃ above, climb boundary s = above ++ climb boundary s ∧
      ∀ t, t ∈ above ↔ IsAligned t s ∧ s.length < t.length :=
  ⟨[], rfl, fun _ => iff_of_false (List.not_mem_nil) fun h => Nat.not_lt.2 h.1.length_le h.2⟩

theorem climb_above (hs : s ≠ []) (haligned : IsAligned s cs)
    (hbelow : ∀ t, IsAligned t cs → s <:+ t → t ≠ s → boundary t = false) :
    ∃ above, climb boundary cs = above ++ climb boundary s ∧
      ∀ t, t ∈ above ↔ IsAligned t cs ∧ s.length < t.length := by
  induction cs using climb.induct boundary with
  | case1 cs hb =>
      have he : cs = s := by
        by_contra hne
        exact absurd hb (Bool.eq_false_iff.1 (hbelow cs (.inl rfl) haligned.suffix hne))
      exact he ▸ exists_above_self boundary cs
  | case2 cs hb hp =>
      exact (isAligned_of_parent_none hp hs).1 haligned ▸ exists_above_self boundary s
  | case3 cs hb p hp ih =>
      rcases (isAligned_of_parent hp).1 haligned with rfl | hparent
      · exact exists_above_self boundary s
      · obtain ⟨above, hpath, hmem⟩ :=
          ih hparent fun t ht => hbelow t ((isAligned_of_parent hp).2 (.inr ht))
        refine ⟨cs :: above, by rw [climb_of_parent hb hp, hpath, List.cons_append], fun t => ?_⟩
        have hlt : s.length < cs.length :=
          Nat.lt_of_le_of_lt hparent.length_le (parentChars?_length hp)
        rw [List.mem_cons, hmem, isAligned_of_parent hp]
        constructor
        · rintro (rfl | ⟨ht, hl⟩)
          · exact ⟨.inl rfl, hlt⟩
          · exact ⟨.inr ht, hl⟩
        · rintro ⟨rfl | ht, hl⟩
          · exact .inl rfl
          · exact .inr ⟨ht, hl⟩

end IssuanceCheck.Name
