import IssuanceCheck.Name
import Mathlib.Data.List.Nodup

namespace IssuanceCheck.Name

variable {boundary : List Char → Bool} {cs n p : List Char}

theorem climb_of_boundary (hb : boundary cs) : climb boundary cs = [cs] := by
  rw [climb, if_pos hb]

theorem climb_of_parent_none (hp : parentChars? cs = none) : climb boundary cs = [cs] := by
  rw [climb]
  split
  · rfl
  · split
    · rfl
    next p hp' => simp [hp] at hp'

theorem climb_of_parent (hb : ¬boundary cs) (hp : parentChars? cs = some p) :
    climb boundary cs = cs :: climb boundary p := by
  rw [climb, if_neg hb]
  split
  next hp' => simp [hp] at hp'
  next p' hp' =>
    obtain rfl : p = p' := Option.some.inj (hp.symm.trans hp')
    rfl

theorem climb_ne_nil (boundary : List Char → Bool) (cs : List Char) : climb boundary cs ≠ [] := by
  rw [climb]
  split
  · exact List.cons_ne_nil _ _
  · split <;> exact List.cons_ne_nil _ _

theorem length_le_of_mem_climb (h : n ∈ climb boundary cs) : n.length ≤ cs.length := by
  induction cs using climb.induct boundary with
  | case1 cs hb =>
      rw [climb_of_boundary hb, List.mem_singleton] at h
      exact h ▸ Nat.le_refl _
  | case2 cs hb hp =>
      rw [climb_of_parent_none hp, List.mem_singleton] at h
      exact h ▸ Nat.le_refl _
  | case3 cs hb p hp ih =>
      rw [climb_of_parent hb hp, List.mem_cons] at h
      rcases h with rfl | h
      · exact Nat.le_refl _
      · exact Nat.le_of_lt (Nat.lt_of_le_of_lt (ih h) (parentChars?_length hp))

theorem climb_nodup (boundary : List Char → Bool) (cs : List Char) : (climb boundary cs).Nodup := by
  induction cs using climb.induct boundary with
  | case1 cs hb => simp [climb_of_boundary hb]
  | case2 cs hb hp => simp [climb_of_parent_none hp]
  | case3 cs hb p hp ih =>
      rw [climb_of_parent hb hp]
      refine List.nodup_cons.2 ⟨fun h => ?_, ih⟩
      exact Nat.lt_irrefl _ (Nat.lt_of_le_of_lt (length_le_of_mem_climb h) (parentChars?_length hp))

theorem searchPath_ne_nil (suffix : String → Option String) (name : String) :
    searchPath suffix name ≠ [] := fun h => climb_ne_nil _ _ (List.map_eq_nil_iff.1 h)

theorem searchPath_nodup (suffix : String → Option String) (name : String) :
    (searchPath suffix name).Nodup :=
  (climb_nodup _ _).map fun _ _ h => String.ofList_injective h

end IssuanceCheck.Name
