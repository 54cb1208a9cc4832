namespace IssuanceCheck.Fetch

variable {α β : Type} {n : Nat}

/-- The order in which `n` fetches that run at the same time finish. -/
structure Schedule (n : Nat) where
  order : List (Fin n)
  perm : order.Perm (List.finRange n)

abbrev Slots (α : Type) (n : Nat) := Vector (Option α) n

namespace Slots

def finish (outcome : Fin n → α) (slots : Slots α n) (i : Fin n) : Slots α n :=
  slots.set i (some (outcome i))

/-- What the slots hold when some fetches have finished, in this order. -/
def after (outcome : Fin n → α) (finished : List (Fin n)) : Slots α n :=
  finished.foldl (finish outcome) (Vector.replicate n none)

def results? (slots : Slots α n) : Option (List α) := slots.toList.mapM id

theorem finish_getElem (outcome : Fin n → α) (slots : Slots α n) (i j : Fin n) :
    (finish outcome slots i)[j] = if i = j then some (outcome j) else slots[j] := by
  simp only [finish, Fin.getElem_fin, Vector.getElem_set, Fin.val_inj]
  split
  next h => rw [h]
  · rfl

theorem foldl_finish_getElem (outcome : Fin n → α) (finished : List (Fin n)) (slots : Slots α n)
    (j : Fin n) : (finished.foldl (finish outcome) slots)[j] =
      if finished.contains j then some (outcome j) else slots[j] := by
  induction finished generalizing slots with
  | nil => rfl
  | cons i finished ih =>
      rw [List.foldl_cons, ih, finish_getElem, List.contains_cons]
      cases finished.contains j with
      | true => rw [if_pos rfl, Bool.or_true, if_pos rfl]
      | false =>
          rw [if_neg Bool.false_ne_true, Bool.or_false]
          by_cases hi : i = j
          · rw [if_pos hi, if_pos (beq_iff_eq.2 hi.symm)]
          · rw [if_neg hi, if_neg (mt beq_iff_eq.1 (Ne.symm hi))]

theorem after_getElem (outcome : Fin n → α) (finished : List (Fin n)) (j : Fin n) :
    (after outcome finished)[j] = if finished.contains j then some (outcome j) else none := by
  rw [after, foldl_finish_getElem, Fin.getElem_fin, Vector.getElem_replicate]

theorem after_toList {finished : List (Fin n)} (outcome : Fin n → α) (h : ∀ i, i ∈ finished) :
    (after outcome finished).toList = (List.finRange n).map fun i => some (outcome i) := by
  refine List.ext_getElem (by simp) fun k hk _ => ?_
  have hn : k < n := by simpa using hk
  have hget := after_getElem outcome finished ⟨k, hn⟩
  rw [if_pos (List.contains_iff_mem.2 (h _))] at hget
  simpa using hget

theorem results?_after {finished : List (Fin n)} (outcome : Fin n → α) (h : ∀ i, i ∈ finished) :
    (after outcome finished).results? = some ((List.finRange n).map outcome) := by
  rw [results?, after_toList outcome h, List.mapM_map]
  exact List.mapM_pure

end Slots

namespace Schedule

theorem mem_order (s : Schedule n) (i : Fin n) : i ∈ s.order :=
  s.perm.mem_iff.2 (List.mem_finRange i)

def join (s : Schedule n) (outcome : Fin n → α) : List α :=
  (Slots.after outcome s.order).results?.get (by
    rw [Slots.results?_after outcome s.mem_order]
    rfl)

theorem join_eq (s : Schedule n) (outcome : Fin n → α) :
    s.join outcome = (List.finRange n).map outcome := by
  simp only [join, Slots.results?_after outcome s.mem_order, Option.get_some]

end Schedule

/-- Runs a fetch for each of the values at the same time, and gives the results in their order. -/
def joinAll (schedules : (n : Nat) → Schedule n) (outcome : Nat → α → β) (as : List α) : List β :=
  (schedules as.length).join fun i => outcome i as[i]

theorem joinAll_eq_mapIdx (schedules : (n : Nat) → Schedule n) (outcome : Nat → α → β)
    (as : List α) : joinAll schedules outcome as = as.mapIdx outcome := by
  rw [joinAll, Schedule.join_eq]
  exact List.ext_getElem (by simp) fun i _ _ => by simp

end IssuanceCheck.Fetch
