import IssuanceCheck.Text.Blank
import IssuanceCheck.Text.Search

namespace IssuanceCheck.Text

/-- The last entry whose key is at most `n`, in an array whose keys ascend. -/
def lastAtMost {α : Type} (key : α → Nat) (entries : Array α) (n : Nat) : Option α :=
  go 0 entries.size
where
  go (lo hi : Nat) : Option α :=
    if h : lo < hi then
      match entries[(lo + hi) / 2]? with
      | some e => if key e ≤ n then go ((lo + hi) / 2 + 1) hi else go lo ((lo + hi) / 2)
      | none => none
    else if lo = 0 then none
    else entries[lo - 1]?
  termination_by hi - lo

section

variable {α : Type} {key : α → Nat} {entries : Array α} {n lo hi : Nat} {e : α}

theorem lastAtMost_go_eq_some (hlo : 0 < lo → ∀ x, entries[lo - 1]? = some x → key x ≤ n)
    (h : lastAtMost.go key entries n lo hi = some e) : e ∈ entries.toList ∧ key e ≤ n := by
  -- `lo` rises only to behind an entry whose key is at most `n`, whether or not the keys ascend.
  induction lo, hi using lastAtMost.go.induct key entries n with
  | case1 lo hi hlt mid hmid hle ih =>
      rw [lastAtMost.go] at h
      simp only [hlt, hmid, hle, if_true, dif_pos] at h
      refine ih (fun _ x hx => ?_) h
      rw [Nat.add_sub_cancel, hmid] at hx
      cases hx
      exact hle
  | case2 lo hi hlt mid hmid hle ih =>
      rw [lastAtMost.go] at h
      simp only [hlt, hmid, hle, if_false, dif_pos] at h
      exact ih hlo h
  | case3 lo hi hlt hmid =>
      rw [lastAtMost.go] at h
      simp [hlt, hmid] at h
  | case4 hi hlt =>
      rw [lastAtMost.go] at h
      simp [hlt] at h
  | case5 lo hi hlt hz =>
      rw [lastAtMost.go] at h
      simp only [hlt, hz, if_false, dif_neg, not_false_eq_true] at h
      exact ⟨Array.mem_toList_iff.2 (Array.mem_of_getElem? h), hlo (Nat.pos_of_ne_zero hz) e h⟩

theorem lastAtMost_eq_some (h : lastAtMost key entries n = some e) :
    e ∈ entries.toList ∧ key e ≤ n :=
  lastAtMost_go_eq_some (fun h0 => absurd h0 (Nat.lt_irrefl 0)) h

theorem lastAtMost_eq_none (h : ∀ e ∈ entries.toList, n < key e) :
    lastAtMost key entries n = none := by
  cases hl : lastAtMost key entries n with
  | none => rfl
  | some e =>
      obtain ⟨hm, hk⟩ := lastAtMost_eq_some hl
      exact absurd hk (Nat.not_le.2 (h e hm))

end

def words (cs : List Char) : List (List Char) :=
  (cs.foldr (fun c (acc : List Char × List (List Char)) =>
      if isBlank c then ([], if acc.1.isEmpty then acc.2 else acc.1 :: acc.2)
      else (c :: acc.1, acc.2)) ([], [])
    |> fun acc => if acc.1.isEmpty then acc.2 else acc.1 :: acc.2)

def hexDigit? (c : Char) : Option Nat :=
  if '0' ≤ c && c ≤ '9' then some (c.toNat - 48)
  else if 'a' ≤ c && c ≤ 'f' then some (c.toNat - 87)
  else if 'A' ≤ c && c ≤ 'F' then some (c.toNat - 55)
  else none

def hexNat (cs : List Char) : Nat :=
  cs.foldl (fun n c => 16 * n + (hexDigit? c).getD 0) 0

/-- A set of code points, as ascending ranges that do not meet. -/
structure CodeRanges where
  ranges : Array (Nat × Nat)

namespace CodeRanges

/-- Reads `first-last` in hexadecimal, or `first` alone for a single code point. -/
def ofWords (table : String) : CodeRanges :=
  ⟨((words table.toList).map fun w =>
    match splitFirst? '-' w with
    | some (first, last) => (hexNat first, hexNat last)
    | none => (hexNat w, hexNat w)).toArray⟩

def contains (set : CodeRanges) (c : Char) : Bool :=
  match lastAtMost (·.1) set.ranges c.toNat with
  | some range => c.toNat ≤ range.2
  | none => false

end CodeRanges

end IssuanceCheck.Text
