import IssuanceCheck.Text.Blank
import Mathlib.Data.List.DropRight

namespace IssuanceCheck.Text

variable {p q : Char → Bool} {c : Char} {cs lead tail : List Char}

theorem not_of_head_dropWhile (h : (cs.dropWhile p).head? = some c) : p c = false := by
  have hstop := List.head?_dropWhile_not p cs
  rw [h] at hstop
  exact hstop

theorem not_of_last_dropEndWhile (h : (dropEndWhile p cs).getLast? = some c) : p c = false := by
  rw [dropEndWhile, List.getLast?_reverse] at h
  exact not_of_head_dropWhile h

theorem dropWhile_eq_self (h : ∀ c, cs.head? = some c → p c = false) : cs.dropWhile p = cs := by
  cases cs with
  | nil => rfl
  | cons c cs => exact List.dropWhile_cons_of_neg (by simp [h c rfl])

theorem dropEndWhile_eq_self (h : ∀ c, cs.getLast? = some c → p c = false) :
    dropEndWhile p cs = cs := by
  rw [dropEndWhile, dropWhile_eq_self (by simpa using h), List.reverse_reverse]

theorem dropEndWhile_append_of_pos (h : ∀ c ∈ tail, p c = true) (cs : List Char) :
    dropEndWhile p (cs ++ tail) = dropEndWhile p cs := by
  rw [dropEndWhile, List.reverse_append,
    List.dropWhile_append_of_pos fun c hc => h c (List.mem_reverse.1 hc), ← dropEndWhile]

theorem head_dropEndWhile (h : (dropEndWhile p cs).head? = some c) : cs.head? = some c := by
  obtain ⟨tail, hcs, -⟩ := dropEndWhile_suffix p cs
  rw [hcs, List.head?_append, h]
  rfl

theorem dropEndWhile_eq_nil (h : ∀ c ∈ cs, p c = true) : dropEndWhile p cs = [] :=
  List.rdropWhile_eq_nil_iff.2 h

theorem dropEndWhile_length_le (p : Char → Bool) (cs : List Char) :
    (dropEndWhile p cs).length ≤ cs.length :=
  (List.rdropWhile_prefix p cs).length_le

theorem dropEndWhile_dropWhile_append (hlead : ∀ c ∈ lead, q c = true)
    (htail : ∀ c ∈ tail, p c = true) (cs : List Char) :
    dropEndWhile p ((lead ++ cs ++ tail).dropWhile q) = dropEndWhile p (cs.dropWhile q) := by
  rw [List.append_assoc, List.dropWhile_append_of_pos hlead, List.dropWhile_append]
  split
  next hcs =>
    rw [List.isEmpty_iff.1 hcs, dropEndWhile_eq_nil]
    · rfl
    · exact fun c hc => htail c ((List.dropWhile_sublist q).subset hc)
  next => rw [dropEndWhile_append_of_pos htail]

theorem not_of_head_trimWhile (h : (trimWhile p cs).head? = some c) : p c = false :=
  not_of_head_dropWhile (head_dropEndWhile h)

theorem not_of_last_trimWhile (h : (trimWhile p cs).getLast? = some c) : p c = false :=
  not_of_last_dropEndWhile h

theorem trimWhile_sublist (p : Char → Bool) (cs : List Char) : (trimWhile p cs).Sublist cs :=
  (List.rdropWhile_prefix p _).sublist.trans (List.dropWhile_sublist p)

theorem trimWhile_eq_self (hhead : ∀ c, cs.head? = some c → p c = false)
    (hlast : ∀ c, cs.getLast? = some c → p c = false) : trimWhile p cs = cs := by
  rw [trimWhile, dropWhile_eq_self hhead, dropEndWhile_eq_self hlast]

theorem trimWhile_eq_self_of_length (h : cs.length ≤ (trimWhile p cs).length) :
    trimWhile p cs = cs :=
  (trimWhile_sublist p cs).eq_of_length_le h

end IssuanceCheck.Text
