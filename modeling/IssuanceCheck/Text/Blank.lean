namespace IssuanceCheck.Text

/-- The characters with the Unicode property `White_Space`. -/
def isBlank (c : Char) : Bool :=
  let n := c.toNat
  (9 ≤ n && n ≤ 13) || n == 0x20 || n == 0x85 || n == 0xA0 || n == 0x1680 ||
    (0x2000 ≤ n && n ≤ 0x200A) || n == 0x2028 || n == 0x2029 || n == 0x202F ||
    n == 0x205F || n == 0x3000

def dropEndWhile (p : Char → Bool) (cs : List Char) : List Char :=
  (cs.reverse.dropWhile p).reverse

def trimWhile (p : Char → Bool) (cs : List Char) : List Char :=
  dropEndWhile p (cs.dropWhile p)

def trim (cs : List Char) : List Char := trimWhile isBlank cs

variable {p : Char → Bool} {c d last : Char} {cs : List Char}

theorem ne_of_class (hc : p c = true) (hd : p d = false) : c ≠ d := by
  rintro rfl
  rw [hc] at hd
  cases hd

theorem dropEndWhile_suffix (p : Char → Bool) (cs : List Char) :
    ∃ tail, cs = dropEndWhile p cs ++ tail ∧ ∀ c ∈ tail, p c := by
  refine ⟨(cs.reverse.takeWhile p).reverse, ?_, fun c hc => ?_⟩
  · rw [dropEndWhile, ← List.reverse_append, List.takeWhile_append_dropWhile, List.reverse_reverse]
  · exact List.all_eq_true.1 List.all_takeWhile c (List.mem_reverse.1 hc)

theorem isDigit_of_isBlank (hc : isBlank c = true) : c.isDigit = false := by
  cases hd : c.isDigit with
  | false => rfl
  | true =>
      rw [Char.isDigit_iff_toNat] at hd
      simp only [isBlank, Bool.or_eq_true, Bool.and_eq_true, decide_eq_true_eq, beq_iff_eq] at hc
      obtain ⟨h0, h9⟩ : 48 ≤ c.toNat ∧ c.toNat ≤ 57 := hd
      omega

theorem mem_of_mem_dropEndWhile (h : c ∈ dropEndWhile p cs) : c ∈ cs := by
  obtain ⟨tail, hcs, _⟩ := dropEndWhile_suffix p cs
  rw [hcs]
  exact List.mem_append_left tail h

theorem dropEndWhile_append (hlast : cs.getLast? = some last) (hp : p last = false)
    (b : List Char) : dropEndWhile p (cs ++ b) = cs ++ dropEndWhile p b := by
  obtain ⟨front, rfl⟩ := List.getLast?_eq_some_iff.1 hlast
  have hdrop : (last :: front.reverse).dropWhile p = last :: front.reverse := by
    rw [List.dropWhile_cons, hp]
    rfl
  rw [dropEndWhile, dropEndWhile, List.reverse_append, List.dropWhile_append]
  split
  next hb =>
    rw [List.isEmpty_iff.1 hb, List.reverse_concat, hdrop]
    simp
  next => simp

theorem eq_trimWhile_append (p : Char → Bool) (cs : List Char) :
    ∃ trail, cs = cs.takeWhile p ++ (trimWhile p cs ++ trail) ∧ ∀ c ∈ trail, p c = true := by
  obtain ⟨trail, htrail, hp⟩ := dropEndWhile_suffix p (cs.dropWhile p)
  refine ⟨trail, ?_, hp⟩
  rw [trimWhile, ← htrail, List.takeWhile_append_dropWhile]

theorem eq_trim_append (cs : List Char) :
    ∃ trail, cs = cs.takeWhile isBlank ++ (trim cs ++ trail) ∧ ∀ c ∈ trail, isBlank c = true :=
  eq_trimWhile_append isBlank cs

end IssuanceCheck.Text
