import IssuanceCheck.Decimal
import IssuanceCheck.Text.Quoted
import IssuanceCheck.Text.Ranges
import Mathlib.Algebra.Group.Nat.Defs

namespace IssuanceCheck

namespace Decimal

theorem isDigit_of_mem_digits {n : Nat} {c : Char} (h : c ∈ digits n) : c.isDigit = true :=
  isDigit_of_readDigits? (readDigits?_digits n) c h

theorem digit_ne_zero {n : Nat} (h : n % 10 ≠ 0) : digit n ≠ '0' := by
  intro he
  have hvalue := digitValue?_digit n
  rw [he] at hvalue
  exact h (Option.some.inj hvalue).symm

theorem head?_digits_ne {n : Nat} (h : 0 < n) : (digits n).head? ≠ some '0' := by
  induction n using digits.induct with
  | case1 n hlt =>
      rw [digits, if_pos hlt, List.head?_cons, Ne, Option.some.injEq]
      exact digit_ne_zero (by omega)
  | case2 n hge ih =>
      obtain ⟨c, rest, hdigits⟩ := List.exists_cons_of_ne_nil (digits_ne_nil (n / 10))
      rw [digits, if_neg hge, hdigits]
      rw [hdigits] at ih
      exact ih (by omega)

theorem length_digits_of_head? {n : Nat} (h : (digits n).head? = some '0') :
    (digits n).length = 1 := by
  rcases n.eq_zero_or_pos with rfl | hpos
  · decide +kernel
  · exact absurd h (head?_digits_ne hpos)

theorem length_digits_le {n width : Nat} (h : n < 10 ^ (width + 1)) :
    (digits n).length ≤ width + 1 := by
  induction width generalizing n with
  | zero =>
      rw [digits, if_pos (by simpa using h)]
      exact Nat.le_refl 1
  | succ width ih =>
      rw [digits]
      split
      · exact Nat.le_add_left 1 _
      · rw [List.length_append, List.length_singleton]
        exact Nat.succ_le_succ (ih (Nat.div_lt_of_lt_mul (by rwa [← Nat.pow_succ'])))

end Decimal

namespace Text

theorem hexDigit_mod (n : Nat) : hexDigit (n % 16) = hexDigit n := by
  rw [hexDigit, hexDigit, Nat.mod_mod]

theorem forall_hexDigit {p : Nat → Char → Prop} (h : ∀ n < 16, p n (hexDigit n)) (n : Nat) :
    p (n % 16) (hexDigit n) :=
  hexDigit_mod n ▸ h (n % 16) (Nat.mod_lt n (by decide))

theorem hexDigit?_hexDigit (n : Nat) : hexDigit? (hexDigit n) = some (n % 16) :=
  forall_hexDigit (p := fun n c => hexDigit? c = some n) (by decide) n

theorem hexDigits_ne_nil (n : Nat) : hexDigits n ≠ [] := by
  rw [hexDigits]
  split <;> simp

theorem hexNat_concat (cs : List Char) (n : Nat) :
    hexNat (cs ++ [hexDigit n]) = 16 * hexNat cs + n % 16 := by
  rw [hexNat, List.foldl_append, List.foldl_cons, hexDigit?_hexDigit]
  rfl

theorem hexNat_hexDigits (n : Nat) : hexNat (hexDigits n) = n := by
  induction n using hexDigits.induct with
  | case1 n h =>
      rw [hexDigits, if_pos h]
      exact (hexNat_concat [] n).trans (by rw [Nat.mod_eq_of_lt h]; exact Nat.zero_add n)
  | case2 n h ih =>
      rw [hexDigits, if_neg h, hexNat_concat, ih]
      omega

theorem mem_hexDigits {n : Nat} {c : Char} (h : c ∈ hexDigits n) : ∃ m, c = hexDigit m := by
  induction n using hexDigits.induct with
  | case1 n hlt =>
      rw [hexDigits, if_pos hlt, List.mem_singleton] at h
      exact ⟨n, h⟩
  | case2 n hge ih =>
      rw [hexDigits, if_neg hge, List.mem_append, List.mem_singleton] at h
      exact h.elim ih fun h => ⟨n, h⟩

theorem isSome_of_mem_hexDigits {n : Nat} {c : Char} (h : c ∈ hexDigits n) :
    (hexDigit? c).isSome = true := by
  obtain ⟨m, rfl⟩ := mem_hexDigits h
  rw [hexDigit?_hexDigit]
  rfl

theorem length_hexDigits_le {n width : Nat} (h : n < 16 ^ (width + 1)) :
    (hexDigits n).length ≤ width + 1 := by
  induction width generalizing n with
  | zero =>
      rw [hexDigits, if_pos (by simpa using h)]
      exact Nat.le_refl 1
  | succ width ih =>
      rw [hexDigits]
      split
      · exact Nat.le_add_left 1 _
      · rw [List.length_append, List.length_singleton]
        exact Nat.succ_le_succ (ih (Nat.div_lt_of_lt_mul (by rwa [← Nat.pow_succ'])))

end Text

end IssuanceCheck
