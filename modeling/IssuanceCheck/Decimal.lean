namespace IssuanceCheck.Decimal

def digit (n : Nat) : Char := Char.ofNat (48 + n % 10)

def digits (n : Nat) : List Char :=
  if n < 10 then [digit n] else digits (n / 10) ++ [digit n]

def text (n : Nat) : String := String.ofList (digits n)

def digitValue? (c : Char) : Option Nat :=
  if '0' ≤ c && c ≤ '9' then some (c.toNat - 48) else none

def readDigits? (cs : List Char) : Option Nat :=
  if cs.isEmpty then none
  else cs.foldlM (fun n c => (digitValue? c).map (10 * n + ·)) 0

/-- The value of digits after an optional plus sign, if it is at most `limit`. -/
def readUpTo? (limit : Nat) (cs : List Char) : Option Nat :=
  (readDigits? (match cs with | '+' :: rest => rest | _ => cs)).filter (· ≤ limit)

theorem digitValue?_digit (n : Nat) : digitValue? (digit n) = some (n % 10) := by
  have h : n % 10 < 10 := Nat.mod_lt _ (by decide)
  rw [digit]
  generalize n % 10 = k at h ⊢
  match k, h with
  | 0, _ | 1, _ | 2, _ | 3, _ | 4, _ | 5, _ | 6, _ | 7, _ | 8, _ | 9, _ => rfl

theorem digits_ne_nil (n : Nat) : digits n ≠ [] := by
  unfold digits
  split <;> simp

theorem foldlM_digits (n : Nat) :
    (digits n).foldlM (fun n c => (digitValue? c).map (10 * n + ·)) 0 = some n := by
  induction n using digits.induct with
  | case1 n h =>
      rw [digits, if_pos h]
      simp [digitValue?_digit, Nat.mod_eq_of_lt h]
  | case2 n h ih =>
      rw [digits, if_neg h, List.foldlM_append, ih]
      simp [digitValue?_digit, Nat.div_add_mod]

theorem readDigits?_digits (n : Nat) : readDigits? (digits n) = some n := by
  simp [readDigits?, digits_ne_nil, foldlM_digits]

variable {cs : List Char} {n limit : Nat}

theorem isDigit_of_digitValue? {c : Char} (h : digitValue? c = some n) : c.isDigit = true := by
  rw [digitValue?] at h
  split at h
  next hc => simpa [Char.isDigit, Char.le_def] using hc
  next => cases h

theorem isDigit_of_readDigits? (h : readDigits? cs = some n) : ∀ c ∈ cs, c.isDigit = true := by
  suffices hfold : ∀ start : Nat,
      cs.foldlM (fun n c => (digitValue? c).map (10 * n + ·)) start = some n →
        ∀ c ∈ cs, c.isDigit = true by
    rw [readDigits?] at h
    split at h
    · cases h
    · exact hfold 0 h
  clear h
  induction cs with
  | nil => simp
  | cons c rest ih =>
      intro start h
      rw [List.foldlM_cons] at h
      obtain ⟨next, hnext, h⟩ := Option.bind_eq_some_iff.1 h
      obtain ⟨value, hvalue, _⟩ := Option.map_eq_some_iff.1 hnext
      exact List.forall_mem_cons.2 ⟨isDigit_of_digitValue? hvalue, ih next h⟩

theorem readUpTo?_eq_some (h : readUpTo? limit cs = some n) :
    ∃ ds, (cs = ds ∨ cs = '+' :: ds) ∧ ds ≠ [] ∧ readDigits? ds = some n := by
  unfold readUpTo? at h
  obtain ⟨hread, _⟩ := Option.filter_eq_some_iff.1 h
  have hne : ∀ ds, readDigits? ds = some n → ds ≠ [] := by
    rintro ds hds rfl
    cases hds
  split at hread
  next ds => exact ⟨ds, .inr rfl, hne ds hread, hread⟩
  next => exact ⟨cs, .inl rfl, hne cs hread, hread⟩

theorem plus_or_isDigit_of_readUpTo? (h : readUpTo? limit cs = some n) :
    ∀ c ∈ cs, c = '+' ∨ c.isDigit = true := by
  obtain ⟨ds, hcs, _, hread⟩ := readUpTo?_eq_some h
  have hd := isDigit_of_readDigits? hread
  rcases hcs with rfl | rfl
  · exact fun c hc => .inr (hd c hc)
  · exact fun c hc => (List.mem_cons.1 hc).imp_right (hd c)

end IssuanceCheck.Decimal
