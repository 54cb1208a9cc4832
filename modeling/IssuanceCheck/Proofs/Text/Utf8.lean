import IssuanceCheck.Text.Utf8
import Mathlib.Data.List.Basic

namespace IssuanceCheck.Text

def codePoint (acc : Nat) (tail : List UInt8) : Nat :=
  tail.foldl (fun acc b => acc * 0x40 + b.toNat % 0x40) acc

/-- The bytes of one character. -/
inductive Spells : List UInt8 → Char → Prop where
  | ascii {b : UInt8} (hb : b < 0x80) : Spells [b] (Char.ofNat b.toNat)
  | lead {b b₁ lo hi : UInt8} {tail : List UInt8} {acc n : Nat}
      (hb : leadByte b = some (acc, lo, hi, n))
      (h₁ : lo ≤ b₁ ∧ b₁ ≤ hi) (hn : tail.length = n) (ht : ∀ b ∈ tail, isContinuation b = true) :
      Spells (b :: b₁ :: tail) (Char.ofNat (codePoint acc (b₁ :: tail)))

variable {b b₁ lo hi : UInt8} {bs tail rest bytes : List UInt8} {c : Char} {acc n : Nat}

theorem forall_byte_lt {m : Nat} {P : UInt8 → Prop} (h : ∀ n < m, P (UInt8.ofNat n)) {b : UInt8}
    (hb : b.toNat < m) : P b := by
  have hp := h b.toNat hb
  rwa [UInt8.ofNat_toNat] at hp

theorem forall_ascii {P : UInt8 → Prop} (h : ∀ n < 0x80, P (UInt8.ofNat n)) {b : UInt8}
    (hb : b < 0x80) : P b :=
  forall_byte_lt h (UInt8.lt_iff_toNat_lt.1 hb)

theorem isContinuation_iff : isContinuation b = true ↔ 0x80 ≤ b.toNat ∧ b.toNat ≤ 0xBF := by
  simp [isContinuation, UInt8.le_iff_toNat_le]

theorem leadByte_two : ∀ acc < 0x20, acc < 2 ∨
    leadByte (UInt8.ofNat (0xC0 + acc)) = some (acc, 0x80, 0xBF, 0) := by decide

theorem leadByte_three : ∀ acc < 0x10, leadByte (UInt8.ofNat (0xE0 + acc)) =
    some (acc, if acc = 0 then 0xA0 else 0x80, if acc = 0xD then 0x9F else 0xBF, 1) := by decide

theorem leadByte_four : ∀ acc < 5, leadByte (UInt8.ofNat (0xF0 + acc)) =
    some (acc, if acc = 0 then 0x90 else 0x80, if acc = 4 then 0x8F else 0xBF, 2) := by decide

theorem leadByte_range : (leadByte b).isSome → 0xC2 ≤ b.toNat ∧ b.toNat ≤ 0xF4 :=
  forall_byte_lt (m := 0x100) (P := fun b => (leadByte b).isSome → 0xC2 ≤ b.toNat ∧ b.toNat ≤ 0xF4)
    (by decide +kernel) b.toNat_lt

theorem leadByte_of_two (hb : b.toNat = 0xC0 + acc) (h2 : 2 ≤ acc) (hacc : acc < 0x20) :
    leadByte b = some (acc, 0x80, 0xBF, 0) := by
  have h := (leadByte_two acc hacc).resolve_left (by omega)
  rwa [← hb, UInt8.ofNat_toNat] at h

theorem leadByte_of_three (hb : b.toNat = 0xE0 + acc) (hacc : acc < 0x10) : leadByte b =
    some (acc, if acc = 0 then 0xA0 else 0x80, if acc = 0xD then 0x9F else 0xBF, 1) := by
  have h := leadByte_three acc hacc
  rwa [← hb, UInt8.ofNat_toNat] at h

theorem leadByte_of_four (hb : b.toNat = 0xF0 + acc) (hacc : acc < 5) : leadByte b =
    some (acc, if acc = 0 then 0x90 else 0x80, if acc = 4 then 0x8F else 0xBF, 2) := by
  have h := leadByte_four acc hacc
  rwa [← hb, UInt8.ofNat_toNat] at h

theorem continuation_eq_some_iff :
    continuation n acc bs = (some c, rest) ↔
      ∃ tail, bs = tail ++ rest ∧ tail.length = n ∧ (∀ b ∈ tail, isContinuation b = true) ∧
        c = Char.ofNat (codePoint acc tail) := by
  induction n generalizing acc bs with
  | zero =>
      simp only [continuation, Prod.mk.injEq, Option.some.injEq, List.length_eq_zero_iff]
      constructor
      · rintro ⟨rfl, rfl⟩
        exact ⟨[], rfl, rfl, by simp, rfl⟩
      · rintro ⟨tail, rfl, rfl, -, rfl⟩
        exact ⟨rfl, rfl⟩
  | succ n ih =>
      cases bs with
      | nil =>
          simp only [continuation, Prod.mk.injEq, reduceCtorEq, false_and, false_iff]
          rintro ⟨tail, ht, hl, -⟩
          rw [List.append_eq_nil_iff.1 ht.symm |>.1] at hl
          cases hl
      | cons b bs =>
          rw [continuation]
          by_cases hb : isContinuation b = true
          · rw [if_pos hb, ih]
            constructor
            · rintro ⟨tail, rfl, rfl, hc, rfl⟩
              exact ⟨b :: tail, rfl, rfl, List.forall_mem_cons.2 ⟨hb, hc⟩, rfl⟩
            · rintro ⟨tail, ht, hl, hc, rfl⟩
              obtain ⟨a, tail, rfl⟩ := List.exists_cons_of_length_eq_add_one hl
              obtain ⟨rfl, rfl⟩ := List.cons.inj ht
              exact ⟨tail, rfl, Nat.succ.inj hl, (List.forall_mem_cons.1 hc).2, rfl⟩
          · rw [if_neg hb]
            simp only [Prod.mk.injEq, reduceCtorEq, false_and, false_iff]
            rintro ⟨tail, ht, hl, hc, -⟩
            obtain ⟨a, tail, rfl⟩ := List.exists_cons_of_length_eq_add_one hl
            obtain ⟨rfl, rfl⟩ := List.cons.inj ht
            exact hb (hc b List.mem_cons_self)

theorem decodeNext_of_ascii (hb : b < 0x80) (bs : List UInt8) :
    decodeNext b bs = (some (Char.ofNat b.toNat), bs) := by
  rw [decodeNext.eq_def, if_pos hb]

theorem not_ascii_of_lead (hb : leadByte b = some (acc, lo, hi, n)) : ¬b < 0x80 := by
  have hr := leadByte_range (b := b) (by rw [hb]; rfl)
  rw [UInt8.lt_iff_toNat_lt]
  exact Nat.not_lt.2 (Nat.le_trans (by decide) hr.1)

theorem decodeNext_of_lead (hb : leadByte b = some (acc, lo, hi, n)) (b₁ : UInt8)
    (bs : List UInt8) :
    decodeNext b (b₁ :: bs) =
      if lo ≤ b₁ ∧ b₁ ≤ hi then continuation n (acc * 0x40 + b₁.toNat % 0x40) bs
      else (none, b₁ :: bs) := by
  rw [decodeNext.eq_def, if_neg (not_ascii_of_lead hb), hb]
  simp only [Bool.and_eq_true, decide_eq_true_eq]

theorem decodeNext_eq_some_iff_spells :
    decodeNext b bs = (some c, rest) ↔ ∃ tail, bs = tail ++ rest ∧ Spells (b :: tail) c := by
  constructor
  · intro h
    by_cases hb : b < 0x80
    · rw [decodeNext_of_ascii hb] at h
      cases h
      exact ⟨[], rfl, .ascii hb⟩
    · match hl : leadByte b, bs with
      | none, bs => simp [decodeNext.eq_def, hb, hl] at h
      | some x, [] => simp [decodeNext.eq_def, hb, hl] at h
      | some (acc, lo, hi, n), b₁ :: bs =>
          rw [decodeNext_of_lead hl] at h
          split at h
          next h₁ =>
            obtain ⟨tail, rfl, hn, ht, rfl⟩ := continuation_eq_some_iff.1 h
            exact ⟨b₁ :: tail, rfl, .lead hl h₁ hn ht⟩
          · cases h
  · rintro ⟨tail, rfl, h⟩
    cases h with
    | ascii hb => exact decodeNext_of_ascii hb rest
    | lead hb h₁ hn ht =>
        rw [List.cons_append, decodeNext_of_lead hb, if_pos h₁]
        exact continuation_eq_some_iff.2 ⟨_, rfl, hn, ht, rfl⟩

theorem toNat_ofNat_of_valid {v : Nat} (h : v < 0xD800 ∨ 0xDFFF < v ∧ v < 0x110000) :
    (Char.ofNat v).toNat = v := by
  rw [Char.ofNat, dif_pos (show v.isValidChar from h)]
  rfl

theorem valid_toNat (c : Char) : c.toNat < 0xD800 ∨ 0xDFFF < c.toNat ∧ c.toNat < 0x110000 :=
  c.valid

theorem utf8EncodeChar_one (hb : b.toNat < 0x80) :
    String.utf8EncodeChar (Char.ofNat b.toNat) = [b] := by
  rw [String.utf8EncodeChar, Char.toNat_val, toNat_ofNat_of_valid (.inl (by omega)),
    if_pos (by omega), UInt8.ofNat_toNat]

theorem utf8EncodeChar_two (hb : b.toNat = 0xC0 + acc) (h2 : 2 ≤ acc) (hacc : acc < 0x20)
    (h₁ : isContinuation b₁ = true) :
    String.utf8EncodeChar (Char.ofNat (codePoint acc [b₁])) = [b, b₁] := by
  rw [isContinuation_iff] at h₁
  simp only [codePoint, List.foldl_cons, List.foldl_nil]
  rw [String.utf8EncodeChar, Char.toNat_val, toNat_ofNat_of_valid (.inl (by omega)),
    if_neg (by omega), if_pos (by omega)]
  simp only [List.cons.injEq, ← UInt8.toNat_inj, UInt8.toNat_ofNat', and_true]
  omega

theorem utf8EncodeChar_three {b₂ : UInt8} (hb : b.toNat = 0xE0 + acc) (hacc : acc < 0x10)
    (h₁ : isContinuation b₁ = true) (h₂ : isContinuation b₂ = true)
    (hlo : acc = 0 → 0xA0 ≤ b₁.toNat) (hhi : acc = 0xD → b₁.toNat ≤ 0x9F) :
    String.utf8EncodeChar (Char.ofNat (codePoint acc [b₁, b₂])) = [b, b₁, b₂] := by
  rw [isContinuation_iff] at h₁ h₂
  simp only [codePoint, List.foldl_cons, List.foldl_nil]
  rw [String.utf8EncodeChar, Char.toNat_val, toNat_ofNat_of_valid (by omega),
    if_neg (by omega), if_neg (by omega), if_pos (by omega)]
  simp only [List.cons.injEq, ← UInt8.toNat_inj, UInt8.toNat_ofNat', and_true]
  omega

theorem utf8EncodeChar_four {b₂ b₃ : UInt8} (hb : b.toNat = 0xF0 + acc) (hacc : acc < 5)
    (h₁ : isContinuation b₁ = true) (h₂ : isContinuation b₂ = true)
    (h₃ : isContinuation b₃ = true) (hlo : acc = 0 → 0x90 ≤ b₁.toNat)
    (hhi : acc = 4 → b₁.toNat ≤ 0x8F) :
    String.utf8EncodeChar (Char.ofNat (codePoint acc [b₁, b₂, b₃])) = [b, b₁, b₂, b₃] := by
  rw [isContinuation_iff] at h₁ h₂ h₃
  simp only [codePoint, List.foldl_cons, List.foldl_nil]
  rw [String.utf8EncodeChar, Char.toNat_val, toNat_ofNat_of_valid (by omega),
    if_neg (by omega), if_neg (by omega), if_neg (by omega)]
  simp only [List.cons.injEq, ← UInt8.toNat_inj, UInt8.toNat_ofNat', and_true]
  omega

theorem leadByte_eq_some (h : leadByte b = some (acc, lo, hi, n)) :
    (n = 0 ∧ b.toNat = 0xC0 + acc ∧ 2 ≤ acc ∧ acc < 0x20) ∨
    (n = 1 ∧ b.toNat = 0xE0 + acc ∧ acc < 0x10 ∧ lo = (if acc = 0 then 0xA0 else 0x80) ∧
      hi = if acc = 0xD then 0x9F else 0xBF) ∨
    (n = 2 ∧ b.toNat = 0xF0 + acc ∧ acc < 5 ∧ lo = (if acc = 0 then 0x90 else 0x80) ∧
      hi = if acc = 4 then 0x8F else 0xBF) := by
  have hr := leadByte_range (b := b) (by rw [h]; rfl)
  have hkind : b.toNat < 0xE0 ∨ (0xE0 ≤ b.toNat ∧ b.toNat < 0xF0) ∨ 0xF0 ≤ b.toNat := by omega
  rcases hkind with h2 | h3 | h4
  · have hb : b.toNat = 0xC0 + (b.toNat - 0xC0) := by omega
    rw [leadByte_of_two hb (by omega) (by omega)] at h
    simp only [Option.some.injEq, Prod.mk.injEq] at h
    exact .inl ⟨h.2.2.2.symm, by omega, by omega, by omega⟩
  · have hb : b.toNat = 0xE0 + (b.toNat - 0xE0) := by omega
    rw [leadByte_of_three hb (by omega)] at h
    simp only [Option.some.injEq, Prod.mk.injEq] at h
    obtain ⟨rfl, rfl, rfl, rfl⟩ := h
    exact .inr (.inl ⟨rfl, by omega, by omega, rfl, rfl⟩)
  · have hb : b.toNat = 0xF0 + (b.toNat - 0xF0) := by omega
    rw [leadByte_of_four hb (by omega)] at h
    simp only [Option.some.injEq, Prod.mk.injEq] at h
    obtain ⟨rfl, rfl, rfl, rfl⟩ := h
    exact .inr (.inr ⟨rfl, by omega, by omega, rfl, rfl⟩)

theorem isContinuation_of_lead (hb : leadByte b = some (acc, lo, hi, n))
    (h₁ : lo ≤ b₁ ∧ b₁ ≤ hi) : isContinuation b₁ = true := by
  have hbounds : 0x80 ≤ lo ∧ hi ≤ 0xBF := by
    simp only [leadByte] at hb
    grind
  simp only [isContinuation, Bool.and_eq_true, decide_eq_true_eq]
  exact ⟨UInt8.le_trans hbounds.1 h₁.1, UInt8.le_trans h₁.2 hbounds.2⟩

theorem Spells.eq (h : Spells bytes c) : bytes = String.utf8EncodeChar c := by
  cases h with
  | ascii hb => exact (utf8EncodeChar_one (UInt8.lt_iff_toNat_lt.1 hb)).symm
  | lead hb h₁ hn ht =>
      have hc := isContinuation_of_lead hb h₁
      rcases leadByte_eq_some hb with
        ⟨rfl, hlead, h2, hacc⟩ | ⟨rfl, hlead, hacc, rfl, rfl⟩ | ⟨rfl, hlead, hacc, rfl, rfl⟩
      · obtain rfl := List.length_eq_zero_iff.1 hn
        exact (utf8EncodeChar_two hlead h2 hacc hc).symm
      · obtain ⟨b₂, rfl⟩ := List.length_eq_one_iff.1 hn
        refine (utf8EncodeChar_three hlead hacc hc (ht b₂ (by simp)) ?_ ?_).symm
        · intro h0
          rw [if_pos h0] at h₁
          exact UInt8.le_iff_toNat_le.1 h₁.1
        · intro hD
          rw [if_pos hD] at h₁
          exact UInt8.le_iff_toNat_le.1 h₁.2
      · obtain ⟨b₂, b₃, rfl⟩ := List.length_eq_two.1 hn
        refine (utf8EncodeChar_four hlead hacc hc (ht b₂ (by simp)) (ht b₃ (by simp)) ?_ ?_).symm
        · intro h0
          rw [if_pos h0] at h₁
          exact UInt8.le_iff_toNat_le.1 h₁.1
        · intro h4
          rw [if_pos h4] at h₁
          exact UInt8.le_iff_toNat_le.1 h₁.2

def trailByte (v : Nat) : UInt8 := UInt8.ofNat (v % 0x40 + 0x80)

theorem trailByte_toNat (v : Nat) : (trailByte v).toNat = v % 0x40 + 0x80 := by
  rw [trailByte, UInt8.toNat_ofNat']
  omega

theorem isContinuation_trailByte (v : Nat) : isContinuation (trailByte v) = true := by
  rw [isContinuation_iff, trailByte_toNat]
  omega

theorem spells_two {v : Nat} (h2 : 0x80 ≤ v) (h : v < 0x800) :
    Spells [UInt8.ofNat (v / 0x40 % 0x20 + 0xC0), trailByte v] (Char.ofNat v) := by
  have hb : (UInt8.ofNat (v / 0x40 % 0x20 + 0xC0)).toNat = 0xC0 + v / 0x40 := by
    rw [UInt8.toNat_ofNat']
    omega
  have h₁ : 0x80 ≤ trailByte v ∧ trailByte v ≤ 0xBF := by
    simpa only [isContinuation, Bool.and_eq_true, decide_eq_true_eq] using
      isContinuation_trailByte v
  have hv : codePoint (v / 0x40) [trailByte v] = v := by
    simp only [codePoint, List.foldl_cons, List.foldl_nil, trailByte_toNat]
    omega
  have hs := Spells.lead (leadByte_of_two hb (by omega) (by omega)) h₁ List.length_nil
    (List.forall_mem_nil _)
  rwa [hv] at hs

theorem spells_three {v : Nat} (h3 : 0x800 ≤ v) (h : v < 0xD800 ∨ 0xDFFF < v ∧ v < 0x10000) :
    Spells [UInt8.ofNat (v / 0x1000 % 0x10 + 0xE0), trailByte (v / 0x40), trailByte v]
      (Char.ofNat v) := by
  have hb : (UInt8.ofNat (v / 0x1000 % 0x10 + 0xE0)).toNat = 0xE0 + v / 0x1000 := by
    rw [UInt8.toNat_ofNat']
    omega
  have h₁ : (if v / 0x1000 = 0 then 0xA0 else 0x80) ≤ trailByte (v / 0x40) ∧
      trailByte (v / 0x40) ≤ if v / 0x1000 = 0xD then 0x9F else 0xBF := by
    constructor <;> split <;>
      simp only [UInt8.le_iff_toNat_le, trailByte_toNat, UInt8.reduceToNat] <;> omega
  have hv : codePoint (v / 0x1000) [trailByte (v / 0x40), trailByte v] = v := by
    simp only [codePoint, List.foldl_cons, List.foldl_nil, trailByte_toNat]
    omega
  have hs := Spells.lead (leadByte_of_three hb (by omega)) h₁ List.length_singleton
    (List.forall_mem_singleton.2 (isContinuation_trailByte v))
  rwa [hv] at hs

theorem spells_four {v : Nat} (h4 : 0x10000 ≤ v) (h : v < 0x110000) :
    Spells [UInt8.ofNat (v / 0x40000 % 8 + 0xF0), trailByte (v / 0x1000), trailByte (v / 0x40),
      trailByte v] (Char.ofNat v) := by
  have hb : (UInt8.ofNat (v / 0x40000 % 8 + 0xF0)).toNat = 0xF0 + v / 0x40000 := by
    rw [UInt8.toNat_ofNat']
    omega
  have h₁ : (if v / 0x40000 = 0 then 0x90 else 0x80) ≤ trailByte (v / 0x1000) ∧
      trailByte (v / 0x1000) ≤ if v / 0x40000 = 4 then 0x8F else 0xBF := by
    constructor <;> split <;>
      simp only [UInt8.le_iff_toNat_le, trailByte_toNat, UInt8.reduceToNat] <;> omega
  have hv : codePoint (v / 0x40000) [trailByte (v / 0x1000), trailByte (v / 0x40), trailByte v] =
      v := by
    simp only [codePoint, List.foldl_cons, List.foldl_nil, trailByte_toNat]
    omega
  have ht : ∀ b ∈ [trailByte (v / 0x40), trailByte v], isContinuation b = true :=
    by
    rintro b (_ | ⟨_, _ | ⟨_, ⟨⟩⟩⟩) <;> exact isContinuation_trailByte _
  have hs := Spells.lead (leadByte_of_four hb (by omega)) h₁ rfl ht
  rwa [hv] at hs

theorem spells_utf8EncodeChar (c : Char) : Spells (String.utf8EncodeChar c) c := by
  have hc := valid_toNat c
  have hs : Spells (String.utf8EncodeChar c) (Char.ofNat c.toNat) := by
    rw [String.utf8EncodeChar, Char.toNat_val]
    split
    next h =>
      have hb : (UInt8.ofNat c.toNat).toNat = c.toNat := by
        rw [UInt8.toNat_ofNat']
        omega
      have hs := Spells.ascii (b := UInt8.ofNat c.toNat)
        (UInt8.lt_iff_toNat_lt.2 (by rw [hb]; exact Nat.lt_succ_of_le h))
      rwa [hb] at hs
    · split
      · exact spells_two (by omega) (by omega)
      · split
        · exact spells_three (by omega) (by omega)
        · exact spells_four (by omega) (by omega)
  rwa [Char.ofNat_toNat] at hs

theorem spells_iff : Spells bytes c ↔ bytes = String.utf8EncodeChar c :=
  ⟨Spells.eq, fun h => h ▸ spells_utf8EncodeChar c⟩

theorem decodeNext_eq_some_iff :
    decodeNext b bs = (some c, rest) ↔ b :: bs = String.utf8EncodeChar c ++ rest := by
  rw [decodeNext_eq_some_iff_spells]
  constructor
  · rintro ⟨tail, rfl, h⟩
    rw [← h.eq, List.cons_append]
  · intro h
    obtain ⟨a, tail, ha⟩ := List.exists_cons_of_ne_nil (String.utf8EncodeChar_ne_nil (c := c))
    rw [ha, List.cons_append] at h
    obtain ⟨rfl, rfl⟩ := List.cons.inj h
    exact ⟨tail, rfl, spells_iff.2 ha.symm⟩

theorem encodeUtf8_cons (c : Char) (cs : List Char) :
    encodeUtf8 (c :: cs) = String.utf8EncodeChar c ++ encodeUtf8 cs := rfl

theorem decodeUtf8_utf8EncodeChar_append (c : Char) (rest : List UInt8) :
    decodeUtf8 (String.utf8EncodeChar c ++ rest) = some c :: decodeUtf8 rest := by
  obtain ⟨b, tail, hb⟩ := List.exists_cons_of_ne_nil (String.utf8EncodeChar_ne_nil (c := c))
  have hn : decodeNext b (tail ++ rest) = (some c, rest) := by
    rw [decodeNext_eq_some_iff, hb, List.cons_append]
  rw [hb, List.cons_append, decodeUtf8, hn]

theorem decodeUtf8_eq_map_some_iff {cs : List Char} :
    decodeUtf8 bs = cs.map some ↔ bs = encodeUtf8 cs := by
  induction cs generalizing bs with
  | nil =>
      cases bs with
      | nil => exact iff_of_true (by rw [decodeUtf8]; rfl) rfl
      | cons b bs => exact iff_of_false (by simp [decodeUtf8]) (List.cons_ne_nil b bs)
  | cons c cs ih =>
      rw [encodeUtf8_cons]
      constructor
      · intro h
        cases bs with
        | nil => simp [decodeUtf8] at h
        | cons b bs =>
            rw [decodeUtf8, List.map_cons, List.cons.injEq] at h
            rw [decodeNext_eq_some_iff.1 (Prod.ext h.1 rfl), ← ih.1 h.2]
      · rintro rfl
        rw [decodeUtf8_utf8EncodeChar_append, ih.2 rfl, List.map_cons]

theorem decodeLossy_encodeUtf8 (cs : List Char) : decodeLossy (encodeUtf8 cs) = cs := by
  rw [decodeLossy, decodeUtf8_eq_map_some_iff.2 rfl, List.map_map]
  exact List.map_id cs

theorem decodeLossy_eq_iff {cs : List Char} (h : Char.ofNat 0xFFFD ∉ cs) :
    decodeLossy bs = cs ↔ bs = encodeUtf8 cs := by
  constructor
  · rintro rfl
    rw [← decodeUtf8_eq_map_some_iff, decodeLossy, List.map_map]
    refine (List.map_id _).symm.trans (List.map_congr_left fun o ho => ?_)
    cases o with
    | none => exact absurd (List.mem_map.2 ⟨none, ho, rfl⟩) h
    | some c => rfl
  · rintro rfl
    exact decodeLossy_encodeUtf8 cs

theorem decodeStrict?_encodeUtf8 (cs : List Char) : decodeStrict? (encodeUtf8 cs) = some cs := by
  rw [decodeStrict?, decodeUtf8_eq_map_some_iff.2 rfl, List.mapM_map]
  exact List.mapM_pure.trans (congrArg some (List.map_id cs))

theorem decodeStrict?_eq_some {cs : List Char} (h : decodeStrict? bs = some cs) :
    bs = encodeUtf8 cs := by
  suffices hmap : ∀ os : List (Option Char), os.mapM id = some cs → os = cs.map some from
    decodeUtf8_eq_map_some_iff.1 (hmap _ h)
  clear h
  intro os h
  induction os generalizing cs with
  | nil =>
      cases h
      rfl
  | cons o os ih =>
      rw [List.mapM_cons] at h
      obtain ⟨c, hc, h⟩ := Option.bind_eq_some_iff.1 h
      obtain ⟨cs', hcs, h⟩ := Option.bind_eq_some_iff.1 h
      cases h
      rw [List.map_cons, ← ih hcs, ← show o = some c from hc]

theorem eq_of_mem_utf8EncodeChar (hb : b < 0x80) (h : b ∈ String.utf8EncodeChar c) :
    c = Char.ofNat b.toNat := by
  have hs := spells_utf8EncodeChar c
  generalize String.utf8EncodeChar c = bytes at h hs
  cases hs with
  | ascii => rw [List.mem_singleton.1 h]
  | @lead b₀ b₁ lo hi tail acc n hl h₁ hn ht =>
      exfalso
      have hcont : ∀ x : UInt8, isContinuation x = true → ¬x < 0x80 := by
        intro x hx
        rw [UInt8.lt_iff_toNat_lt]
        exact Nat.not_lt.2 (isContinuation_iff.1 hx).1
      rcases List.mem_cons.1 h with rfl | h
      · exact not_ascii_of_lead hl hb
      · rcases List.mem_cons.1 h with rfl | h
        · exact hcont b (isContinuation_of_lead hl h₁) hb
        · exact hcont b (ht b h) hb

end IssuanceCheck.Text
