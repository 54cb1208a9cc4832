import IssuanceCheck.Proofs.Text.Utf8
import IssuanceCheck.Text.Blank
import IssuanceCheck.Text.Lowercase
import Mathlib.Data.List.DropRight
import Mathlib.Data.List.Infix

namespace IssuanceCheck.Text

variable {b a lo hi : UInt8} {bs : List UInt8} {c : Char} {acc n : Nat}

@[simp] theorem decodeLossy_nil : decodeLossy [] = [] := by
  rw [decodeLossy, decodeUtf8]
  rfl

theorem decodeLossy_cons (a : UInt8) (bs : List UInt8) :
    decodeLossy (a :: bs) =
      (decodeNext a bs).1.getD (Char.ofNat 0xFFFD) :: decodeLossy (decodeNext a bs).2 := by
  rw [decodeLossy, decodeUtf8]
  rfl

theorem decodeLossy_cons_ascii (hb : b < 0x80) (bs : List UInt8) :
    decodeLossy (b :: bs) = Char.ofNat b.toNat :: decodeLossy bs := by
  rw [decodeLossy_cons, decodeNext_of_ascii hb]
  rfl

theorem decodeNext_of_invalid (ha : ¬a < 0x80) (hl : leadByte a = none) (bs : List UInt8) :
    decodeNext a bs = (none, bs) := by
  rw [decodeNext.eq_def, if_neg ha, hl]

theorem decodeNext_of_lead_nil (hl : leadByte a = some (acc, lo, hi, n)) :
    decodeNext a [] = (none, []) := by
  rw [decodeNext.eq_def, if_neg (not_ascii_of_lead hl), hl]

theorem not_isContinuation_of_ascii (hb : b < 0x80) : isContinuation b = false := by
  simp only [isContinuation, Bool.and_eq_false_iff, decide_eq_false_iff_not]
  exact .inl (UInt8.not_le.2 hb)

theorem not_second_of_ascii (hl : leadByte a = some (acc, lo, hi, n)) (hb : b < 0x80) :
    ¬(lo ≤ b ∧ b ≤ hi) := by
  intro h
  have hc := isContinuation_of_lead hl h
  rw [not_isContinuation_of_ascii hb] at hc
  cases hc

theorem continuation_append_ascii (hb : b < 0x80) (n acc : Nat) (bs rest : List UInt8) :
    continuation n acc (bs ++ b :: rest) =
      ((continuation n acc bs).1, (continuation n acc bs).2 ++ b :: rest) := by
  induction n generalizing acc bs with
  | zero => rfl
  | succ n ih =>
      cases bs with
      | nil => simp [continuation, not_isContinuation_of_ascii hb]
      | cons a bs =>
          simp only [List.cons_append, continuation]
          split
          · exact ih _ bs
          · rfl

theorem decodeNext_append_ascii (hb : b < 0x80) (a : UInt8) (bs rest : List UInt8) :
    decodeNext a (bs ++ b :: rest) =
      ((decodeNext a bs).1, (decodeNext a bs).2 ++ b :: rest) := by
  by_cases ha : a < 0x80
  · rw [decodeNext_of_ascii ha, decodeNext_of_ascii ha]
  · match hl : leadByte a with
    | none => rw [decodeNext_of_invalid ha hl, decodeNext_of_invalid ha hl]
    | some (acc, lo, hi, n) =>
        cases bs with
        | nil =>
            rw [decodeNext_of_lead_nil hl, List.nil_append, decodeNext_of_lead hl,
              if_neg (not_second_of_ascii hl hb)]
        | cons b₁ bs =>
            rw [List.cons_append, decodeNext_of_lead hl, decodeNext_of_lead hl]
            split
            · exact continuation_append_ascii hb n _ bs rest
            · rfl

theorem decodeUtf8_append_ascii (hb : b < 0x80) (bs rest : List UInt8) :
    decodeUtf8 (bs ++ b :: rest) = decodeUtf8 bs ++ decodeUtf8 (b :: rest) := by
  induction bs using decodeUtf8.induct with
  | case1 => rw [decodeUtf8.eq_1]; rfl
  | case2 a bs next ih =>
      rw [List.cons_append, decodeUtf8, decodeNext_append_ascii hb, decodeUtf8.eq_2]
      simp only
      rw [ih, List.cons_append]

theorem decodeLossy_append_ascii (hb : b < 0x80) (bs rest : List UInt8) :
    decodeLossy (bs ++ b :: rest) =
      decodeLossy bs ++ Char.ofNat b.toNat :: decodeLossy rest := by
  rw [decodeLossy, decodeUtf8_append_ascii hb, List.map_append, ← decodeLossy, ← decodeLossy,
    decodeLossy_cons_ascii hb]

def lowerByte (b : UInt8) : UInt8 := if 0x41 ≤ b ∧ b ≤ 0x5A then b + 0x20 else b

theorem lowerByte_of_not_ascii (hb : ¬b < 0x80) : lowerByte b = b := by
  rw [lowerByte, if_neg]
  rintro ⟨-, h⟩
  exact hb (UInt8.lt_of_le_of_lt h (by decide))

theorem lowerByte_ascii (hb : b < 0x80) :
    lowerByte b < 0x80 ∧ Char.ofNat (lowerByte b).toNat = (Char.ofNat b.toNat).toLower :=
  forall_ascii (P := fun b =>
    lowerByte b < 0x80 ∧ Char.ofNat (lowerByte b).toNat = (Char.ofNat b.toNat).toLower)
    (by decide +kernel) hb

theorem toLower_of_not_ascii (hc : 0x80 ≤ c.toNat) : c.toLower = c := by
  delta Char.toLower
  rw [dif_neg]
  rintro ⟨-, h⟩
  exact absurd (Nat.le_trans hc h) (by decide)

theorem continuation_map_lowerByte (n acc : Nat) (bs : List UInt8) :
    continuation n acc (bs.map lowerByte) =
      ((continuation n acc bs).1, (continuation n acc bs).2.map lowerByte) := by
  induction n generalizing acc bs with
  | zero => rfl
  | succ n ih =>
      cases bs with
      | nil => rfl
      | cons b bs =>
          by_cases hb : b < 0x80
          · simp [continuation, not_isContinuation_of_ascii hb,
              not_isContinuation_of_ascii (lowerByte_ascii hb).1]
          · simp only [List.map_cons, continuation, lowerByte_of_not_ascii hb]
            split
            · exact ih _ bs
            · rw [List.map_cons, lowerByte_of_not_ascii hb]

theorem decodeNext_map_lowerByte (ha : ¬a < 0x80) (bs : List UInt8) :
    decodeNext a (bs.map lowerByte) = ((decodeNext a bs).1, (decodeNext a bs).2.map lowerByte) := by
  match hl : leadByte a with
  | none => rw [decodeNext_of_invalid ha hl, decodeNext_of_invalid ha hl]
  | some (acc, lo, hi, n) =>
      cases bs with
      | nil => rw [decodeNext_of_lead_nil hl]; exact decodeNext_of_lead_nil hl
      | cons b₁ bs =>
          rw [List.map_cons, decodeNext_of_lead hl, decodeNext_of_lead hl]
          by_cases hb : b₁ < 0x80
          · rw [if_neg (not_second_of_ascii hl (lowerByte_ascii hb).1),
              if_neg (not_second_of_ascii hl hb), List.map_cons]
          · rw [lowerByte_of_not_ascii hb]
            split
            · exact continuation_map_lowerByte n _ bs
            · rw [List.map_cons, lowerByte_of_not_ascii hb]

theorem head_not_ascii (ha : ¬a < 0x80) (bs : List UInt8) :
    0x80 ≤ ((decodeNext a bs).1.getD (Char.ofNat 0xFFFD)).toNat := by
  cases hn : decodeNext a bs with
  | mk o rest =>
      cases o with
      | none => exact (by decide : 0x80 ≤ (Char.ofNat 0xFFFD).toNat)
      | some c =>
          rw [decodeNext_eq_some_iff] at hn
          by_contra hc
          have hc : c.toNat < 0x80 := Nat.not_le.1 hc
          rw [String.utf8EncodeChar, Char.toNat_val, if_pos (by omega)] at hn
          obtain ⟨rfl, -⟩ := List.cons.inj hn
          refine ha (UInt8.lt_iff_toNat_lt.2 ?_)
          rw [UInt8.toNat_ofNat']
          exact Nat.lt_of_le_of_lt (Nat.mod_le _ _) hc

theorem decodeLossy_map_lowerByte (bs : List UInt8) :
    decodeLossy (bs.map lowerByte) = toAsciiLower (decodeLossy bs) := by
  induction bs using decodeUtf8.induct with
  | case1 => rw [List.map_nil, decodeLossy_nil]; rfl
  | case2 a bs next ih =>
      rw [List.map_cons]
      by_cases ha : a < 0x80
      · have hn : next.2 = bs := by simp only [next, decodeNext_of_ascii ha]
        rw [decodeLossy_cons_ascii (lowerByte_ascii ha).1, decodeLossy_cons_ascii ha, ← hn, ih,
          (lowerByte_ascii ha).2]
        rfl
      · rw [lowerByte_of_not_ascii ha, decodeLossy_cons, decodeLossy_cons,
          decodeNext_map_lowerByte ha, ih, toAsciiLower, toAsciiLower, List.map_cons,
          toLower_of_not_ascii (head_not_ascii ha bs)]

theorem continuation_suffix (n acc : Nat) (bs : List UInt8) : (continuation n acc bs).2 <:+ bs := by
  induction n generalizing acc bs with
  | zero => exact List.suffix_refl bs
  | succ n ih =>
      cases bs with
      | nil => exact List.suffix_refl []
      | cons b bs =>
          rw [continuation]
          split
          · exact (ih _ bs).trans (List.suffix_cons b bs)
          · exact List.suffix_refl _

theorem decodeNext_suffix (a : UInt8) (bs : List UInt8) : (decodeNext a bs).2 <:+ bs := by
  by_cases ha : a < 0x80
  · rw [decodeNext_of_ascii ha]
  · match hl : leadByte a with
    | none =>
        rw [decodeNext_of_invalid ha hl]
    | some (acc, lo, hi, n) =>
        cases bs with
        | nil =>
            rw [decodeNext_of_lead_nil hl]
        | cons b bs =>
            rw [decodeNext_of_lead hl]
            split
            · exact (continuation_suffix n _ bs).trans (List.suffix_cons b bs)
            · exact List.suffix_refl _

theorem exists_last_not_ascii (hb : ¬b < 0x80) (h : [b] <:+ bs) :
    ∃ cs c, decodeLossy bs = cs ++ [c] ∧ 0x80 ≤ c.toNat := by
  induction bs using decodeUtf8.induct with
  | case1 => cases List.suffix_nil.1 h
  | case2 a bs next ih =>
      rw [decodeLossy_cons]
      by_cases hn : next.2 = []
      · refine ⟨[], _, by rw [show (decodeNext a bs).2 = [] from hn, decodeLossy_nil]; rfl, ?_⟩
        refine head_not_ascii (fun ha => hb ?_) bs
        obtain rfl : bs = [] := by simpa only [next, decodeNext_of_ascii ha] using hn
        obtain rfl := List.singleton_inj.1 (h.eq_of_length rfl)
        exact ha
      · have hs : next.2 <:+ a :: bs := (decodeNext_suffix a bs).trans (List.suffix_cons a bs)
        have hlast : [b] <:+ next.2 :=
          List.suffix_of_suffix_length_le h hs (List.length_pos_iff.2 hn)
        obtain ⟨cs, c, hc, hlt⟩ := ih hlast
        exact ⟨_ :: cs, c, by rw [hc, List.cons_append], hlt⟩

theorem toNat_ofNat_toNat (hb : b < 0x80) : (Char.ofNat b.toNat).toNat = b.toNat :=
  toNat_ofNat_of_valid (.inl (Nat.lt_trans (UInt8.lt_iff_toNat_lt.1 hb) (by decide)))

/-- A set of ASCII characters, as a test on bytes and as one on characters. -/
structure AsciiSet (q : UInt8 → Bool) (p : Char → Bool) : Prop where
  ascii : ∀ b < 0x80, q b = p (Char.ofNat b.toNat)
  bytes : ∀ b, q b = true → b < 0x80
  chars : ∀ c, p c = true → c.toNat < 0x80

namespace AsciiSet

variable {q : UInt8 → Bool} {p : Char → Bool}

theorem byte (hb : b < 0x80) : AsciiSet (· == b) (· == Char.ofNat b.toNat) where
  ascii a ha := by
    rw [Bool.eq_iff_iff, beq_iff_eq, beq_iff_eq]
    refine ⟨fun h => h ▸ rfl, fun h => UInt8.toNat_inj.1 ?_⟩
    rw [← toNat_ofNat_toNat ha, h, toNat_ofNat_toNat hb]
  bytes a ha := beq_iff_eq.1 ha ▸ hb
  chars c hc := by
    rw [beq_iff_eq.1 hc, toNat_ofNat_toNat hb]
    exact UInt8.lt_iff_toNat_lt.1 hb

theorem head_eq (h : AsciiSet q p) (a : UInt8) (bs : List UInt8) :
    p ((decodeNext a bs).1.getD (Char.ofNat 0xFFFD)) = q a := by
  by_cases ha : a < 0x80
  · rw [decodeNext_of_ascii ha, h.ascii a ha]
    rfl
  · rw [Bool.eq_false_iff.2 (mt (h.bytes a) ha), Bool.eq_false_iff]
    exact fun hp => absurd (h.chars _ hp) (Nat.not_lt.2 (head_not_ascii ha bs))

theorem exists_last_eq (h : AsciiSet q p) (bs : List UInt8) (b : UInt8) :
    ∃ cs c, decodeLossy (bs ++ [b]) = cs ++ [c] ∧ p c = q b := by
  by_cases hb : b < 0x80
  · exact ⟨_, _, by rw [decodeLossy_append_ascii hb, decodeLossy_nil], (h.ascii b hb).symm⟩
  · obtain ⟨cs, c, hc, hlt⟩ := exists_last_not_ascii hb (List.suffix_append bs [b])
    refine ⟨cs, c, hc, ?_⟩
    rw [Bool.eq_false_iff.2 (mt (h.bytes b) hb), Bool.eq_false_iff]
    exact fun hp => absurd (h.chars c hp) (Nat.not_lt.2 hlt)

theorem dropWhile_decodeLossy (h : AsciiSet q p) (bs : List UInt8) :
    (decodeLossy bs).dropWhile p = decodeLossy (bs.dropWhile q) := by
  induction bs with
  | nil => rw [decodeLossy_nil, List.dropWhile_nil, List.dropWhile_nil, decodeLossy_nil]
  | cons b bs ih =>
      rw [decodeLossy_cons, List.dropWhile_cons, List.dropWhile_cons, h.head_eq]
      split
      next hq => rw [decodeNext_of_ascii (h.bytes b hq), ih]
      · rw [decodeLossy_cons]

theorem rdropWhile_decodeLossy (h : AsciiSet q p) (bs : List UInt8) :
    (decodeLossy bs).rdropWhile p = decodeLossy (bs.rdropWhile q) := by
  induction bs using List.reverseRecOn with
  | nil => rw [decodeLossy_nil, List.rdropWhile_nil, List.rdropWhile_nil, decodeLossy_nil]
  | append_singleton bs b ih =>
      by_cases hq : q b = true
      · have hb := h.bytes b hq
        rw [List.rdropWhile_concat_pos q bs b hq, decodeLossy_append_ascii hb, decodeLossy_nil,
          List.rdropWhile_concat_pos p _ _ (by rw [← h.ascii b hb, hq]), ih]
      · obtain ⟨cs, c, hc, hp⟩ := h.exists_last_eq bs b
        rw [List.rdropWhile_concat_neg q bs b hq, hc,
          List.rdropWhile_concat_neg p cs c (by rw [hp]; exact hq)]

theorem forall_not_of_forall_not (h : AsciiSet q p) (hq : ∀ b ∈ bs, q b = false) :
    ∀ c ∈ decodeLossy bs, p c = false := by
  induction bs using decodeUtf8.induct with
  | case1 => simp
  | case2 a bs next ih =>
      rw [decodeLossy_cons, List.forall_mem_cons, h.head_eq]
      have hn : ∀ b ∈ next.2, q b = false := fun b hb =>
        hq b (List.mem_cons_of_mem a ((decodeNext_suffix a bs).subset hb))
      exact ⟨hq a List.mem_cons_self, ih hn⟩

theorem countP_decodeLossy (h : AsciiSet q p) (bs : List UInt8) :
    (decodeLossy bs).countP p = bs.countP q := by
  induction hn : bs.length using Nat.strong_induction_on generalizing bs with
  | h n ih =>
      by_cases hex : ∃ b ∈ bs, q b = true
      · obtain ⟨b, hb, hq⟩ := hex
        obtain ⟨front, rest, rfl⟩ := List.append_of_mem hb
        rw [List.length_append, List.length_cons] at hn
        have hp : p (Char.ofNat b.toNat) = true := by rw [← h.ascii b (h.bytes b hq), hq]
        rw [decodeLossy_append_ascii (h.bytes b hq), List.countP_append, List.countP_append,
          List.countP_cons_of_pos hp, List.countP_cons_of_pos hq, ih _ (by omega) front rfl,
          ih _ (by omega) rest rfl]
      · simp only [not_exists, not_and, Bool.not_eq_true] at hex
        have hchars := h.forall_not_of_forall_not hex
        rw [List.countP_eq_zero.2 fun c hc => Bool.eq_false_iff.1 (hchars c hc),
          List.countP_eq_zero.2 fun b hb => Bool.eq_false_iff.1 (hex b hb)]

theorem takeWhile_decodeLossy (h : AsciiSet q p) (bs : List UInt8) :
    (decodeLossy bs).takeWhile (!p ·) = decodeLossy (bs.takeWhile (!q ·)) := by
  have hfront : ∀ c ∈ decodeLossy (bs.takeWhile (!q ·)), p c = false :=
    h.forall_not_of_forall_not fun b hb => by simpa using List.mem_takeWhile_imp hb
  have hfront' : ∀ c ∈ decodeLossy (bs.takeWhile (!q ·)), (!p c) = true := fun c hc => by
    rw [hfront c hc, Bool.not_false]
  conv_lhs => rw [← List.takeWhile_append_dropWhile (p := (!q ·)) (l := bs)]
  have hstop := List.head?_dropWhile_not (!q ·) bs
  cases hd : bs.dropWhile (!q ·) with
  | nil => rw [List.append_nil, List.takeWhile_eq_self_iff.2 hfront']
  | cons b rest =>
      have hq : q b = true := by simpa [hd] using hstop
      rw [decodeLossy_append_ascii (h.bytes b hq), List.takeWhile_append_of_pos hfront',
        List.takeWhile_cons_of_neg (by simp [← h.ascii b (h.bytes b hq), hq]), List.append_nil]

end AsciiSet

theorem count_decodeLossy (hb : b < 0x80) (bs : List UInt8) :
    (decodeLossy bs).count (Char.ofNat b.toNat) = bs.count b :=
  (AsciiSet.byte hb).countP_decodeLossy bs

end IssuanceCheck.Text
