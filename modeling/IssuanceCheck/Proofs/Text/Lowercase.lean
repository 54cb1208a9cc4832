import IssuanceCheck.Proofs.Text.Ascii

namespace IssuanceCheck.Text

variable {c : Char} {word piece rest cs : List Char}

theorem forall_asciiChar {P : Char → Prop} (h : ∀ n < 0x80, P (Char.ofNat n)) (hc : c.toNat < 0x80) :
    P c := by
  have hn := h c.toNat hc
  rwa [Char.ofNat_toNat] at hn

/-- What a character beyond ASCII is lowered to. The Kelvin sign becomes an ASCII letter, and the
dotted capital I an ASCII letter with a dot behind it. -/
inductive IsForeign : List Char → Prop
  | beyond {d : Char} (h : 0x80 ≤ d.toNat) : IsForeign [d]
  | kelvin : IsForeign ['k']
  | dotted : IsForeign ['i', Char.ofNat 0x307]

/-- A word that a foreign character can neither be part of nor become part of. -/
structure IsSteady (word : List Char) : Prop where
  ascii : ∀ c ∈ word, c.toNat < 0x80
  kelvin : 'k' ∉ word
  dotted : word.getLast? ≠ some 'i'

theorem isSteady_iff : IsSteady word ↔
    (word.all fun c => c.toNat < 0x80) = true ∧ 'k' ∉ word ∧ word.getLast? ≠ some 'i' := by
  rw [List.all_eq_true]
  simp only [decide_eq_true_eq]
  exact ⟨fun h => ⟨h.ascii, h.kelvin, h.dotted⟩, fun h => ⟨h.1, h.2.1, h.2.2⟩⟩

instance (word : List Char) : Decidable (IsSteady word) := decidable_of_iff _ isSteady_iff.symm

theorem IsSteady.tail (h : IsSteady (c :: word)) : IsSteady word where
  ascii d hd := h.ascii d (List.mem_cons_of_mem c hd)
  kelvin hk := h.kelvin (List.mem_cons_of_mem c hk)
  dotted hi := h.dotted (by rw [List.getLast?_cons, hi]; rfl)

theorem caseRuns_lower : ∀ r ∈ caseRuns,
    (0x80 ≤ r.lower ∧ (r.lower + (r.last - r.first) < 0xD800 ∨
      0xDFFF < r.lower ∧ r.lower + (r.last - r.first) < 0x110000)) ∨
    (r.first = 0x212A ∧ r.last = 0x212A ∧ r.lower = 0x6B) := by
  decide +kernel

theorem lowerChar_isForeign (hc : 0x80 ≤ c.toNat) : IsForeign (lowerChar c) := by
  rw [lowerChar, if_neg (Nat.not_lt.2 hc)]
  split
  · exact .dotted
  · split
    next r hr =>
      have hholds := List.find?_some hr
      simp only [CaseRun.holds, Bool.and_eq_true, decide_eq_true_eq] at hholds
      obtain ⟨⟨hfirst, hlast⟩, -⟩ := hholds
      rcases caseRuns_lower r (List.mem_of_find?_eq_some hr) with ⟨hlow, hvalid⟩ | ⟨hf, hl, hk⟩
      · refine .beyond ?_
        rw [toNat_ofNat_of_valid (by omega)]
        omega
      · rw [show r.lower + (c.toNat - r.first) = 0x6B by omega]
        exact .kelvin
    next => exact .beyond hc

theorem toLowerFrom_cons_of_ascii (hc : c.toNat < 0x80) (before rest : List Char) :
    toLowerFrom before (c :: rest) = c.toLower :: toLowerFrom (c :: before) rest := by
  have hsigma : c ≠ 'Σ' := by
    rintro rfl
    exact absurd hc (by decide)
  rw [toLowerFrom, if_neg hsigma, lowerChar, if_pos hc]
  rfl

theorem toLowerFrom_cons_of_not_ascii (hc : 0x80 ≤ c.toNat) (before rest : List Char) :
    ∃ piece, IsForeign piece ∧
      toLowerFrom before (c :: rest) = piece ++ toLowerFrom (c :: before) rest := by
  rw [toLowerFrom]
  split
  · refine ⟨_, .beyond ?_, rfl⟩
    rw [lowerSigma]
    split <;> decide
  · exact ⟨_, lowerChar_isForeign hc, rfl⟩

theorem IsSteady.not_prefix (h : IsSteady word) (hne : word ≠ []) (hp : IsForeign piece) :
    ¬word <+: piece ++ rest := by
  obtain ⟨c, tail, rfl⟩ := List.exists_cons_of_ne_nil hne
  have hc : c.toNat < 0x80 := h.ascii c List.mem_cons_self
  intro hpre
  cases hp with
  | beyond hd =>
      obtain rfl := (List.cons_prefix_cons.1 hpre).1
      omega
  | kelvin =>
      obtain rfl := (List.cons_prefix_cons.1 hpre).1
      exact h.kelvin List.mem_cons_self
  | dotted =>
      -- A word that begins with the letter goes on, and not with the dot.
      obtain ⟨rfl, htail⟩ := List.cons_prefix_cons.1 hpre
      cases tail with
      | nil => exact h.dotted rfl
      | cons d tail =>
          obtain rfl := (List.cons_prefix_cons.1 htail).1
          exact absurd (h.ascii _ (List.mem_cons_of_mem _ List.mem_cons_self)) (by decide)

theorem IsSteady.infix_foreign_append (h : IsSteady word) (hne : word ≠ []) (hp : IsForeign piece) :
    word <:+: piece ++ rest ↔ word <:+: rest := by
  have hsingle {d : Char} (hd : IsForeign [d]) (rest : List Char) :
      word <:+: d :: rest ↔ word <:+: rest := by
    rw [List.infix_cons_iff]
    exact or_iff_right (h.not_prefix hne hd)
  cases hp with
  | beyond hd => exact hsingle (.beyond hd) rest
  | kelvin => exact hsingle .kelvin rest
  | dotted =>
      have hdot : IsForeign [Char.ofNat 0x307] := .beyond (by decide)
      rw [← hsingle hdot rest]
      exact List.infix_cons_iff.trans (or_iff_right (h.not_prefix hne .dotted))

theorem IsSteady.prefix_toLowerFrom (h : IsSteady word) (before cs : List Char) :
    word <+: toLowerFrom before cs ↔ word <+: toAsciiLower cs := by
  induction cs generalizing word before with
  | nil => rfl
  | cons c rest ih =>
      cases word with
      | nil => exact iff_of_true (List.nil_prefix) (List.nil_prefix)
      | cons w tail =>
          rw [toAsciiLower, List.map_cons, ← toAsciiLower]
          by_cases hc : c.toNat < 0x80
          · rw [toLowerFrom_cons_of_ascii hc, List.cons_prefix_cons, List.cons_prefix_cons,
              ih h.tail]
          · obtain ⟨piece, hp, heq⟩ := toLowerFrom_cons_of_not_ascii (Nat.not_lt.1 hc) before rest
            rw [heq, toLower_of_not_ascii (Nat.not_lt.1 hc)]
            exact iff_of_false (h.not_prefix (List.cons_ne_nil _ _) hp)
              (h.not_prefix (List.cons_ne_nil _ _) (.beyond (Nat.not_lt.1 hc)))

theorem IsSteady.infix_toLowerFrom (h : IsSteady word) (hne : word ≠ []) (before cs : List Char) :
    word <:+: toLowerFrom before cs ↔ word <:+: toAsciiLower cs := by
  induction cs generalizing before with
  | nil => rfl
  | cons c rest ih =>
      rw [toAsciiLower, List.map_cons, ← toAsciiLower]
      by_cases hc : c.toNat < 0x80
      · have hpre := h.prefix_toLowerFrom before (c :: rest)
        rw [toLowerFrom_cons_of_ascii hc, toAsciiLower, List.map_cons, ← toAsciiLower] at hpre
        rw [toLowerFrom_cons_of_ascii hc, List.infix_cons_iff, List.infix_cons_iff, ih, hpre]
      · obtain ⟨piece, hp, heq⟩ := toLowerFrom_cons_of_not_ascii (Nat.not_lt.1 hc) before rest
        have hforeign : IsForeign [c] := .beyond (Nat.not_lt.1 hc)
        rw [heq, toLower_of_not_ascii (Nat.not_lt.1 hc), h.infix_foreign_append hne hp, ih]
        exact (h.infix_foreign_append hne hforeign).symm

/-- A steady word stands in the lower case of a text exactly where it stands up to the case of
ASCII letters. What is beyond ASCII neither makes nor breaks it. -/
theorem IsSteady.infix_toLower (h : IsSteady word) (hne : word ≠ []) (cs : List Char) :
    word <:+: toLower cs ↔ word <:+: toAsciiLower cs :=
  h.infix_toLowerFrom hne [] cs

theorem not_ascii_of_mem_utf8EncodeChar {b : UInt8} (hc : 0x80 ≤ c.toNat)
    (h : b ∈ String.utf8EncodeChar c) : ¬b < 0x80 := by
  intro hb
  rw [eq_of_mem_utf8EncodeChar hb h, toNat_ofNat_toNat hb] at hc
  exact absurd (UInt8.lt_iff_toNat_lt.1 hb) (Nat.not_lt.2 hc)

theorem map_lowerByte_utf8EncodeChar (c : Char) :
    (String.utf8EncodeChar c).map lowerByte = String.utf8EncodeChar c.toLower := by
  by_cases hc : c.toNat < 0x80
  · refine forall_asciiChar
      (P := fun c => (String.utf8EncodeChar c).map lowerByte = String.utf8EncodeChar c.toLower)
      ?_ hc
    decide +kernel
  · have hc := Nat.not_lt.1 hc
    rw [toLower_of_not_ascii hc]
    refine (List.map_congr_left fun b hb => ?_).trans (List.map_id _)
    exact lowerByte_of_not_ascii (not_ascii_of_mem_utf8EncodeChar hc hb)

theorem map_lowerByte_encodeUtf8 (cs : List Char) :
    (encodeUtf8 cs).map lowerByte = encodeUtf8 (toAsciiLower cs) := by
  rw [encodeUtf8, encodeUtf8, toAsciiLower, List.map_flatMap, List.flatMap_map]
  simp only [map_lowerByte_utf8EncodeChar]

theorem encodeUtf8_append (cs rest : List Char) :
    encodeUtf8 (cs ++ rest) = encodeUtf8 cs ++ encodeUtf8 rest :=
  List.flatMap_append

theorem decodeLossy_encodeUtf8_append (cs : List Char) (bs : List UInt8) :
    decodeLossy (encodeUtf8 cs ++ bs) = cs ++ decodeLossy bs := by
  induction cs with
  | nil => rfl
  | cons c cs ih =>
      rw [encodeUtf8_cons, List.append_assoc, decodeLossy, decodeUtf8_utf8EncodeChar_append,
        List.map_cons, ← decodeLossy, ih]
      rfl

theorem exists_asciiByte (hc : c.toNat < 0x80) : ∃ b : UInt8, b < 0x80 ∧ c = Char.ofNat b.toNat := by
  have hb : (UInt8.ofNat c.toNat).toNat = c.toNat := by
    rw [UInt8.toNat_ofNat']
    omega
  refine ⟨UInt8.ofNat c.toNat, ?_, by rw [hb, Char.ofNat_toNat]⟩
  rw [UInt8.lt_iff_toNat_lt, hb]
  exact hc

theorem encodeUtf8_infix_iff (h : ∀ c ∈ word, c.toNat < 0x80) :
    encodeUtf8 word <:+: encodeUtf8 cs ↔ word <:+: cs := by
  constructor
  · rintro ⟨front, back, heq⟩
    cases word with
    | nil => exact List.nil_infix
    | cons c word =>
        obtain ⟨b, hb, rfl⟩ := exists_asciiByte (h c List.mem_cons_self)
        rw [encodeUtf8_cons, utf8EncodeChar_one (UInt8.lt_iff_toNat_lt.1 hb), List.append_assoc,
          List.append_assoc, List.singleton_append] at heq
        have hcs := decodeLossy_append_ascii hb front (encodeUtf8 word ++ back)
        rw [heq, decodeLossy_encodeUtf8, decodeLossy_encodeUtf8_append] at hcs
        exact ⟨decodeLossy front, decodeLossy back, by rw [hcs]; simp⟩
  · rintro ⟨front, back, rfl⟩
    exact ⟨encodeUtf8 front, encodeUtf8 back, by rw [encodeUtf8_append, encodeUtf8_append]⟩

end IssuanceCheck.Text
