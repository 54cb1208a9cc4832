import IssuanceCheck.Proofs.Fetch.Signature

namespace IssuanceCheck.Fetch

open Text

variable {cs word : List Char} {s : String}

/-- A word of ASCII characters that stands in a text up to the case of its letters. -/
def IsSpeltIn (word cs : List Char) : Prop :=
  ∃ front spelt back, cs = front ++ spelt ++ back ∧ (∀ c ∈ spelt, c.toNat < 0x80) ∧
    toAsciiLower spelt = word

theorem ascii_of_toAsciiLower (h : ∀ c ∈ toAsciiLower cs, c.toNat < 0x80) :
    ∀ c ∈ cs, c.toNat < 0x80 := by
  intro c hc
  by_contra hbeyond
  have hmem : c ∈ toAsciiLower cs :=
    List.mem_map.2 ⟨c, hc, toLower_of_not_ascii (Nat.not_lt.1 hbeyond)⟩
  exact hbeyond (h c hmem)

theorem infix_toAsciiLower_iff (h : ∀ c ∈ word, c.toNat < 0x80) :
    word <:+: toAsciiLower cs ↔ IsSpeltIn word cs := by
  rw [toAsciiLower, List.infix_map_iff]
  constructor
  · rintro ⟨spelt, ⟨front, back, hcs⟩, rfl⟩
    exact ⟨front, spelt, back, hcs.symm, ascii_of_toAsciiLower h, rfl⟩
  · rintro ⟨front, spelt, back, hcs, -, rfl⟩
    exact ⟨spelt, ⟨front, back, hcs.symm⟩, rfl⟩

theorem infix_map_lowerByte_iff (h : ∀ c ∈ word, c.toNat < 0x80) :
    encodeUtf8 word <:+: (encodeUtf8 cs).map lowerByte ↔ word <:+: toAsciiLower cs := by
  rw [map_lowerByte_encodeUtf8, encodeUtf8_infix_iff h]

theorem signature_ascii (hs : s ∈ mismatchSignatures) : ∀ c ∈ s.toList, c.toNat < 0x80 :=
  (signature_steady s hs).1.ascii

/-- A protocol mismatch is found by the full rules of lower case where a plain search finds it that
knows the case of ASCII letters alone, be it a search of the characters or one of the bytes. What is
beyond ASCII parts a text, and a signature stands on one side of it or nowhere. -/
theorem isProtocolMismatch_plain (text : String) :
    let signatures := ["server gave http response to https client", "invalidcontenttype",
      "received corrupt message", "wrong version number"]
    (isProtocolMismatch text = true ↔ ∃ s ∈ signatures, IsSpeltIn s.toList text.toList) ∧
    (isProtocolMismatch text = true ↔ ∃ s ∈ signatures,
      encodeUtf8 s.toList <:+: (encodeUtf8 text.toList).map lowerByte) ∧
    ∀ front c back, text = String.ofList (front ++ c :: back) → 0x80 ≤ c.toNat →
      (isProtocolMismatch text = true ↔
        isProtocolMismatch (String.ofList front) = true ∨
          isProtocolMismatch (String.ofList back) = true) := by
  intro signatures
  simp only [isProtocolMismatch_iff]
  refine ⟨?_, ?_, ?_⟩
  · exact exists_congr fun s => and_congr_right fun hs => infix_toAsciiLower_iff (signature_ascii hs)
  · exact exists_congr fun s => and_congr_right fun hs =>
      (infix_map_lowerByte_iff (signature_ascii hs)).symm
  · rintro front c back rfl hc
    simp only [String.toList_ofList]
    exact holdsSignature_append_cons (isWordChar_of_not_ascii hc) front back

end IssuanceCheck.Fetch
