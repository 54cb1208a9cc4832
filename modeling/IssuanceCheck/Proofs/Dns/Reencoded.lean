import IssuanceCheck.Proofs.Dns.Rdata

namespace IssuanceCheck

namespace Text

variable {bs : List UInt8}

theorem encodeUtf8_decodeLossy (h : (decodeStrict? bs).isSome) :
    encodeUtf8 (decodeLossy bs) = bs := by
  obtain ⟨cs, hcs⟩ := Option.isSome_iff_exists.1 h
  rw [decodeStrict?_eq_some hcs, decodeLossy_encodeUtf8]

theorem encodeUtf8_length (s : String) : (encodeUtf8 s.toList).length = s.utf8ByteSize := by
  rw [← String.size_toByteArray, ← String.utf8Encode_toList, List.utf8Encode,
    List.size_toByteArray, encodeUtf8]

end Text

namespace Dns

open Text

variable {name : String} {flags length : UInt8} {rest : List UInt8} {record : CaaRecord}

/-- Whether rdata has the parts of a record: flags, the length of a tag that is not empty, and at
least as many bytes behind it. -/
def IsFramed (bs : List UInt8) : Prop :=
  ∃ flags length rest, bs = flags :: length :: rest ∧ 1 ≤ length.toNat ∧
    length.toNat ≤ rest.length

theorem CaaRdata.isFramed_bytes (r : CaaRdata) : IsFramed r.bytes := by
  refine ⟨r.flags, UInt8.ofNat r.tag.length, r.tag ++ r.value, rfl, ?_, ?_⟩
  · rw [r.lengthByte_toNat]
    exact List.length_pos_iff.2 r.tag_ne_nil
  · rw [r.lengthByte_toNat, List.length_append]
    exact Nat.le_add_right _ _

theorem ofRdata?_isSome_iff {bs : List UInt8} :
    (CaaRecord.ofRdata? name bs).isSome ↔ IsFramed bs := by
  constructor
  · intro h
    obtain ⟨record, hrecord⟩ := Option.isSome_iff_exists.1 h
    obtain ⟨r, rfl, -⟩ := CaaRdata.ofRdata?_eq_some_iff.1 hrecord
    exact r.isFramed_bytes
  · rintro ⟨flags, length, rest, rfl, hpos, hle⟩
    have hframed : ¬(length = 0 ∨ rest.length < length.toNat) := by
      rintro (rfl | hlt)
      · exact absurd hpos (by decide)
      · exact Nat.not_lt.2 hle hlt
    rw [CaaRecord.ofRdata?, if_neg hframed]
    rfl

theorem flags_of_ofRdata? (h : CaaRecord.ofRdata? name (flags :: length :: rest) = some record) :
    record.flags = flags := by
  obtain ⟨r, hbytes, rfl⟩ := CaaRdata.ofRdata?_eq_some_iff.1 h
  exact (List.cons.inj hbytes).1

theorem name_of_ofRdata? {bs : List UInt8} (h : CaaRecord.ofRdata? name bs = some record) :
    record.name = CaaRecord.stripRootDots name := by
  obtain ⟨r, -, rfl⟩ := CaaRdata.ofRdata?_eq_some_iff.1 h
  rfl

/-- Whether the tag and the value of rdata are each spelled in UTF-8. The length byte may divide a
character between them. -/
def IsText : List UInt8 → Prop
  | _ :: length :: rest =>
      (decodeStrict? (rest.take length.toNat)).isSome ∧
        (decodeStrict? (rest.drop length.toNat)).isSome
  | _ => False

theorem CaaRdata.isText_bytes_iff (r : CaaRdata) :
    IsText r.bytes ↔ (decodeStrict? r.tag).isSome ∧ (decodeStrict? r.value).isSome := by
  rw [bytes, IsText, r.lengthByte_toNat, List.take_left, List.drop_left]

theorem rdata_of_ofRdata? {bs : List UInt8} (h : CaaRecord.ofRdata? name bs = some record)
    (htext : IsText bs) : record.rdata = bs := by
  obtain ⟨r, rfl, rfl⟩ := CaaRdata.ofRdata?_eq_some_iff.1 h
  obtain ⟨htag, hvalue⟩ := r.isText_bytes_iff.1 htext
  simp only [CaaRecord.rdata, CaaRdata.record, String.toList_ofList, encodeUtf8_decodeLossy htag,
    encodeUtf8_decodeLossy hvalue]
  rfl

theorem ofRdata?_rdata (name : String) (record : CaaRecord) (hpos : 1 ≤ record.tag.utf8ByteSize)
    (hle : record.tag.utf8ByteSize ≤ 255) :
    CaaRecord.ofRdata? name record.rdata =
      some { record with name := CaaRecord.stripRootDots name } := by
  have hlength := encodeUtf8_length record.tag
  let r : CaaRdata := {
    flags := record.flags
    tag := encodeUtf8 record.tag.toList
    value := encodeUtf8 record.value.toList
    tag_ne_nil := List.length_pos_iff.1 (by omega)
    tag_length := by omega }
  have hbytes : r.bytes = record.rdata := rfl
  rw [← hbytes, CaaRdata.ofRdata?_bytes, CaaRdata.record_of_text rfl rfl]

/-- A record is read from framed bytes and from no others, with the flags as they stand, whatever
the rest spells. Text is written back byte for byte, so that no two texts read alike, and every
record whose tag fits is read back as it was written. -/
theorem ofRdata?_inverts_rdata (name : String) :
    (∀ bs, (CaaRecord.ofRdata? name bs).isSome ↔ IsFramed bs) ∧
      (∀ flags length rest record,
        CaaRecord.ofRdata? name (flags :: length :: rest) = some record →
          record.flags = flags ∧ record.name = CaaRecord.stripRootDots name) ∧
      (∀ bs record, IsText bs → CaaRecord.ofRdata? name bs = some record → record.rdata = bs) ∧
      (∀ bs bs' record, IsText bs → IsText bs' → CaaRecord.ofRdata? name bs = some record →
        CaaRecord.ofRdata? name bs' = some record → bs = bs') ∧
      ∀ record : CaaRecord, 1 ≤ record.tag.utf8ByteSize → record.tag.utf8ByteSize ≤ 255 →
        record.rdata = record.flags :: UInt8.ofNat record.tag.utf8ByteSize ::
            (encodeUtf8 record.tag.toList ++ encodeUtf8 record.value.toList) ∧
          CaaRecord.ofRdata? name record.rdata =
            some { record with name := CaaRecord.stripRootDots name } := by
  refine ⟨fun bs => ofRdata?_isSome_iff, ?_, fun bs record htext h => rdata_of_ofRdata? h htext,
    ?_, ?_⟩
  · exact fun flags length rest record h => ⟨flags_of_ofRdata? h, name_of_ofRdata? h⟩
  · intro bs bs' record htext htext' h h'
    rw [← rdata_of_ofRdata? h htext, rdata_of_ofRdata? h' htext']
  · intro record hpos hle
    refine ⟨?_, ofRdata?_rdata name record hpos hle⟩
    rw [CaaRecord.rdata, ← encodeUtf8_length]
    rfl

/-- The length of a tag counts bytes. Where it divides a character there is still a record. -/
theorem ofRdata?_inverts_rdata_wide_tag :
    let record : CaaRecord := ⟨"a.test", 129, "é", "ü;"⟩
    let bytes : List UInt8 := [129, 2, 0xC3, 0xA9, 0xC3, 0xBC, 0x3B]
    CaaRecord.ofRdata? "a.test." bytes = some record ∧ record.rdata = bytes ∧
      ∃ divided, CaaRecord.ofRdata? "a.test." [129, 1, 0xC3, 0xA9] = some divided ∧
        divided.flags = 129 ∧ divided.name = "a.test" := by
  intro record bytes
  obtain ⟨hsome, hparts, htext, -, hread⟩ := ofRdata?_inverts_rdata "a.test."
  obtain ⟨hbytes, hrecord⟩ := hread record (by decide) (by decide)
  have hstripped : CaaRecord.stripRootDots "a.test." = "a.test" := by decide
  have hspelled : record.rdata = bytes := by
    rw [hbytes]
    decide
  rw [hstripped, hspelled] at hrecord
  have hdivided : IsFramed [129, 1, 0xC3, 0xA9] :=
    ⟨129, 1, [0xC3, 0xA9], rfl, by decide, by decide⟩
  obtain ⟨divided, hd⟩ := Option.isSome_iff_exists.1 ((hsome _).2 hdivided)
  obtain ⟨hflags, hname⟩ := hparts _ _ _ _ hd
  refine ⟨hrecord, htext _ record ?_ hrecord, divided, hd, hflags, hname.trans hstripped⟩
  exact ⟨Option.isSome_iff_exists.2 ⟨['é'], decodeStrict?_encodeUtf8 ['é']⟩,
    Option.isSome_iff_exists.2 ⟨['ü', ';'], decodeStrict?_encodeUtf8 ['ü', ';']⟩⟩

end Dns

end IssuanceCheck
