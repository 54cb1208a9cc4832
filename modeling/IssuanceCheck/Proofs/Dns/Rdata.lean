import IssuanceCheck.Proofs.Text.Utf8
import IssuanceCheck.Dns.Record
import Mathlib.Data.List.DropRight
import Mathlib.Logic.Function.Basic

namespace IssuanceCheck.Dns

open Text

theorem exists_stripRootDots (name : String) :
    ∃ n, name.toList = (CaaRecord.stripRootDots name).toList ++ List.replicate n '.' := by
  obtain ⟨dots, h, hdots⟩ := dropEndWhile_suffix (· = '.') name.toList
  rw [CaaRecord.stripRootDots, String.toList_ofList]
  refine ⟨dots.length, ?_⟩
  rwa [← List.eq_replicate_of_mem fun c hc => of_decide_eq_true (hdots c hc)]

theorem stripRootDots_last (name : String) :
    (CaaRecord.stripRootDots name).toList.getLast? ≠ some '.' := by
  rw [CaaRecord.stripRootDots, String.toList_ofList]
  intro h
  have hne : name.toList.rdropWhile (· = '.') ≠ [] := by
    intro h0
    rw [dropEndWhile, ← List.rdropWhile, h0] at h
    cases h
  rw [dropEndWhile, ← List.rdropWhile, List.getLast?_eq_some_getLast hne] at h
  exact List.rdropWhile_last_not _ _ hne (decide_eq_true (Option.some.inj h))

/-- Well-formed CAA rdata by its parts. The length of the tag takes one byte and is not zero. -/
structure CaaRdata where
  flags : UInt8
  tag : List UInt8
  value : List UInt8
  tag_ne_nil : tag ≠ []
  tag_length : tag.length < 0x100

namespace CaaRdata

def bytes (r : CaaRdata) : List UInt8 :=
  r.flags :: UInt8.ofNat r.tag.length :: (r.tag ++ r.value)

def record (name : String) (r : CaaRdata) : CaaRecord where
  name := CaaRecord.stripRootDots name
  flags := r.flags
  tag := String.ofList (decodeLossy r.tag)
  value := String.ofList (decodeLossy r.value)

theorem lengthByte_toNat (r : CaaRdata) : (UInt8.ofNat r.tag.length).toNat = r.tag.length := by
  rw [UInt8.toNat_ofNat', Nat.mod_eq_of_lt r.tag_length]

theorem bytes_injective : Function.Injective bytes := by
  rintro r s h
  simp only [bytes, List.cons.injEq] at h
  have hl : r.tag.length = s.tag.length := by
    rw [← r.lengthByte_toNat, h.2.1, s.lengthByte_toNat]
  obtain ⟨ht, hv⟩ := List.append_inj h.2.2 hl
  cases r
  cases s
  simp_all

theorem ofRdata?_bytes (name : String) (r : CaaRdata) :
    CaaRecord.ofRdata? name r.bytes = some (r.record name) := by
  have hlen := r.lengthByte_toNat
  have hne : UInt8.ofNat r.tag.length ≠ 0 := by
    intro h
    rw [h] at hlen
    exact r.tag_ne_nil (List.length_eq_zero_iff.1 hlen.symm)
  simp only [bytes, CaaRecord.ofRdata?, hlen]
  rw [if_neg (by simpa using hne), List.take_left, List.drop_left]
  rfl

theorem ofRdata?_eq_some_iff {name : String} {bs : List UInt8} {record : CaaRecord} :
    CaaRecord.ofRdata? name bs = some record ↔
      ∃ r : CaaRdata, r.bytes = bs ∧ r.record name = record := by
  constructor
  · intro h
    match bs with
    | [] => cases h
    | [_] => cases h
    | flags :: length :: rest =>
        simp only [CaaRecord.ofRdata?] at h
        split at h
        · cases h
        next hn =>
          obtain ⟨hne, hle⟩ := not_or.1 hn
          have hlen : (rest.take length.toNat).length = length.toNat :=
            List.length_take_of_le (Nat.not_lt.1 hle)
          have hpos : rest.take length.toNat ≠ [] := by
            intro h0
            rw [h0, List.length_nil] at hlen
            exact hne (UInt8.toNat_inj.1 hlen.symm)
          refine ⟨⟨flags, rest.take length.toNat, rest.drop length.toNat, hpos,
            by rw [hlen]; exact length.toNat_lt⟩, ?_, Option.some.inj h⟩
          simp only [bytes, hlen, UInt8.ofNat_toNat, List.take_append_drop]
  · rintro ⟨r, rfl, rfl⟩
    exact ofRdata?_bytes name r

theorem mem_filterMap_ofRdata? {name : String} {rdatas : List (List UInt8)} {record : CaaRecord} :
    record ∈ rdatas.filterMap (CaaRecord.ofRdata? name) ↔
      ∃ r : CaaRdata, r.bytes ∈ rdatas ∧ r.record name = record := by
  rw [List.mem_filterMap]
  constructor
  · rintro ⟨bs, hbs, h⟩
    obtain ⟨r, rfl, hr⟩ := ofRdata?_eq_some_iff.1 h
    exact ⟨r, hbs, hr⟩
  · rintro ⟨r, hr, rfl⟩
    exact ⟨r.bytes, hr, ofRdata?_bytes name r⟩

theorem exists_accepted (name : String) (rdatas : List (List UInt8)) :
    ∃ accepted : List CaaRdata,
      rdatas.filter (fun bs => (CaaRecord.ofRdata? name bs).isSome) = accepted.map bytes ∧
        rdatas.filterMap (CaaRecord.ofRdata? name) = accepted.map (record name) := by
  induction rdatas with
  | nil => exact ⟨[], rfl, rfl⟩
  | cons bs rdatas ih =>
      obtain ⟨accepted, hf, hm⟩ := ih
      cases h : CaaRecord.ofRdata? name bs with
      | none =>
          refine ⟨accepted, ?_, ?_⟩
          · rw [List.filter_cons_of_neg (by simp [h]), hf]
          · rw [List.filterMap_cons_none h, hm]
      | some found =>
          obtain ⟨r, rfl, rfl⟩ := ofRdata?_eq_some_iff.1 h
          refine ⟨r :: accepted, ?_, ?_⟩
          · rw [List.filter_cons_of_pos (by simp [h]), hf, List.map_cons]
          · rw [List.filterMap_cons_some h, hm, List.map_cons]

theorem record_of_text {name : String} {r : CaaRdata} {tag value : String}
    (ht : r.tag = encodeUtf8 tag.toList) (hv : r.value = encodeUtf8 value.toList) :
    r.record name = ⟨CaaRecord.stripRootDots name, r.flags, tag, value⟩ := by
  rw [record, ht, hv, decodeLossy_encodeUtf8, decodeLossy_encodeUtf8, String.ofList_toList,
    String.ofList_toList]

end CaaRdata

end IssuanceCheck.Dns
