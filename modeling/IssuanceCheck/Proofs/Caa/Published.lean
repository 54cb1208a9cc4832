import IssuanceCheck.Proofs.Caa.Verdict
import IssuanceCheck.Proofs.Dns.Rdata
import IssuanceCheck.Proofs.Text.Ascii

namespace IssuanceCheck

open Dns Text

def isBlankByte (b : UInt8) : Bool := b == 0x20 || b == 0x09

theorem asciiSet_blank : AsciiSet isBlankByte (fun c => c == ' ' || c == '\t') where
  ascii _ := forall_ascii (P := fun b =>
    isBlankByte b = (Char.ofNat b.toNat == ' ' || Char.ofNat b.toNat == '\t')) (by decide +kernel)
  bytes b hb := by
    simp only [isBlankByte, Bool.or_eq_true, beq_iff_eq] at hb
    rcases hb with rfl | rfl <;> decide
  chars c hc := by
    simp only [Bool.or_eq_true, beq_iff_eq] at hc
    rcases hc with rfl | rfl <;> decide

theorem asciiSet_semicolon : AsciiSet (· == 0x3B) (· == ';') := .byte (by decide)

namespace Dns.CaaRdata

variable {r : CaaRdata} {name word : String}

def IsTagged (r : CaaRdata) (word : String) : Prop :=
  r.tag.map lowerByte = encodeUtf8 word.toList

instance (r : CaaRdata) (word : String) : Decidable (r.IsTagged word) :=
  inferInstanceAs (Decidable (_ = _))

/-- The bytes that name the issuer: those before the first semicolon, without the spaces and tabs
around them. -/
def issuer (r : CaaRdata) : List UInt8 :=
  ((r.value.takeWhile (!· == 0x3B)).dropWhile isBlankByte).rdropWhile isBlankByte

theorem toAsciiLower_tag_iff (hw : Char.ofNat 0xFFFD ∉ word.toList) :
    toAsciiLower (r.record name).tag.toList = word.toList ↔ r.IsTagged word := by
  rw [IsTagged, ← decodeLossy_eq_iff hw, decodeLossy_map_lowerByte, record, String.toList_ofList]

theorem issuerChars_record (name : String) (r : CaaRdata) :
    Caa.issuerChars (r.record name).value.toList = decodeLossy r.issuer := by
  have hp : (fun c : Char => decide (c ≠ ';')) = fun c => !c == ';' := by
    funext c
    rw [beq_eq_decide, decide_not]
  rw [record, String.toList_ofList, issuer, ← asciiSet_blank.rdropWhile_decodeLossy,
    ← asciiSet_blank.dropWhile_decodeLossy, ← asciiSet_semicolon.takeWhile_decodeLossy,
    Caa.issuerChars, hp]
  rfl

theorem issuer_record_iff {issuer : String} (h : Char.ofNat 0xFFFD ∉ issuer.toList) :
    Caa.issuer (r.record name).value = issuer ↔ r.issuer = encodeUtf8 issuer.toList := by
  rw [← decodeLossy_eq_iff h, ← issuerChars_record name, Caa.issuer]
  exact ⟨fun h => by rw [← h, String.toList_ofList], fun h => by rw [h, String.ofList_toList]⟩

theorem role_eq_issue_iff : Caa.role (r.record name) = .issue ↔ r.IsTagged "issue" := by
  rw [Caa.role_eq_issue_iff, toAsciiLower_tag_iff (by decide)]

theorem role_eq_issuewild_iff : Caa.role (r.record name) = .issuewild ↔ r.IsTagged "issuewild" := by
  rw [Caa.role_eq_issuewild_iff, toAsciiLower_tag_iff (by decide)]

theorem role_eq_criticalUnknown_iff :
    Caa.role (r.record name) = .criticalUnknown ↔
      r.flags &&& 0x81 ≠ 0 ∧ ∀ word ∈ Caa.knownTags, ¬r.IsTagged word := by
  have hw : ∀ word ∈ Caa.knownTags, Char.ofNat 0xFFFD ∉ word.toList := by decide
  rw [Caa.role_eq_criticalUnknown_iff]
  refine and_congr (by simp [CaaRecord.isCritical, record]) (forall₂_congr fun word h => ?_)
  rw [Ne, toAsciiLower_tag_iff (hw word h)]

theorem IsTagged.isSome_decodeStrict? (h : r.IsTagged word) (hw : Char.ofNat 0xFFFD ∉ word.toList) :
    (decodeStrict? r.tag).isSome := by
  rw [IsTagged, ← decodeLossy_eq_iff hw, decodeLossy_map_lowerByte] at h
  have hc : Char.ofNat 0xFFFD ∉ decodeLossy r.tag := by
    intro hm
    rw [← h] at hw
    exact hw (List.mem_map.2 ⟨_, hm, toLower_of_not_ascii (by decide)⟩)
  rw [(decodeLossy_eq_iff hc).1 rfl, decodeStrict?_encodeUtf8]
  rfl

end Dns.CaaRdata

namespace Caa

variable {domain name issuer : String} {rdatas : List (List UInt8)} {wildcard : Bool}

def Publishes (rdatas : List (List UInt8)) (word : String) : Prop :=
  ∃ r : CaaRdata, r.bytes ∈ rdatas ∧ r.IsTagged word

def PublishesUnknown (rdatas : List (List UInt8)) : Prop :=
  ∃ r : CaaRdata, r.bytes ∈ rdatas ∧ r.flags &&& 0x81 ≠ 0 ∧ ∀ word ∈ knownTags, ¬r.IsTagged word

/-- A record counts if it has the tag that applies: for a wildcard name `issuewild`, if anything is
published under it, and `issue` otherwise. -/
def Counts (rdatas : List (List UInt8)) (wildcard : Bool) (r : CaaRdata) : Prop :=
  (wildcard = true ∧ Publishes rdatas "issuewild" → r.IsTagged "issuewild") ∧
    (¬(wildcard = true ∧ Publishes rdatas "issuewild") → r.IsTagged "issue")

def Authorizes (rdatas : List (List UInt8)) (wildcard : Bool) (issuer : String) : Prop :=
  (wildcard = false ∧ ¬Publishes rdatas "issue") ∨
    ∃ r : CaaRdata, r.bytes ∈ rdatas ∧ Counts rdatas wildcard r ∧
      r.issuer = encodeUtf8 issuer.toList

theorem exists_role_iff {role' : Role} {p : CaaRdata → Prop}
    (h : ∀ r : CaaRdata, role (r.record name) = role' ↔ p r) :
    (∃ r ∈ rdatas.filterMap (CaaRecord.ofRdata? name), role r = role') ↔
      ∃ r : CaaRdata, r.bytes ∈ rdatas ∧ p r := by
  constructor
  · rintro ⟨record, hr, hp⟩
    obtain ⟨r, hmem, rfl⟩ := CaaRdata.mem_filterMap_ofRdata?.1 hr
    exact ⟨r, hmem, (h r).1 hp⟩
  · rintro ⟨r, hr, hp⟩
    exact ⟨_, CaaRdata.mem_filterMap_ofRdata?.2 ⟨r, hr, rfl⟩, (h r).2 hp⟩

theorem counts_iff {r : CaaRdata} :
    (role (r.record name) =
      if wildcard = true ∧
        ∃ r ∈ rdatas.filterMap (CaaRecord.ofRdata? name), role r = .issuewild then .issuewild
      else .issue) ↔ Counts rdatas wildcard r := by
  have hw : (∃ r ∈ rdatas.filterMap (CaaRecord.ofRdata? name), role r = .issuewild) ↔
      ∃ r : CaaRdata, r.bytes ∈ rdatas ∧ r.IsTagged "issuewild" :=
    exists_role_iff fun _ => CaaRdata.role_eq_issuewild_iff
  rw [Counts, Publishes, ← hw]
  split
  next h =>
    rw [CaaRdata.role_eq_issuewild_iff]
    exact ⟨fun ht => ⟨fun _ => ht, fun hn => absurd h hn⟩, fun hc => hc.1 h⟩
  next h =>
    rw [CaaRdata.role_eq_issue_iff]
    exact ⟨fun ht => ⟨fun hy => absurd hy h, fun _ => ht⟩, fun hc => hc.2 h⟩

theorem permitted_iff_authorizes (h : Char.ofNat 0xFFFD ∉ issuer.toList) :
    Permitted (rdatas.filterMap (CaaRecord.ofRdata? name)) wildcard issuer ↔
      Authorizes rdatas wildcard issuer := by
  rw [Permitted, Authorizes, exists_role_iff fun _ => CaaRdata.role_eq_issue_iff]
  refine or_congr Iff.rfl ?_
  constructor
  · rintro ⟨record, hr, hn⟩
    obtain ⟨hr, hc⟩ := mem_applicable_iff.1 hr
    obtain ⟨r, hmem, rfl⟩ := CaaRdata.mem_filterMap_ofRdata?.1 hr
    exact ⟨r, hmem, counts_iff.1 hc, (CaaRdata.issuer_record_iff h).1 hn⟩
  · rintro ⟨r, hr, hc, hn⟩
    refine ⟨r.record name, mem_applicable_iff.2 ⟨?_, counts_iff.2 hc⟩,
      (CaaRdata.issuer_record_iff h).2 hn⟩
    exact CaaRdata.mem_filterMap_ofRdata?.2 ⟨r, hr, rfl⟩

/-- The verdict on records as they are read is the verdict on the bytes that are published: a
critical record with an unknown tag forbids issuance, else the bytes that name an issuer decide.
Whatever invalid UTF-8 is read as is never taken for a known tag or for the issuer. -/
theorem evaluate_published (domain name : String) (rdatas : List (List UInt8)) (wildcard : Bool)
    (issuer : String) (h : Char.ofNat 0xFFFD ∉ issuer.toList) :
    let verdict := evaluate domain wildcard (rdatas.filterMap (CaaRecord.ofRdata? name)) issuer
    (verdict.map (·.name) = some "CaaCriticalUnknown" ↔ PublishesUnknown rdatas) ∧
      (¬PublishesUnknown rdatas → (verdict = none ↔ Authorizes rdatas wildcard issuer)) ∧
      (¬PublishesUnknown rdatas → ¬Authorizes rdatas wildcard issuer →
        verdict.map (·.name) = some "CaaIssuanceNotAllowed") ∧
      ∀ r : CaaRdata,
        (decodeStrict? r.tag = none → ∀ word ∈ knownTags, ¬r.IsTagged word) ∧
          (decodeStrict? r.issuer = none → r.issuer ≠ encodeUtf8 issuer.toList) := by
  intro verdict
  have hu : (∃ r ∈ rdatas.filterMap (CaaRecord.ofRdata? name), role r = .criticalUnknown) ↔
      PublishesUnknown rdatas := exists_role_iff fun _ => CaaRdata.role_eq_criticalUnknown_iff
  have hp : Permitted (rdatas.filterMap (CaaRecord.ofRdata? name)) wildcard issuer ↔
      Authorizes rdatas wildcard issuer := permitted_iff_authorizes h
  refine ⟨⟨fun hv => ?_, fun hc => ?_⟩, fun hc => ⟨fun hv => ?_, fun ha => ?_⟩, fun hc ha => ?_,
    fun r => ⟨fun hr word hw ht => ?_, fun hr hi => ?_⟩⟩
  · by_contra hc
    by_cases ha : Authorizes rdatas wildcard issuer
    · rw [show verdict = none from evaluate_of_permitted (mt hu.1 hc) (hp.2 ha)] at hv
      cases hv
    · rw [show verdict = some _ from evaluate_of_not_permitted (mt hu.1 hc) (mt hp.1 ha)] at hv
      have hname : "CaaIssuanceNotAllowed" = "CaaCriticalUnknown" := Option.some.inj hv
      exact absurd hname (by decide)
  · rw [show verdict = some _ from evaluate_of_critical (hu.2 hc)]
    rfl
  · by_contra ha
    rw [show verdict = some _ from evaluate_of_not_permitted (mt hu.1 hc) (mt hp.1 ha)] at hv
    cases hv
  · exact evaluate_of_permitted (mt hu.1 hc) (hp.2 ha)
  · rw [show verdict = some _ from evaluate_of_not_permitted (mt hu.1 hc) (mt hp.1 ha)]
    rfl
  · have hword : ∀ word ∈ knownTags, Char.ofNat 0xFFFD ∉ word.toList := by decide
    have hs := ht.isSome_decodeStrict? (hword word hw)
    rw [hr] at hs
    cases hs
  · rw [hi, decodeStrict?_encodeUtf8] at hr
    cases hr

/-- A character cut off by the semicolon does not vanish from the name of the issuer. -/
theorem evaluate_published_cut_character :
    let rdata : List UInt8 := [0, 5, 0x49, 0x73, 0x73, 0x75, 0x65, 0x63, 0x61, 0xE2, 0x82, 0x3B]
    Char.ofNat 0xFFFD ∉ "ca".toList ∧
      (evaluate "example.com" false ([rdata].filterMap (CaaRecord.ofRdata? "example.com"))
        "ca").map (·.name) = some "CaaIssuanceNotAllowed" := by
  intro rdata
  let r : CaaRdata :=
    ⟨0, [0x49, 0x73, 0x73, 0x75, 0x65], [0x63, 0x61, 0xE2, 0x82, 0x3B], by decide, by decide⟩
  have hr : ∀ s : CaaRdata, s.bytes ∈ [rdata] → s = r := fun s hs =>
    CaaRdata.bytes_injective (List.mem_singleton.1 hs)
  have htag : r.IsTagged "issue" := by decide +kernel
  have hissuer : r.issuer ≠ encodeUtf8 "ca".toList := by decide +kernel
  have hn : Char.ofNat 0xFFFD ∉ "ca".toList := by decide
  have hunknown : ¬PublishesUnknown [rdata] := by
    rintro ⟨s, hs, hcritical, -⟩
    rw [hr s hs] at hcritical
    exact hcritical (by decide)
  have hauthorizes : ¬Authorizes [rdata] false "ca" := by
    rintro (⟨-, hopen⟩ | ⟨s, hs, -, hs'⟩)
    · exact hopen ⟨r, List.mem_singleton.2 rfl, htag⟩
    · rw [hr s hs] at hs'
      exact hissuer hs'
  exact ⟨hn, (evaluate_published "example.com" "example.com" [rdata] false "ca" hn).2.2.1 hunknown
    hauthorizes⟩

end Caa

end IssuanceCheck
