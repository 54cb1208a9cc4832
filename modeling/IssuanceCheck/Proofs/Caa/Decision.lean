import IssuanceCheck.Proofs.Caa.Verdict
import IssuanceCheck.Proofs.Text.Joined

namespace IssuanceCheck

open Dns Text

namespace Dns.CaaRecord

variable {r r' : CaaRecord} {word : String}

def IsTagged (r : CaaRecord) (word : String) : Prop :=
  toAsciiLower r.tag.toList = word.toList

instance (r : CaaRecord) (word : String) : Decidable (r.IsTagged word) :=
  inferInstanceAs (Decidable (_ = _))

/-- A record with the highest or the lowest flag bit, whose tag is none that a policy knows. -/
def IsCriticalUnknown (r : CaaRecord) : Prop :=
  r.flags &&& 0x81 ≠ 0 ∧ ∀ word ∈ ["issue", "issuewild", "iodef"], ¬r.IsTagged word

instance (r : CaaRecord) : Decidable r.IsCriticalUnknown :=
  inferInstanceAs (Decidable (_ ∧ _))

theorem isCritical_iff : r.isCritical = true ↔ r.flags &&& 0x81 ≠ 0 := by
  simp [isCritical]

theorem text_toList (r : CaaRecord) :
    r.text.toList = r.name.toList ++ ".\tIN\tCAA\t".toList ++ Decimal.digits r.flags.toNat ++
      " ".toList ++ r.tag.toList ++ " \"".toList ++ r.value.toList ++ ['"'] := by
  simp only [text, Decimal.text, toString, String.toList_append, String.toList_ofList]
  rfl

def Matters (r : CaaRecord) : Prop :=
  r.IsTagged "issue" ∨ r.IsTagged "issuewild" ∨ r.IsCriticalUnknown

instance (r : CaaRecord) : Decidable r.Matters :=
  inferInstanceAs (Decidable (_ ∨ _))

/-- Records that mean the same to every issuer, whatever else they differ in. -/
structure IsAlike (r r' : CaaRecord) : Prop where
  issue : r.IsTagged "issue" ↔ r'.IsTagged "issue"
  issuewild : r.IsTagged "issuewild" ↔ r'.IsTagged "issuewild"
  unknown : r.IsCriticalUnknown ↔ r'.IsCriticalUnknown
  issuer : Caa.issuer r.value = Caa.issuer r'.value

theorem isAlike_iff : r.IsAlike r' ↔
    (r.IsTagged "issue" ↔ r'.IsTagged "issue") ∧ (r.IsTagged "issuewild" ↔ r'.IsTagged "issuewild") ∧
      (r.IsCriticalUnknown ↔ r'.IsCriticalUnknown) ∧ Caa.issuer r.value = Caa.issuer r'.value :=
  ⟨fun h => ⟨h.issue, h.issuewild, h.unknown, h.issuer⟩, fun h => ⟨h.1, h.2.1, h.2.2.1, h.2.2.2⟩⟩

instance (r r' : CaaRecord) : Decidable (r.IsAlike r') := decidable_of_iff _ isAlike_iff.symm

theorem IsAlike.refl (r : CaaRecord) : r.IsAlike r := ⟨Iff.rfl, Iff.rfl, Iff.rfl, rfl⟩

theorem isAlike_of_tag (ht : toAsciiLower r.tag.toList = toAsciiLower r'.tag.toList)
    (hc : r.isCritical = r'.isCritical) (hi : Caa.issuer r.value = Caa.issuer r'.value) :
    r.IsAlike r' := by
  have htag (word : String) : r.IsTagged word ↔ r'.IsTagged word := by
    rw [IsTagged, IsTagged, ht]
  refine ⟨htag "issue", htag "issuewild", ?_, hi⟩
  rw [IsCriticalUnknown, IsCriticalUnknown, ← isCritical_iff, ← isCritical_iff, hc]
  simp only [htag]

end Dns.CaaRecord

namespace Caa

variable {domain domain' issuer name : String} {wildcard : Bool} {records records' : List CaaRecord}
  {verdict : Option Finding}

/-- The tag of the records that decide. For a wildcard name `issuewild` comes before `issue`, if any
record has it. -/
def decidingTag (records : List CaaRecord) (wildcard : Bool) : String :=
  if wildcard = true ∧ ∃ r ∈ records, r.IsTagged "issuewild" then "issuewild" else "issue"

/-- Issuance is permitted as far as the known tags say: nothing restricts a plain name, or a deciding
record names the issuer. -/
def IsPermitted (records : List CaaRecord) (wildcard : Bool) (issuer : String) : Prop :=
  (wildcard = false ∧ ∀ r ∈ records, ¬r.IsTagged "issue") ∨
    ∃ r ∈ records, r.IsTagged (decidingTag records wildcard) ∧ Caa.issuer r.value = issuer

instance (records : List CaaRecord) (wildcard : Bool) (issuer : String) :
    Decidable (IsPermitted records wildcard issuer) :=
  inferInstanceAs (Decidable (_ ∨ _))

/-- A verdict against issuance that shows each listed record, as a zone file has it, on a line of its
own. -/
def Forbids (verdict : Option Finding) (name : String) (listed : List CaaRecord) : Prop :=
  ∃ f, verdict = some f ∧ f.name = name ∧ f.severity = .fatal ∧
    f.detail.toList = ['\n'].intercalate (listed.map fun r =>
      r.name.toList ++ ".\tIN\tCAA\t".toList ++ Decimal.digits r.flags.toNat ++ " ".toList ++
        r.tag.toList ++ " \"".toList ++ r.value.toList ++ ['"'])

/-- Every record that has a say among the first ones has its like among the second ones. -/
def Covers (records' records : List CaaRecord) : Prop :=
  ∀ r ∈ records, r.Matters → ∃ r' ∈ records', r.IsAlike r'

instance (records' records : List CaaRecord) : Decidable (Covers records' records) :=
  inferInstanceAs (Decidable (∀ r ∈ records, r.Matters → ∃ r' ∈ records', r.IsAlike r'))

theorem covers_of_subset (h : records ⊆ records') : Covers records' records :=
  fun r hr _ => ⟨r, h hr, .refl r⟩

theorem covers_of_recase {recase : CaaRecord → String}
    (h : ∀ r, toAsciiLower (recase r).toList = toAsciiLower r.tag.toList) :
    Covers (records.map fun r => { r with tag := recase r }) records ∧
      Covers records (records.map fun r => { r with tag := recase r }) := by
  constructor
  · intro r hr _
    exact ⟨_, List.mem_map_of_mem hr, CaaRecord.isAlike_of_tag (h r).symm rfl rfl⟩
  · intro r' hr' _
    obtain ⟨r, hr, rfl⟩ := List.mem_map.1 hr'
    exact ⟨r, hr, CaaRecord.isAlike_of_tag (h r) rfl rfl⟩

theorem collate_toList (records : List CaaRecord) :
    (collate records).toList = ['\n'].intercalate (records.map (·.text.toList)) := by
  rw [collate, String.toList_ofList, joinWith_eq_intercalate]

theorem role_eq_iff_isCriticalUnknown (r : CaaRecord) :
    role r = .criticalUnknown ↔ r.IsCriticalUnknown := by
  rw [role_eq_criticalUnknown_iff, CaaRecord.isCritical_iff]
  rfl

theorem applicable_eq_tagged (records : List CaaRecord) (wildcard : Bool) :
    (Policy.classify records).applicable wildcard =
      records.filter (·.IsTagged (decidingTag records wildcard)) := by
  have hwild : (∃ r ∈ records, role r = .issuewild) ↔ ∃ r ∈ records, r.IsTagged "issuewild" :=
    exists_congr fun r => and_congr_right fun _ => role_eq_issuewild_iff
  rw [applicable_eq, applicableRole_eq, decidingTag]
  simp only [hwild]
  refine List.filter_congr fun r _ => decide_eq_decide.2 ?_
  split
  · exact role_eq_issuewild_iff
  · exact role_eq_issue_iff

theorem permitted_iff_isPermitted :
    Permitted records wildcard issuer ↔ IsPermitted records wildcard issuer := by
  rw [Permitted, IsPermitted, applicable_eq_tagged]
  refine or_congr (and_congr_right fun _ => ?_) ?_
  · simp only [not_exists, not_and, role_eq_issue_iff, CaaRecord.IsTagged]
  · simp only [List.mem_filter, decide_eq_true_eq, and_assoc]

theorem exists_role_iff_exists :
    (∃ r ∈ records, role r = .criticalUnknown) ↔ ∃ r ∈ records, r.IsCriticalUnknown :=
  exists_congr fun r => and_congr_right fun _ => role_eq_iff_isCriticalUnknown r

theorem evaluate_forbids_unknown (h : ∃ r ∈ records, r.IsCriticalUnknown) :
    Forbids (evaluate domain wildcard records issuer) "CaaCriticalUnknown"
      (records.filter (·.IsCriticalUnknown)) := by
  refine ⟨_, evaluate_of_critical (exists_role_iff_exists.2 h), rfl, rfl, ?_⟩
  simp only [criticalUnknown, collate_toList, role_eq_iff_isCriticalUnknown, CaaRecord.text_toList]

theorem evaluate_permits (h : ¬∃ r ∈ records, r.IsCriticalUnknown)
    (hp : IsPermitted records wildcard issuer) : evaluate domain wildcard records issuer = none :=
  evaluate_of_permitted (mt exists_role_iff_exists.1 h) (permitted_iff_isPermitted.2 hp)

theorem evaluate_forbids (h : ¬∃ r ∈ records, r.IsCriticalUnknown)
    (hp : ¬IsPermitted records wildcard issuer) :
    Forbids (evaluate domain wildcard records issuer) "CaaIssuanceNotAllowed"
      (records.filter (·.IsTagged (decidingTag records wildcard))) := by
  refine ⟨_, evaluate_of_not_permitted (mt exists_role_iff_exists.1 h)
    (mt permitted_iff_isPermitted.1 hp), rfl, rfl, ?_⟩
  simp only [issuanceNotAllowed, collate_toList, applicable_eq_tagged, CaaRecord.text_toList]

theorem Forbids.map_name {listed : List CaaRecord} (h : Forbids verdict name listed) :
    verdict.map (·.name) = some name := by
  obtain ⟨f, rfl, hname, -⟩ := h
  rw [Option.map_some, hname]

theorem evaluate_name_eq_unknown_iff :
    (evaluate domain wildcard records issuer).map (·.name) = some "CaaCriticalUnknown" ↔
      ∃ r ∈ records, r.IsCriticalUnknown := by
  refine ⟨fun h => Decidable.not_not.1 fun hu => ?_, fun hu => (evaluate_forbids_unknown hu).map_name⟩
  by_cases hp : IsPermitted records wildcard issuer
  · rw [evaluate_permits hu hp] at h
    cases h
  · rw [(evaluate_forbids hu hp).map_name] at h
    exact absurd h (by decide)

theorem evaluate_eq_none_iff :
    evaluate domain wildcard records issuer = none ↔
      (¬∃ r ∈ records, r.IsCriticalUnknown) ∧ IsPermitted records wildcard issuer := by
  refine ⟨fun h => ?_, fun ⟨hu, hp⟩ => evaluate_permits hu hp⟩
  have hforbids {name : String} {listed : List CaaRecord}
      (hf : Forbids (evaluate domain wildcard records issuer) name listed) : False := by
    obtain ⟨f, hv, -⟩ := hf
    rw [h] at hv
    cases hv
  by_cases hu : ∃ r ∈ records, r.IsCriticalUnknown
  · exact (hforbids (evaluate_forbids_unknown hu)).elim
  · by_cases hp : IsPermitted records wildcard issuer
    · exact ⟨hu, hp⟩
    · exact (hforbids (evaluate_forbids hu hp)).elim

theorem Covers.exists_alike (h : Covers records' records) {p : CaaRecord → Prop}
    (hm : ∀ r, p r → r.Matters) (hp : ∀ r r', r.IsAlike r' → p r → p r')
    (he : ∃ r ∈ records, p r) : ∃ r ∈ records', p r := by
  obtain ⟨r, hr, hpr⟩ := he
  obtain ⟨r', hr', halike⟩ := h r hr (hm r hpr)
  exact ⟨r', hr', hp r r' halike hpr⟩

theorem exists_unknown_of_covers (h : Covers records' records)
    (he : ∃ r ∈ records, r.IsCriticalUnknown) : ∃ r ∈ records', r.IsCriticalUnknown :=
  h.exists_alike (fun _ hu => .inr (.inr hu)) (fun _ _ ha hu => ha.unknown.1 hu) he

theorem decidingTag_eq_of_covers (h : Covers records' records) (h' : Covers records records')
    (wildcard : Bool) : decidingTag records wildcard = decidingTag records' wildcard := by
  have hwild {a b : List CaaRecord} (hc : Covers b a) (he : ∃ r ∈ a, r.IsTagged "issuewild") :
      ∃ r ∈ b, r.IsTagged "issuewild" :=
    hc.exists_alike (fun _ ht => .inr (.inl ht)) (fun _ _ ha ht => ha.issuewild.1 ht) he
  have hiff : (∃ r ∈ records, r.IsTagged "issuewild") ↔ ∃ r ∈ records', r.IsTagged "issuewild" :=
    ⟨hwild h, hwild h'⟩
  simp only [decidingTag, hiff]

theorem decidingTag_eq (records : List CaaRecord) (wildcard : Bool) :
    decidingTag records wildcard = "issuewild" ∨ decidingTag records wildcard = "issue" := by
  rw [decidingTag]
  split
  · exact .inl rfl
  · exact .inr rfl

theorem IsPermitted.of_covers (hp : IsPermitted records wildcard issuer)
    (h : Covers records' records) (h' : Covers records records') :
    IsPermitted records' wildcard issuer := by
  rcases hp with ⟨hplain, hopen⟩ | ⟨r, hr, ht, hi⟩
  · refine .inl ⟨hplain, fun r hr ht => ?_⟩
    obtain ⟨r', hr', ha⟩ := h' r hr (.inl ht)
    exact hopen r' hr' (ha.issue.1 ht)
  · refine .inr ?_
    rw [decidingTag_eq_of_covers h h'] at ht
    rcases decidingTag_eq records' wildcard with htag | htag
    · rw [htag] at ht ⊢
      obtain ⟨r', hr', ha⟩ := h r hr (.inr (.inl ht))
      exact ⟨r', hr', ha.issuewild.1 ht, ha.issuer.symm.trans hi⟩
    · rw [htag] at ht ⊢
      obtain ⟨r', hr', ha⟩ := h r hr (.inl ht)
      exact ⟨r', hr', ha.issue.1 ht, ha.issuer.symm.trans hi⟩

theorem evaluate_name_of_covers (h : Covers records' records) (h' : Covers records records') :
    (evaluate domain wildcard records issuer).map (·.name) =
      (evaluate domain' wildcard records' issuer).map (·.name) := by
  by_cases hu : ∃ r ∈ records, r.IsCriticalUnknown
  · rw [(evaluate_forbids_unknown hu).map_name,
      (evaluate_forbids_unknown (exists_unknown_of_covers h hu)).map_name]
  · have hu' := mt (exists_unknown_of_covers h') hu
    by_cases hp : IsPermitted records wildcard issuer
    · rw [evaluate_permits hu hp, evaluate_permits hu' (hp.of_covers h h')]
    · have hp' := mt (fun hp' : IsPermitted records' wildcard issuer => hp'.of_covers h' h) hp
      rw [(evaluate_forbids hu hp).map_name, (evaluate_forbids hu' hp').map_name]

theorem decidingTag_of_untagged (h : ∀ r ∈ records, ¬r.IsTagged "issue" ∧ ¬r.IsTagged "issuewild")
    (wildcard : Bool) : records.filter (·.IsTagged (decidingTag records wildcard)) = [] := by
  rw [List.filter_eq_nil_iff]
  intro r hr ht
  rcases decidingTag_eq records wildcard with htag | htag
  · rw [htag, decide_eq_true_eq] at ht
    exact (h r hr).2 ht
  · rw [htag, decide_eq_true_eq] at ht
    exact (h r hr).1 ht

/-- Unknown critical records forbid issuance whatever else is published, and the finding lists them
all. Without any, an issuer is permitted, or the deciding records are listed, of which there are none
for a wildcard name that nothing is said about. Order and number of the records and the case of their
tags make no difference, nor do records without a say. -/
theorem evaluate_decides (domain : String) (wildcard : Bool) (records : List CaaRecord)
    (issuer : String) :
    let verdict := evaluate domain wildcard records issuer
    let unknown := records.filter (·.IsCriticalUnknown)
    let deciding := records.filter (·.IsTagged (decidingTag records wildcard))
    (unknown ≠ [] → Forbids verdict "CaaCriticalUnknown" unknown) ∧
      (verdict.map (·.name) = some "CaaCriticalUnknown" ↔ unknown ≠ []) ∧
      (verdict = none ↔ unknown = [] ∧ ((wildcard = false ∧ ∀ r ∈ records, ¬r.IsTagged "issue") ∨
        ∃ r ∈ deciding, Caa.issuer r.value = issuer)) ∧
      (unknown = [] → verdict ≠ none → Forbids verdict "CaaIssuanceNotAllowed" deciding) ∧
      ((∀ r ∈ records, ¬r.IsTagged "issue" ∧ ¬r.IsTagged "issuewild") → deciding = []) ∧
      (∀ domain' records', Covers records' records → Covers records records' →
        (evaluate domain' wildcard records' issuer).map (·.name) = verdict.map (·.name)) ∧
      (∀ records', records ⊆ records' → records' ⊆ records →
        (evaluate domain wildcard records' issuer).map (·.name) = verdict.map (·.name)) ∧
      ∀ recase : CaaRecord → String,
        (∀ r, toAsciiLower (recase r).toList = toAsciiLower r.tag.toList) →
        (evaluate domain wildcard (records.map fun r => { r with tag := recase r }) issuer).map
          (·.name) = verdict.map (·.name) := by
  intro verdict unknown deciding
  have hunknown : unknown = [] ↔ ¬∃ r ∈ records, r.IsCriticalUnknown := by
    simp only [unknown, List.filter_eq_nil_iff, decide_eq_true_eq, not_exists, not_and]
  have hexists : unknown ≠ [] ↔ ∃ r ∈ records, r.IsCriticalUnknown := by
    rw [Ne, hunknown, Decidable.not_not]
  have hpermitted : ((wildcard = false ∧ ∀ r ∈ records, ¬r.IsTagged "issue") ∨
      ∃ r ∈ deciding, Caa.issuer r.value = issuer) ↔ IsPermitted records wildcard issuer := by
    simp only [IsPermitted, deciding, List.mem_filter, decide_eq_true_eq, and_assoc]
  refine ⟨fun h => evaluate_forbids_unknown (hexists.1 h), ?_, ?_, fun h hv => ?_,
    fun h => decidingTag_of_untagged h wildcard, fun domain' records' h h' => ?_,
    fun records' h h' => ?_, fun recase h => ?_⟩
  · rw [hexists, evaluate_name_eq_unknown_iff]
  · rw [hpermitted, hunknown, evaluate_eq_none_iff]
  · rw [hunknown] at h
    exact evaluate_forbids h fun hp => hv (evaluate_permits h hp)
  · exact (evaluate_name_of_covers h h').symm
  · exact (evaluate_name_of_covers (covers_of_subset h) (covers_of_subset h')).symm
  · exact (evaluate_name_of_covers (covers_of_recase h).1 (covers_of_recase h).2).symm

/-- Other order, other case, other parameters, one record twice, and a record without a say left
out. -/
theorem evaluate_decides_same_meaning :
    let records : List CaaRecord :=
      [⟨"a.test", 0, "issue", ";"⟩, ⟨"a.test", 128, "iodef", "mailto:x@a.test"⟩,
        ⟨"a.test", 0, "issuewild", "ca.test; account=1"⟩]
    let records' : List CaaRecord :=
      [⟨"b.test", 128, "IssueWild", " ca.test\t"⟩, ⟨"b.test", 0, "ISSUE", ""⟩,
        ⟨"b.test", 128, "IssueWild", " ca.test\t"⟩]
    Covers records' records ∧ Covers records records' ∧
      evaluate "a.test" true records "ca.test" = none ∧
      (evaluate "b.test" true records' "ca.test").map (·.name) = none := by
  intro records records'
  have h : Covers records' records := by decide +kernel
  have h' : Covers records records' := by decide +kernel
  have hnone : evaluate "a.test" true records "ca.test" = none := by decide +kernel
  obtain ⟨-, -, -, -, -, hname, -⟩ := evaluate_decides "a.test" true records "ca.test"
  exact ⟨h, h', hnone, (hname "b.test" records' h h').trans (by rw [hnone]; rfl)⟩

end Caa

end IssuanceCheck
