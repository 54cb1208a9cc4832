import IssuanceCheck.Proofs.Caa.Decision
import IssuanceCheck.Proofs.Dns.Rdata
import IssuanceCheck.Proofs.Text.Ascii
import IssuanceCheck.Proofs.Text.Lines
import IssuanceCheck.Report.Plain

namespace IssuanceCheck

open Text

theorem Decimal.newline_not_mem_digits (n : Nat) : '\n' ∉ Decimal.digits n := by
  intro h
  have hdigit := Decimal.isDigit_of_readDigits? (Decimal.readDigits?_digits n) '\n' h
  exact absurd hdigit (by decide)

namespace Dns.CaaRecord

theorem endsLine_text (r : CaaRecord) : EndsLine r.text.toList := by
  rw [text_toList]
  exact ⟨'"', List.getLast?_concat, by decide, by decide⟩

theorem count_newline_text (r : CaaRecord) :
    r.text.toList.count '\n' =
      r.name.toList.count '\n' + r.tag.toList.count '\n' + r.value.toList.count '\n' := by
  have hdigits := List.count_eq_zero.2 (Decimal.newline_not_mem_digits r.flags.toNat)
  simp only [text_toList, List.count_append, hdigits]
  simp

end Dns.CaaRecord

namespace Dns.CaaRdata

variable {name : String}

theorem count_newline_record (h : '\n' ∉ name.toList) (r : CaaRdata) :
    (r.record name).text.toList.count '\n' = (r.bytes.drop 2).count 0x0A := by
  have hname : (CaaRecord.stripRootDots name).toList.count '\n' = 0 := by
    rw [List.count_eq_zero, CaaRecord.stripRootDots, String.toList_ofList]
    exact mt mem_of_mem_dropEndWhile h
  have hbytes : r.bytes.drop 2 = r.tag ++ r.value := rfl
  have hcount (bs : List UInt8) : (decodeLossy bs).count '\n' = bs.count 0x0A :=
    count_decodeLossy (show (0x0A : UInt8) < 0x80 by decide) bs
  rw [CaaRecord.count_newline_text, hbytes, List.count_append]
  simp only [record, String.toList_ofList, hname, hcount, Nat.zero_add]

theorem count_newline_records (h : '\n' ∉ name.toList) (found : List CaaRdata) :
    (found.map fun r => (r.record name).text.toList).flatten.count '\n' =
      (found.flatMap (·.bytes.drop 2)).count 0x0A := by
  induction found with
  | nil => rfl
  | cons r found ih =>
      rw [List.map_cons, List.flatten_cons, List.count_append, ih, count_newline_record h,
        List.flatMap_cons, List.count_append]

theorem newline_mem_record_iff (h : '\n' ∉ name.toList) (r : CaaRdata) :
    '\n' ∈ (r.record name).text.toList ↔ 0x0A ∈ r.bytes.drop 2 := by
  rw [← List.count_pos_iff, count_newline_record h, List.count_pos_iff]

end Dns.CaaRdata

namespace Caa

open Dns

variable {domain issuer name : String} {wildcard : Bool} {records : List CaaRecord} {f : Finding}

theorem endsLine_of_mem_texts {t : List Char} (h : t ∈ records.map (·.text.toList)) :
    EndsLine t := by
  obtain ⟨r, -, rfl⟩ := List.mem_map.1 h
  exact r.endsLine_text

theorem exists_listed (h : evaluate domain wildcard records issuer = some f) :
    ∃ listed, listed.Sublist records ∧ f.detail = collate listed := by
  by_cases hu : ∃ r ∈ records, role r = .criticalUnknown
  · rw [evaluate_of_critical hu] at h
    cases h
    exact ⟨_, List.filter_sublist, rfl⟩
  · by_cases hp : Permitted records wildcard issuer
    · rw [evaluate_of_permitted hu hp] at h
      cases h
    · rw [evaluate_of_not_permitted hu hp] at h
      cases h
      refine ⟨_, ?_, rfl⟩
      rw [applicable_eq]
      exact List.filter_sublist

theorem lines_collate_eq (h : ∀ r ∈ records, '\n' ∉ r.text.toList) :
    lines (collate records).toList = records.map (·.text.toList) := by
  rw [collate_toList]
  exact (lines_intercalate_eq_self_iff fun t => endsLine_of_mem_texts).2
    (List.forall_mem_map.2 h)

theorem findingLines_of_collate (colors : Bool) (hdetail : f.detail = collate records)
    (h : ∀ r ∈ records, '\n' ∉ r.text.toList) :
    Report.findingLines colors f = Report.findingLines colors { f with detail := "" } ++
      if records = [] then [] else "  Detail:" :: records.map fun r => "    " ++ r.text := by
  have hlines := lines_collate_eq h
  rw [← hdetail] at hlines
  have hempty : f.detail = "" ↔ records = [] := by
    constructor
    · intro hd
      rw [hd] at hlines
      exact List.map_eq_nil_iff.1 hlines.symm
    · rintro rfl
      exact hdetail
  simp only [Report.findingLines, hempty, hlines, List.map_map, if_true, List.append_nil,
    Function.comp_def, String.ofList_toList]

/-- The records of a name without line feeds share no line in the evidence, and each takes one line
and one more for every line feed byte in its tag and its value. Each is shown as the one line of its
text if and only if nobody has published a line feed. Then the detail of a verdict and what the
report shows of it are texts of published records, line by line. -/
theorem collate_lines (name : String) (hname : '\n' ∉ name.toList) (rdatas : List (List UInt8)) :
    let records := rdatas.filterMap (CaaRecord.ofRdata? name)
    let accepted := rdatas.filter fun bs => (CaaRecord.ofRdata? name bs).isSome
    let shown := lines (collate records).toList
    shown = records.flatMap (fun r => lines r.text.toList) ∧
      shown.length = accepted.length + (accepted.flatMap (·.drop 2)).count 0x0A ∧
      (shown.length = records.length ↔ ∀ bs ∈ accepted, 0x0A ∉ bs.drop 2) ∧
      (shown = records.map (·.text.toList) ↔ ∀ bs ∈ accepted, 0x0A ∉ bs.drop 2) ∧
      ((∀ bs ∈ accepted, 0x0A ∉ bs.drop 2) → ∀ domain wildcard issuer f,
        evaluate domain wildcard records issuer = some f →
          ∃ listed, listed.Sublist records ∧ lines f.detail.toList = listed.map (·.text.toList) ∧
            ∀ colors, Report.findingLines colors f =
              Report.findingLines colors { f with detail := "" } ++
                if listed = [] then []
                else "  Detail:" :: listed.map fun r => "    " ++ r.text) := by
  intro records accepted shown
  obtain ⟨found, hfilter, hrecords⟩ := CaaRdata.exists_accepted name rdatas
  have hends : ∀ t ∈ records.map (·.text.toList), EndsLine t := fun t => endsLine_of_mem_texts
  have hclean : (∀ t ∈ records.map (·.text.toList), '\n' ∉ t) ↔
      ∀ bs ∈ accepted, 0x0A ∉ bs.drop 2 := by
    simp only [records, accepted, hfilter, hrecords, List.forall_mem_map,
      CaaRdata.newline_mem_record_iff hname]
  have hshown : shown = lines (['\n'].intercalate (records.map (·.text.toList))) :=
    congrArg lines (collate_toList records)
  refine ⟨?_, ?_, ?_, ?_, fun h domain wildcard issuer f hf => ?_⟩
  · rw [hshown, lines_intercalate hends, List.flatMap_map]
  · rw [hshown, length_lines_intercalate hends]
    simp only [records, accepted, hfilter, hrecords, List.map_map, List.length_map,
      Function.comp_def, List.flatMap_map, CaaRdata.count_newline_records hname]
  · rw [hshown, ← hclean, ← length_lines_intercalate_eq_iff hends, List.length_map]
  · rw [hshown, ← hclean, lines_intercalate_eq_self_iff hends]
  · obtain ⟨listed, hsub, hdetail⟩ := exists_listed hf
    have hn : ∀ r ∈ listed, '\n' ∉ r.text.toList := fun r hr =>
      hclean.2 h _ (List.mem_map_of_mem (hsub.subset hr))
    refine ⟨listed, hsub, ?_, fun colors => findingLines_of_collate colors hdetail hn⟩
    rw [hdetail, lines_collate_eq hn]

/-- A carriage return, a quotation mark and bytes that are not UTF-8 stay on the line of their
record. -/
theorem collate_lines_two_records :
    let rdatas : List (List UInt8) :=
      [[0, 5, 0x69, 0x73, 0x73, 0x75, 0x65, 0x0D, 0x22], [128, 1, 0xE2, 0x82]]
    let records := rdatas.filterMap (CaaRecord.ofRdata? "a.test.")
    '\n' ∉ "a.test.".toList ∧ records.length = 2 ∧
      lines (collate records).toList = records.map (·.text.toList) := by
  intro rdatas records
  have hname : '\n' ∉ "a.test.".toList := by decide
  obtain ⟨-, -, -, hshown, -⟩ := collate_lines "a.test." hname rdatas
  exact ⟨hname, by decide +kernel, hshown.2 (by decide +kernel)⟩

/-- One record with a line feed in its value shows the line of a record that is not published, and
which would have permitted the issuer that it is shown to. -/
theorem collate_forged_line :
    let value := "b.test\"\na.test.\tIN\tCAA\t0 issue \"ca.test"
    let rdata := 0 :: 5 :: encodeUtf8 ("issue".toList ++ value.toList)
    let records := [rdata].filterMap (CaaRecord.ofRdata? "a.test")
    let forged : CaaRecord := ⟨"a.test", 0, "issue", "ca.test"⟩
    records = [⟨"a.test", 0, "issue", value⟩] ∧ forged ∉ records ∧
      (lines (collate records).toList).length = 2 ∧
      forged.text.toList ∈ lines (collate records).toList ∧
      evaluate "a.test" false [forged] "ca.test" = none ∧
      ∃ f, evaluate "a.test" false records "ca.test" = some f ∧
        "    " ++ forged.text ∈ Report.findingLines false f := by
  intro value rdata records forged
  have hrecords : records = [⟨"a.test", 0, "issue", value⟩] := by decide +kernel
  refine ⟨hrecords, ?_⟩
  rw [hrecords]
  refine ⟨by decide, by decide +kernel, by decide +kernel, by decide +kernel, ?_⟩
  exact ⟨issuanceNotAllowed "a.test" false [⟨"a.test", 0, "issue", value⟩] "ca.test",
    by decide +kernel, by decide +kernel⟩

end Caa

end IssuanceCheck
