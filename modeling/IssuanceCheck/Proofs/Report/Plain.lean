import IssuanceCheck.Proofs.Fetch.Observed
import IssuanceCheck.Proofs.Ip
import IssuanceCheck.Proofs.Report.Entries
import IssuanceCheck.Proofs.Text.Ascii

namespace IssuanceCheck

open Text

theorem newline_not_mem_toString (n : Nat) : '\n' ∉ (toString n).toList := by
  intro h
  rw [Nat.toString_eq_repr, Nat.toList_repr] at h
  exact absurd (Nat.isDigit_of_mem_toDigits (by decide) (by decide) h) (by decide)

namespace Fetch

def Observation.IsUnbroken (o : Observation) : Prop :=
  ∀ server, o.server = some server → '\n' ∉ server.toList

theorem newline_not_mem_server {r : Response} {server : String} (h : r.server? = some server) :
    '\n' ∉ server.toList := by
  obtain ⟨header, -, hbytes, htext⟩ := server?_eq_some_iff.1 h
  rw [htext, List.mem_map]
  rintro ⟨b, hb, hnewline⟩
  have hlt : b < 0x80 := by
    rcases hbytes b hb with ⟨-, hle⟩ | rfl
    · exact UInt8.lt_of_le_of_lt hle (by decide)
    · decide
  have hb' : b = 10 := by
    rw [← UInt8.toNat_inj, ← toNat_ofNat_toNat hlt, hnewline]
    rfl
  exact absurd (hbytes b hb) (by rw [hb']; decide)

theorem Observation.isUnbroken_ofExchanges (ip : IpAddr) (es : List Exchange) :
    (ofExchanges ip es).IsUnbroken := by
  intro server h
  rw [ofExchanges_eq] at h
  obtain ⟨r, -, hserver⟩ := Option.bind_eq_some_iff.1 h
  exact newline_not_mem_server hserver

theorem check_isUnbroken (peer : Client → Peer) (settings : Settings) (domain : String)
    (address : IpAddr) : (check peer settings domain address).observation.IsUnbroken := by
  rcases check_cases peer settings domain address with ⟨detail, hc⟩ | ⟨start, client, -, -, hc⟩
  · rw [hc]
    exact Observation.isUnbroken_ofExchanges address.canonical []
  · rw [hc]
    exact Observation.isUnbroken_ofExchanges _ _

theorem Observation.newline_not_mem_text {o : Observation} (h : o.IsUnbroken) :
    '\n' ∉ o.text.toList := by
  have hserver : '\n' ∉ (o.server.getD "").toList := by
    cases hs : o.server with
    | none => exact List.not_mem_nil
    | some server => exact h server hs
  obtain ⟨family, hfamily, htext⟩ : ∃ family : String, '\n' ∉ family.toList ∧
      o.text = "[Address Type=" ++ family ++ ",Response Code=" ++ toString (o.status.getD 0) ++
        ",Server=" ++ o.server.getD "" ++ "]" := by
    -- `rw` would take long to prove the equation of this definition, literals and all.
    delta text
    cases o.ip with
    | v4 a => exact ⟨"IPv4", by decide, rfl⟩
    | v6 a => exact ⟨"IPv6", by decide, rfl⟩
  have hstatus := newline_not_mem_toString (o.status.getD 0)
  rw [htext]
  simp only [String.toList_append, List.mem_append, not_or]
  exact ⟨⟨⟨⟨⟨⟨by decide, hfamily⟩, by decide⟩, hstatus⟩, by decide⟩, hserver⟩, by decide⟩

end Fetch

namespace Report

/-- A report with nothing but the details of its findings that could break a line. -/
structure IsUnbroken (r : Report) : Prop where
  domain : '\n' ∉ r.domain.toList
  names : ∀ f ∈ r.findings, '\n' ∉ f.name.toList
  explanations : ∀ f ∈ r.findings, '\n' ∉ f.explanation.toList
  observations : ∀ o ∈ r.observations, o.IsUnbroken
variable {r : Report} {f : Finding}

theorem exists_headline (r : Report) : ∃ front : String, '\n' ∉ front.toList ∧
    (∃ c, front.toList.head? = some c ∧ c ≠ '[') ∧
      r.headline = front ++ r.domain ++ " (" ++ r.method.text ++ ")" := by
  rw [headline]
  split
  · exact ⟨"✅ No problems found for ", by decide, ⟨'✅', rfl, by decide⟩, rfl⟩
  · exact ⟨"Found 1 problem for ", by decide, ⟨'F', rfl, by decide⟩, rfl⟩
  · refine ⟨"Found " ++ toString r.findings.length ++ " problems for ", ?_, ⟨'F', ?_, by decide⟩,
      rfl⟩
    · simp only [String.toList_append, List.mem_append, not_or]
      exact ⟨⟨by decide, newline_not_mem_toString _⟩, by decide⟩
    · rw [String.toList_append, String.toList_append]
      rfl

theorem newline_not_mem_headline (h : '\n' ∉ r.domain.toList) : '\n' ∉ r.headline.toList := by
  obtain ⟨front, hfront, -, heq⟩ := r.exists_headline
  have hmethod : '\n' ∉ r.method.text.toList := by cases r.method <;> decide
  rw [heq]
  simp only [String.toList_append, List.mem_append, not_or]
  exact ⟨⟨⟨⟨hfront, h⟩, by decide⟩, hmethod⟩, by decide⟩

theorem isHeading_headline (r : Report) : isHeading r.headline.toList = false := by
  obtain ⟨front, -, ⟨c, hhead, hc⟩, heq⟩ := r.exists_headline
  rw [isHeading, heq]
  simp only [String.toList_append, List.head?_append, hhead, Option.some_or]
  simpa using hc

def closing (r : Report) : List (List Char) := r.observationLines.map String.toList ++ [[]]

theorem observationLines_cases (r : Report) : r.observationLines = [] ∨
    r.observationLines = "" :: "Validation fetches:" ::
      r.observations.map fun o => "  " ++ o.ip.text ++ " " ++ o.text := by
  rw [observationLines]
  split
  · exact .inl rfl
  · exact .inr rfl

theorem exists_closing (r : Report) :
    ∃ behind, r.closing = [] :: behind ∧ ∀ l ∈ behind, isHeading l = false := by
  rcases r.observationLines_cases with h | h
  · exact ⟨[], by rw [closing, h]; rfl, by simp⟩
  · refine ⟨"Validation fetches:".toList :: (r.observations.map fun o =>
      ("  " ++ o.ip.text ++ " " ++ o.text).toList) ++ [[]], ?_, ?_⟩
    · rw [closing, h]
      simp [Function.comp_def]
    · rw [List.forall_mem_append, List.forall_mem_cons, List.forall_mem_map]
      refine ⟨⟨rfl, fun o _ => ?_⟩, by decide⟩
      simp only [String.toList_append]
      rfl

namespace IsUnbroken

theorem newline_not_mem_observationLines (h : r.IsUnbroken) :
    ∀ l ∈ r.observationLines, '\n' ∉ l.toList := by
  rcases r.observationLines_cases with hr | hr
  · simp [hr]
  · rw [hr, List.forall_mem_cons, List.forall_mem_cons, List.forall_mem_map]
    refine ⟨by decide, by decide, fun o ho => ?_⟩
    simp only [String.toList_append, List.mem_append, not_or]
    exact ⟨⟨⟨by decide, o.ip.newline_not_mem_text⟩, by decide⟩,
      Fetch.Observation.newline_not_mem_text (h.observations o ho)⟩

theorem newline_not_mem_blocks (h : r.IsUnbroken) :
    ∀ l ∈ Entry.blocks (r.findings.map Entry.ofFinding), '\n' ∉ l := by
  intro l hl
  obtain ⟨e, he, hl⟩ := List.mem_flatMap.1 hl
  obtain ⟨f, hf, rfl⟩ := List.mem_map.1 he
  rcases List.mem_cons.1 hl with rfl | hl
  · exact List.not_mem_nil
  · exact Entry.newline_not_mem (h.names f hf) (h.explanations f hf) l hl

theorem splitOn_renderPlain (h : r.IsUnbroken) :
    (r.renderPlain false).toList.splitOn '\n' =
      r.headline.toList :: Entry.blocks (r.findings.map Entry.ofFinding) ++ r.closing := by
  have hblocks : (r.findings.flatMap (findingLines false)).map String.toList =
      Entry.blocks (r.findings.map Entry.ofFinding) := by
    simp only [List.map_flatMap, Entry.findingLines_toList, Entry.blocks, List.flatMap_map]
  have hlines : (plainLines false r).map String.toList =
      r.headline.toList :: Entry.blocks (r.findings.map Entry.ofFinding) ++
        r.observationLines.map String.toList := by
    rw [plainLines, List.cons_append, List.map_cons, List.map_append, hblocks, List.cons_append]
  have hunbroken : ∀ l ∈ (plainLines false r).map String.toList, '\n' ∉ l := by
    rw [hlines, List.forall_mem_append, List.forall_mem_cons, List.forall_mem_map]
    exact ⟨⟨newline_not_mem_headline h.domain, h.newline_not_mem_blocks⟩,
      h.newline_not_mem_observationLines⟩
  have htext : (r.renderPlain false).toList =
      ((plainLines false r).map String.toList).flatMap (· ++ ['\n']) := by
    rw [renderPlain, String.toList_ofList, List.flatMap_map]
  rw [htext, splitOn_flatMap hunbroken, hlines, closing, List.append_assoc]

theorem readEntries_renderPlain (h : r.IsUnbroken) :
    readEntries (r.renderPlain false) = r.findings.map Entry.ofFinding := by
  obtain ⟨behind, hclosing, hbehind⟩ := r.exists_closing
  have hheadline : ∀ l ∈ [r.headline.toList], isHeading l = false := by
    simpa using r.isHeading_headline
  have hrest : Entry.readAll ([] :: behind) = [] := by
    have hnone : ∀ l ∈ [] :: behind, isHeading l = false := List.forall_mem_cons.2 ⟨rfl, hbehind⟩
    rw [← List.append_nil ([] :: behind), Entry.readAll_append hnone, Entry.readAll]
  rw [readEntries, h.splitOn_renderPlain, hclosing, List.cons_append, ← List.singleton_append,
    Entry.readAll_append hheadline, Entry.readAll_blocks, hrest, List.append_nil]

theorem filter_isHeading (h : r.IsUnbroken) :
    ((r.renderPlain false).toList.splitOn '\n').filter isHeading =
      r.findings.map fun f => (Entry.ofFinding f).heading := by
  obtain ⟨behind, hclosing, hbehind⟩ := r.exists_closing
  have hrest : ([] :: behind).filter isHeading = [] := by
    rw [List.filter_cons_of_neg Bool.false_ne_true]
    exact List.filter_eq_nil_iff.2 fun l hl => Bool.eq_false_iff.1 (hbehind l hl)
  have hheadline : ¬isHeading r.headline.toList = true :=
    Bool.eq_false_iff.1 r.isHeading_headline
  rw [h.splitOn_renderPlain, List.filter_append, List.filter_cons_of_neg hheadline,
    Entry.filter_blocks, hclosing, hrest, List.append_nil, List.map_map]
  rfl

theorem exists_around (h : r.IsUnbroken) {front back : List Finding}
    (hf : r.findings = front ++ f :: back) :
    ∃ above below, (r.renderPlain false).toList.splitOn '\n' =
        above ++ (Entry.ofFinding f).block ++ [] :: below ∧
      above.filter isHeading = front.map fun g => (Entry.ofFinding g).heading := by
  obtain ⟨behind, hclosing, -⟩ := r.exists_closing
  obtain ⟨below, hbelow⟩ := Entry.exists_blocks_append (back.map Entry.ofFinding) behind
  refine ⟨r.headline.toList :: Entry.blocks (front.map Entry.ofFinding) ++ [[]], below, ?_, ?_⟩
  · rw [h.splitOn_renderPlain, hf, hclosing, List.map_append, List.map_cons, ← hbelow]
    simp [Entry.blocks]
  · have hheadline : ¬isHeading r.headline.toList = true :=
      Bool.eq_false_iff.1 r.isHeading_headline
    rw [List.filter_append, List.filter_cons_of_neg hheadline, Entry.filter_blocks, List.map_map]
    exact List.append_nil _

end IsUnbroken

/-- No evidence can pass for a finding, or for less than it is, in a plain text. Whatever the details
of an otherwise unbroken report hold, its text without colors tells how many findings there are, and
of each its severity, its name, its explanation and the lines of its detail. The lines that begin
with a bracket are the headings of the findings and no others. Below each stand the explanation and,
unless it is empty, the detail, every line of it indented, up to a blank line. Servers do not break
a report: no check observes one with a line feed. -/
theorem renderPlain_unforgeable (r : Report) (h : r.IsUnbroken) :
    let text := (r.renderPlain false).toList.splitOn '\n'
    readEntries (r.renderPlain false) = r.findings.map Entry.ofFinding ∧
    (∀ r' : Report, r'.IsUnbroken → r'.renderPlain false = r.renderPlain false →
      r'.findings.map Entry.ofFinding = r.findings.map Entry.ofFinding) ∧
    (∀ f ∈ r.findings, (Entry.ofFinding f).detail = [] ↔ f.detail = "") ∧
    text.filter isHeading =
      r.findings.map (fun f => ("[" ++ f.severity.text ++ "] " ++ f.name).toList) ∧
    (∀ front f back, r.findings = front ++ f :: back → ∃ above below,
      text = above ++ ("[" ++ f.severity.text ++ "] " ++ f.name).toList ::
          ("  " ++ f.explanation).toList ::
          (if f.detail = "" then []
            else "  Detail:".toList :: (lines f.detail.toList).map ("    ".toList ++ ·)) ++
          [] :: below ∧
        (above.filter isHeading).length = front.length) ∧
    ∀ peer settings domain address server,
      (Fetch.check peer settings domain address).observation.server = some server →
        '\n' ∉ server.toList := by
  intro text
  refine ⟨h.readEntries_renderPlain, fun r' h' heq => ?_, fun f _ => Entry.detail_eq_nil_iff, ?_, ?_,
    Fetch.check_isUnbroken⟩
  · rw [← h.readEntries_renderPlain, ← heq, h'.readEntries_renderPlain]
  · simp only [← Entry.heading_ofFinding]
    exact h.filter_isHeading
  · intro front f back hf
    obtain ⟨above, below, htext, habove⟩ := h.exists_around hf
    refine ⟨above, below, ?_, ?_⟩
    · rw [← Entry.heading_ofFinding, ← Entry.block_ofFinding]
      exact htext
    · rw [habove, List.length_map]

/-- A detail that looks like the end of its finding, a finding and the fetches. -/
theorem renderPlain_unforgeable_imitation :
    let forged := "\r\n\n[Fatal] NoRecords\n  None.\r\n  Detail:\n\nValidation fetches:\n\r"
    let finding : Finding := ⟨"ANotWorking", "  Detail:", forged, .error⟩
    let observation : Fetch.Observation := ⟨some 200, some "[Fatal] nginx", .v4 ⟨0⟩⟩
    let r : Report := ⟨"a.test", .http01, [finding, { finding with detail := "" }], [observation]⟩
    r.IsUnbroken ∧ readEntries (r.renderPlain false) =
      [⟨.error, "ANotWorking", "  Detail:", ["", "", "[Fatal] NoRecords", "  None.", "  Detail:", "",
          "Validation fetches:", "\r"].map String.toList⟩,
        ⟨.error, "ANotWorking", "  Detail:", []⟩] := by
  intro forged finding observation r
  have h : r.IsUnbroken := {
    domain := by decide
    names := by decide
    explanations := by decide
    observations := by
      intro o ho server hserver
      rw [List.mem_singleton.1 ho] at hserver
      cases hserver
      decide }
  refine ⟨h, (renderPlain_unforgeable r h).1.trans ?_⟩
  decide +kernel

end Report

end IssuanceCheck
