import IssuanceCheck.Proofs.Text.Lines
import IssuanceCheck.Report.Plain
import IssuanceCheck.Report.Reader

namespace IssuanceCheck.Report

open Text

/-- What the plain text tells of a finding: the detail line by line. -/
structure Entry where
  severity : Severity
  name : String
  explanation : String
  detail : List (List Char)
deriving DecidableEq, Repr

/-- Whether a line begins with a bracket, as the first one of a finding does. -/
def isHeading (line : List Char) : Bool := line.head? = some '['

def detailMark : String := "  Detail:"

def indent : String := "    "

namespace Entry

def ofFinding (f : Finding) : Entry :=
  ⟨f.severity, f.name, f.explanation, Text.lines f.detail.toList⟩

def heading (e : Entry) : List Char := '[' :: (e.severity.text.toList ++ ']' :: ' ' :: e.name.toList)

def detailLines (e : Entry) : List (List Char) :=
  if e.detail = [] then [] else detailMark.toList :: e.detail.map (indent.toList ++ ·)

def block (e : Entry) : List (List Char) :=
  e.heading :: (' ' :: ' ' :: e.explanation.toList) :: e.detailLines

def readDetail : List (List Char) → List (List Char)
  | [] => []
  | mark :: rest =>
      if mark = detailMark.toList then
        (rest.takeWhile indent.toList.isPrefixOf).map (·.drop indent.length)
      else []

def read? : List (List Char) → Option Entry
  | ('[' :: heading) :: explanation :: rest => do
      let (severity, name) ← splitFirst? ']' heading
      some {
        severity := ← Severity.ofText? (String.ofList severity)
        name := String.ofList (name.drop 1)
        explanation := String.ofList (explanation.drop 2)
        detail := readDetail rest }
  | _ => none

/-- Every heading begins an entry, wherever it stands. -/
def readAll : List (List Char) → List Entry
  | [] => []
  | line :: rest => (read? (line :: rest)).toList ++ readAll rest

end Entry

def readEntries (text : String) : List Entry := Entry.readAll (text.toList.splitOn '\n')
variable {f : Finding} {front rest : List (List Char)} {line : List Char}

namespace Entry

theorem detail_eq_nil_iff : (ofFinding f).detail = [] ↔ f.detail = "" := by
  rw [ofFinding, lines_eq_nil_iff, String.toList_eq_nil_iff]

theorem heading_ofFinding (f : Finding) :
    (ofFinding f).heading = ("[" ++ f.severity.text ++ "] " ++ f.name).toList := by
  simp [heading, ofFinding]

theorem block_ofFinding (f : Finding) :
    (ofFinding f).block = (ofFinding f).heading :: ("  " ++ f.explanation).toList ::
      if f.detail = "" then []
      else "  Detail:".toList :: (Text.lines f.detail.toList).map ("    ".toList ++ ·) := by
  simp only [← detail_eq_nil_iff, block, detailLines]
  simp [ofFinding, detailMark, indent]

theorem findingLines_toList (f : Finding) :
    (findingLines false f).map String.toList = [] :: (ofFinding f).block := by
  have hplain : findingLines false f =
      ["", "[" ++ f.severity.text ++ "] " ++ f.name, "  " ++ f.explanation] ++
        if f.detail = "" then []
        else "  Detail:" :: (Text.lines f.detail.toList).map fun l => "    " ++ String.ofList l := rfl
  have hdetail (ls : List (List Char)) :
      ("  Detail:" :: ls.map fun l => "    " ++ String.ofList l).map String.toList =
        "  Detail:".toList :: ls.map ("    ".toList ++ ·) := by
    simp only [List.map_cons, List.map_map, Function.comp_def, String.toList_append,
      String.toList_ofList]
  rw [hplain, List.map_append, apply_ite (List.map String.toList), hdetail, block_ofFinding,
    heading_ofFinding]
  rfl

theorem newline_not_mem (hname : '\n' ∉ f.name.toList) (hexplanation : '\n' ∉ f.explanation.toList) :
    ∀ l ∈ (ofFinding f).block, '\n' ∉ l := by
  have hseverity : '\n' ∉ f.severity.text.toList := by cases f.severity <;> decide
  have hmark : '\n' ∉ detailMark.toList := by decide
  have hindent : '\n' ∉ indent.toList := by decide
  rw [block, List.forall_mem_cons, List.forall_mem_cons]
  refine ⟨by simp [heading, ofFinding, hseverity, hname], by simpa [ofFinding] using hexplanation, ?_⟩
  rw [detailLines]
  split
  · exact fun l hl => absurd hl List.not_mem_nil
  · rw [List.forall_mem_cons, List.forall_mem_map]
    refine ⟨hmark, fun l hl => ?_⟩
    rw [List.mem_append, not_or]
    exact ⟨hindent, newline_not_mem_of_mem_lines hl⟩

theorem not_isHeading_detailLines (e : Entry) : ∀ l ∈ e.detailLines, isHeading l = false := by
  rw [detailLines]
  split
  · exact fun l hl => absurd hl List.not_mem_nil
  · rw [List.forall_mem_cons, List.forall_mem_map]
    exact ⟨rfl, fun _ _ => rfl⟩

theorem filter_block (e : Entry) : e.block.filter isHeading = [e.heading] := by
  have hdetail := List.filter_eq_nil_iff.2 fun l hl =>
    Bool.eq_false_iff.1 (e.not_isHeading_detailLines l hl)
  rw [block, List.filter_cons_of_pos rfl, List.filter_cons_of_neg Bool.false_ne_true, hdetail]

def blocks (entries : List Entry) : List (List Char) := entries.flatMap ([] :: ·.block)

theorem filter_blocks (entries : List Entry) :
    (blocks entries).filter isHeading = entries.map heading := by
  induction entries with
  | nil => rfl
  | cons e entries ih =>
      rw [blocks, List.flatMap_cons, List.filter_append, ← blocks, ih,
        List.filter_cons_of_neg Bool.false_ne_true, filter_block]
      rfl

theorem exists_blocks_append (entries : List Entry) (behind : List (List Char)) :
    ∃ tail, blocks entries ++ [] :: behind = [] :: tail := by
  cases entries with
  | nil => exact ⟨behind, rfl⟩
  | cons e entries => exact ⟨_, rfl⟩

theorem read?_eq_none (h : isHeading line = false) (rest : List (List Char)) :
    read? (line :: rest) = none := by
  rw [read?.eq_def]
  split
  next heading _ _ heq =>
    rw [(List.cons.inj heq).1] at h
    cases h
  next => rfl

theorem readAll_append (h : ∀ l ∈ front, isHeading l = false) :
    readAll (front ++ rest) = readAll rest := by
  induction front with
  | nil => rfl
  | cons l front ih =>
      rw [List.forall_mem_cons] at h
      rw [List.cons_append, readAll, read?_eq_none h.1, ih h.2]
      rfl

theorem readDetail_detailLines (e : Entry) (behind : List (List Char)) :
    readDetail (e.detailLines ++ [] :: behind) = e.detail := by
  rw [detailLines]
  split
  next hd =>
    rw [hd]
    rfl
  next =>
    have hindented : ∀ l ∈ e.detail.map (indent.toList ++ ·), indent.toList.isPrefixOf l = true :=
      List.forall_mem_map.2 fun l _ => List.isPrefixOf_iff_prefix.2 (List.prefix_append _ l)
    have hblank : indent.toList.isPrefixOf [] ≠ true := by decide
    have hlength : indent.length = indent.toList.length := rfl
    rw [List.cons_append, readDetail, if_pos rfl, List.takeWhile_append_of_pos hindented,
      List.takeWhile_cons_of_neg hblank, List.append_nil, List.map_map, hlength]
    simp [Function.comp_def]

theorem read?_block (e : Entry) (behind : List (List Char)) :
    read? (e.block ++ [] :: behind) = some e := by
  have hbracket : ']' ∉ e.severity.text.toList := by cases e.severity <;> decide
  have hsplit := splitFirst?_append hbracket (' ' :: e.name.toList)
  have hseverity := e.severity.ofText?_text
  have hdetail := e.readDetail_detailLines behind
  rw [block, heading, List.cons_append, List.cons_append, read?]
  simp [hsplit, hseverity, hdetail]

theorem readAll_block (e : Entry) (behind : List (List Char)) :
    readAll (e.block ++ [] :: behind) = e :: readAll ([] :: behind) := by
  have hread := e.read?_block behind
  have hbelow : ∀ l ∈ (' ' :: ' ' :: e.explanation.toList) :: e.detailLines, isHeading l = false :=
    List.forall_mem_cons.2 ⟨rfl, e.not_isHeading_detailLines⟩
  rw [block, List.cons_append] at hread ⊢
  rw [readAll, hread, readAll_append hbelow]
  rfl

theorem readAll_blocks (entries : List Entry) (behind : List (List Char)) :
    readAll (blocks entries ++ [] :: behind) = entries ++ readAll ([] :: behind) := by
  induction entries with
  | nil => rfl
  | cons e entries ih =>
      obtain ⟨tail, htail⟩ := exists_blocks_append entries behind
      have hblank : ∀ l ∈ [([] : List Char)], isHeading l = false := by decide
      rw [blocks, List.flatMap_cons, List.append_assoc, ← blocks, htail, List.cons_append,
        ← List.singleton_append, readAll_append hblank, readAll_block, ← htail, ih,
        List.cons_append]

end Entry

end IssuanceCheck.Report
