import IssuanceCheck.Text.Lines

namespace IssuanceCheck.Text

variable {cs t : List Char} {texts : List (List Char)} {c : Char}

def endLine : List Char → List Char
  | '\r' :: line => line.reverse
  | line => line.reverse

theorem endLine_cons (hc : c ≠ '\r') (line : List Char) :
    endLine (c :: line) = (c :: line).reverse := by
  rw [endLine]
  rintro line' h
  exact hc (List.cons.inj h).1

theorem linesGo_newline (line rest : List Char) :
    lines.go line ('\n' :: rest) = endLine line :: lines rest := rfl

theorem linesGo_cons (hc : c ≠ '\n') (line rest : List Char) :
    lines.go line (c :: rest) = lines.go (c :: line) rest :=
  lines.go.eq_4 line c rest hc

theorem lines_append_newline (cs rest : List Char) :
    lines (cs ++ '\n' :: rest) = lines (cs ++ ['\n']) ++ lines rest := by
  suffices hgo : ∀ line,
      lines.go line (cs ++ '\n' :: rest) = lines.go line (cs ++ ['\n']) ++ lines rest from hgo []
  induction cs with
  | nil => exact fun _ => rfl
  | cons c cs ih =>
      intro line
      rw [List.cons_append, List.cons_append]
      by_cases hc : c = '\n'
      · rw [hc, linesGo_newline, linesGo_newline, List.cons_append]
        exact congrArg _ (ih [])
      · rw [linesGo_cons hc, linesGo_cons hc, ih]

theorem lines_of_not_mem (h : '\n' ∉ cs) (hne : cs ≠ []) : lines cs = [cs] := by
  suffices hgo : ∀ line, line.reverse ++ cs ≠ [] → lines.go line cs = [line.reverse ++ cs] from
    hgo [] hne
  clear hne
  induction cs with
  | nil =>
      intro line hne
      rw [List.append_nil] at hne ⊢
      rw [lines.go, if_neg (by simpa using hne)]
  | cons c cs ih =>
      intro line hne
      rw [List.mem_cons, not_or] at h
      rw [List.append_cons, ← List.reverse_cons] at hne ⊢
      rw [linesGo_cons (Ne.symm h.1), ih h.2 _ hne]

theorem length_lines_newline (cs : List Char) :
    (lines (cs ++ ['\n'])).length = cs.count '\n' + 1 := by
  suffices hgo : ∀ line, (lines.go line (cs ++ ['\n'])).length = cs.count '\n' + 1 from hgo []
  induction cs with
  | nil => exact fun _ => rfl
  | cons c cs ih =>
      intro line
      rw [List.cons_append]
      by_cases hc : c = '\n'
      · rw [hc, linesGo_newline, List.length_cons, lines, ih, List.count_cons_self]
      · rw [linesGo_cons hc, ih, List.count_cons_of_ne hc]

theorem lines_eq_nil_iff : lines cs = [] ↔ cs = [] := by
  suffices hgo : ∀ line, lines.go line cs = [] ↔ line = [] ∧ cs = [] from
    (hgo []).trans (and_iff_right rfl)
  induction cs with
  | nil =>
      intro line
      cases line <;> simp [lines.go]
  | cons c cs ih =>
      intro line
      refine iff_of_false (fun h => ?_) fun h => List.cons_ne_nil c cs h.2
      by_cases hc : c = '\n'
      · rw [hc, linesGo_newline] at h
        cases h
      · rw [linesGo_cons hc, ih] at h
        exact List.cons_ne_nil c line h.1

theorem endLine_subset (line : List Char) : endLine line ⊆ line := by
  rw [endLine.eq_def]
  split
  next line => exact fun c hc => List.mem_cons_of_mem _ (List.mem_reverse.1 hc)
  next => exact fun c hc => List.mem_reverse.1 hc

theorem newline_not_mem_of_mem_lines (h : t ∈ lines cs) : '\n' ∉ t := by
  suffices hgo : ∀ line, '\n' ∉ line → t ∈ lines.go line cs → '\n' ∉ t from
    hgo [] List.not_mem_nil h
  clear h
  induction cs with
  | nil =>
      intro line hline h
      rw [lines.go] at h
      split at h
      · cases h
      · rw [List.mem_singleton.1 h]
        exact mt List.mem_reverse.1 hline
  | cons c cs ih =>
      intro line hline h
      by_cases hc : c = '\n'
      · rw [hc, linesGo_newline] at h
        rcases List.mem_cons.1 h with rfl | h
        · exact fun hmem => hline (endLine_subset line hmem)
        · exact ih [] List.not_mem_nil h
      · rw [linesGo_cons hc] at h
        exact ih (c :: line) (fun hmem => (List.mem_cons.1 hmem).elim (Ne.symm hc) hline) h

/-- The last character is neither of the two that a line can lose at its end. -/
def EndsLine (cs : List Char) : Prop :=
  ∃ c, cs.getLast? = some c ∧ c ≠ '\n' ∧ c ≠ '\r'

theorem EndsLine.ne_nil (h : EndsLine cs) : cs ≠ [] := by
  obtain ⟨c, hlast, -⟩ := h
  rintro rfl
  cases hlast

theorem EndsLine.lines_newline (h : EndsLine cs) : lines (cs ++ ['\n']) = lines cs := by
  obtain ⟨c, hlast, hn, hr⟩ := h
  obtain ⟨front, rfl⟩ := List.getLast?_eq_some_iff.1 hlast
  suffices hgo : ∀ line, lines.go line (front ++ [c] ++ ['\n']) = lines.go line (front ++ [c]) from
    hgo []
  clear hlast
  induction front with
  | nil =>
      intro line
      rw [List.nil_append, List.singleton_append, linesGo_cons hn, linesGo_cons hn, linesGo_newline,
        endLine_cons hr]
      rfl
  | cons d front ih =>
      intro line
      rw [List.cons_append, List.cons_append]
      by_cases hd : d = '\n'
      · rw [hd, linesGo_newline, linesGo_newline, lines, ih, lines]
      · rw [linesGo_cons hd, linesGo_cons hd, ih]

theorem EndsLine.length_lines (h : EndsLine cs) : (lines cs).length = cs.count '\n' + 1 := by
  rw [← h.lines_newline, length_lines_newline]

theorem EndsLine.lines_eq_singleton_iff (h : EndsLine cs) : lines cs = [cs] ↔ '\n' ∉ cs := by
  refine ⟨fun hl => ?_, fun hn => lines_of_not_mem hn h.ne_nil⟩
  have hlength := h.length_lines
  rw [hl, List.length_singleton, Nat.right_eq_add] at hlength
  exact List.count_eq_zero.1 hlength

theorem lines_intercalate (h : ∀ t ∈ texts, EndsLine t) :
    lines (['\n'].intercalate texts) = texts.flatMap lines := by
  induction texts with
  | nil => rfl
  | cons t texts ih =>
      rw [List.forall_mem_cons] at h
      cases texts with
      | nil => simp
      | cons u texts =>
          rw [List.intercalate_cons_cons, List.append_assoc, List.singleton_append,
            lines_append_newline, h.1.lines_newline, ih h.2, ← List.flatMap_cons]

theorem length_lines_intercalate (h : ∀ t ∈ texts, EndsLine t) :
    (lines (['\n'].intercalate texts)).length = texts.length + texts.flatten.count '\n' := by
  rw [lines_intercalate h]
  induction texts with
  | nil => rfl
  | cons t texts ih =>
      rw [List.forall_mem_cons] at h
      rw [List.flatMap_cons, List.length_append, h.1.length_lines, ih h.2, List.flatten_cons,
        List.count_append, List.length_cons]
      omega

theorem length_lines_intercalate_eq_iff (h : ∀ t ∈ texts, EndsLine t) :
    (lines (['\n'].intercalate texts)).length = texts.length ↔ ∀ t ∈ texts, '\n' ∉ t := by
  rw [length_lines_intercalate h, Nat.add_eq_left, List.count_eq_zero, List.mem_flatten]
  simp only [not_exists, not_and]

theorem lines_intercalate_eq_self_iff (h : ∀ t ∈ texts, EndsLine t) :
    lines (['\n'].intercalate texts) = texts ↔ ∀ t ∈ texts, '\n' ∉ t := by
  refine ⟨fun heq => (length_lines_intercalate_eq_iff h).1 (congrArg List.length heq), fun hn => ?_⟩
  rw [lines_intercalate h, List.flatMap_def,
    List.map_congr_left fun t ht => (h t ht).lines_eq_singleton_iff.2 (hn t ht),
    ← List.flatMap_def, List.flatMap_singleton']

end IssuanceCheck.Text
