namespace IssuanceCheck.Text

def occursIn (needle : List Char) : List Char → Bool
  | [] => needle.isEmpty
  | c :: rest => needle.isPrefixOf (c :: rest) || occursIn needle rest

theorem occursIn_iff (needle text : List Char) : occursIn needle text ↔ needle <:+: text := by
  induction text with
  | nil => simp [occursIn]
  | cons c rest ih => simp [occursIn, ih, List.infix_cons_iff]

theorem prefix_of_prefix_append_cons {c : Char} {word a b : List Char} (hc : c ∉ word)
    (h : word <+: a ++ c :: b) : word <+: a := by
  have hac : a ++ [c] <+: a ++ c :: b := ⟨b, by simp⟩
  rcases List.prefix_or_prefix_of_prefix h hac with hw | hw
  · rcases List.prefix_concat_iff.1 hw with rfl | hw
    · exact absurd (by simp) hc
    · exact hw
  · exact absurd (hw.subset (by simp)) hc

theorem infix_append_cons_iff {c : Char} {word a b : List Char} (hc : c ∉ word) :
    word <:+: a ++ c :: b ↔ word <:+: a ∨ word <:+: b := by
  induction a with
  | nil =>
      rw [List.nil_append, List.infix_cons_iff, List.infix_nil]
      refine or_congr_left ⟨fun h => ?_, fun h => h ▸ List.nil_prefix⟩
      exact List.prefix_nil.1 (prefix_of_prefix_append_cons (a := []) hc h)
  | cons x a ih =>
      rw [List.cons_append, List.infix_cons_iff, ih, List.infix_cons_iff, or_assoc]
      refine or_congr_left ⟨prefix_of_prefix_append_cons (a := x :: a) hc, fun h => ?_⟩
      exact h.trans ⟨c :: b, rfl⟩

def splitFirst? (sep : Char) : List Char → Option (List Char × List Char)
  | [] => none
  | c :: rest =>
      if c = sep then some ([], rest)
      else (splitFirst? sep rest).map (fun parts => (c :: parts.1, parts.2))

def splitLast? (sep : Char) (cs : List Char) : Option (List Char × List Char) :=
  (splitFirst? sep cs.reverse).map (fun parts => (parts.2.reverse, parts.1.reverse))

theorem splitFirst?_eq_some {sep : Char} {cs a b : List Char} (h : splitFirst? sep cs = some (a, b)) :
    cs = a ++ sep :: b ∧ sep ∉ a := by
  induction cs generalizing a with
  | nil => simp [splitFirst?] at h
  | cons c rest ih =>
      by_cases hc : c = sep
      · simp only [splitFirst?, hc, if_true, Option.some.injEq, Prod.mk.injEq] at h
        obtain ⟨rfl, rfl⟩ := h
        simp [hc]
      · simp only [splitFirst?, hc, if_false, Option.map_eq_some_iff, Prod.mk.injEq] at h
        obtain ⟨⟨x, y⟩, hxy, rfl, rfl⟩ := h
        obtain ⟨rfl, hx⟩ := ih hxy
        simp [hx, Ne.symm hc]

theorem splitFirst?_eq_none {sep : Char} {cs : List Char} : splitFirst? sep cs = none ↔ sep ∉ cs := by
  induction cs with
  | nil => simp [splitFirst?]
  | cons c rest ih =>
      by_cases hc : c = sep
      · simp [splitFirst?, hc]
      · simp [splitFirst?, hc, ih, Ne.symm hc]

theorem splitFirst?_append {sep : Char} {a : List Char} (h : sep ∉ a) (b : List Char) :
    splitFirst? sep (a ++ sep :: b) = some (a, b) := by
  induction a with
  | nil => simp [splitFirst?]
  | cons c rest ih =>
      obtain ⟨hc, hr⟩ := not_or.1 (mt List.mem_cons.2 h)
      simp [splitFirst?, Ne.symm hc, ih hr]

theorem splitLast?_append {sep : Char} {b : List Char} (h : sep ∉ b) (a : List Char) :
    splitLast? sep (a ++ sep :: b) = some (a, b) := by
  have hr : (a ++ sep :: b).reverse = b.reverse ++ sep :: a.reverse := by simp
  rw [splitLast?, hr, splitFirst?_append (mt List.mem_reverse.1 h)]
  simp

theorem splitLast?_eq_some {sep : Char} {cs a b : List Char} (h : splitLast? sep cs = some (a, b)) :
    cs = a ++ sep :: b ∧ sep ∉ b := by
  obtain ⟨⟨x, y⟩, hxy, he⟩ := Option.map_eq_some_iff.1 h
  cases he
  obtain ⟨hr, hx⟩ := splitFirst?_eq_some hxy
  rw [List.reverse_eq_iff] at hr
  exact ⟨by simpa using hr, mt List.mem_reverse.1 hx⟩

theorem splitLast?_eq_none {sep : Char} {cs : List Char} : splitLast? sep cs = none ↔ sep ∉ cs := by
  rw [splitLast?, Option.map_eq_none_iff, splitFirst?_eq_none, List.mem_reverse]

end IssuanceCheck.Text
