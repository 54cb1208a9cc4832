import IssuanceCheck.Text.Lines

namespace IssuanceCheck.Text

variable {sep : Char} {t cs : List Char} {texts front behind : List (List Char)}

theorem joinWith_eq_intercalate (sep : List Char) (texts : List (List Char)) :
    joinWith sep texts = sep.intercalate texts := by
  induction texts using joinWith.induct with
  | case1 => rfl
  | case2 t => simp [joinWith]
  | case3 t u rest ih => simp [joinWith, ih, List.intercalate_cons_cons]

theorem joinWith_splitOn (sep : Char) (cs : List Char) : joinWith [sep] (cs.splitOn sep) = cs := by
  rw [joinWith_eq_intercalate, List.intercalate_splitOn]

theorem splitOn_joinWith (h : ∀ t ∈ texts, sep ∉ t) (hne : texts ≠ []) :
    (joinWith [sep] texts).splitOn sep = texts := by
  rw [joinWith_eq_intercalate, List.splitOn_intercalate sep h hne]

theorem splitOn_flatMap (h : ∀ t ∈ texts, sep ∉ t) :
    (texts.flatMap (· ++ [sep])).splitOn sep = texts ++ [[]] := by
  induction texts with
  | nil => rfl
  | cons t texts ih =>
      rw [List.forall_mem_cons] at h
      rw [List.flatMap_cons, List.append_assoc, List.singleton_append,
        List.splitOn_append_cons_self_of_not_mem h.1, ih h.2, List.cons_append]

theorem joinWith_append (hfront : front ≠ []) (hbehind : behind ≠ []) (sep : Char) :
    joinWith [sep] (front ++ behind) = joinWith [sep] front ++ sep :: joinWith [sep] behind := by
  induction front using joinWith.induct with
  | case1 => exact absurd rfl hfront
  | case2 t =>
      obtain ⟨u, rest, rfl⟩ := List.exists_cons_of_ne_nil hbehind
      simp [joinWith]
  | case3 t u rest ih =>
      have hrest := ih (List.cons_ne_nil u rest)
      rw [List.cons_append] at hrest
      simp [joinWith, hrest]

theorem mem_joinWith {c : Char} {sep : List Char} (h : c ∈ joinWith sep texts) :
    c ∈ sep ∨ ∃ t ∈ texts, c ∈ t := by
  induction texts using joinWith.induct with
  | case1 => exact absurd h List.not_mem_nil
  | case2 t => exact .inr ⟨t, List.mem_singleton_self t, h⟩
  | case3 t u rest ih =>
      rw [joinWith, List.mem_append, List.mem_append] at h
      rcases h with (h | h) | h
      · exact .inr ⟨t, List.mem_cons_self, h⟩
      · exact .inl h
      · exact (ih h).imp_right fun ⟨v, hv, hc⟩ => ⟨v, List.mem_cons_of_mem t hv, hc⟩

theorem not_mem_of_mem_splitOn (h : t ∈ cs.splitOn sep) : sep ∉ t := by
  induction cs generalizing t with
  | nil =>
      rw [List.splitOn_nil, List.mem_singleton] at h
      exact h ▸ List.not_mem_nil
  | cons c cs ih =>
      rw [List.splitOn_cons_eq_if_modifyHead] at h
      split at h
      · rcases List.mem_cons.1 h with rfl | h
        · exact List.not_mem_nil
        · exact ih h
      next hc =>
        obtain ⟨first, rest, hsplit⟩ := List.exists_cons_of_ne_nil (List.splitOn_ne_nil sep cs)
        rw [hsplit] at h ih
        rcases List.mem_cons.1 h with rfl | h
        · rw [List.mem_cons, not_or]
          exact ⟨fun he => hc (by simp [he]), ih List.mem_cons_self⟩
        · exact ih (List.mem_cons_of_mem first h)

end IssuanceCheck.Text
