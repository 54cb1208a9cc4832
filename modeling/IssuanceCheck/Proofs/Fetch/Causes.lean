import IssuanceCheck.Proofs.Fetch.Signature

namespace IssuanceCheck.Fetch

open Text

variable {message cause : List Char} {causes : List (List Char)}

theorem addCause_of_held (h : cause <:+: message) : addCause message cause = message := by
  rw [addCause, (occursIn_iff cause message).2 h, Bool.or_true, if_pos rfl]

theorem addCause_of_new (h : ¬cause <:+: message) :
    addCause message cause = message ++ [':', ' '] ++ cause := by
  have hne : cause.isEmpty = false := by
    rw [List.isEmpty_eq_false_iff]
    rintro rfl
    exact h List.nil_infix
  have hnew : occursIn cause message = false := Bool.eq_false_iff.2 (mt (occursIn_iff _ _).1 h)
  rw [addCause, hne, hnew, Bool.or_false, if_neg Bool.false_ne_true]

theorem prefix_addCause (message cause : List Char) : message <+: addCause message cause := by
  by_cases h : cause <:+: message
  · rw [addCause_of_held h]
  · rw [addCause_of_new h, List.append_assoc]
    exact List.prefix_append _ _

theorem infix_addCause (message cause : List Char) : cause <:+: addCause message cause := by
  by_cases h : cause <:+: message
  · rwa [addCause_of_held h]
  · rw [addCause_of_new h]
    exact (List.suffix_append _ _).isInfix

theorem prefix_foldl_addCause (message : List Char) (causes : List (List Char)) :
    message <+: causes.foldl addCause message := by
  induction causes generalizing message with
  | nil => exact List.prefix_refl message
  | cons cause causes ih => exact (prefix_addCause message cause).trans (ih _)

theorem infix_foldl_addCause (message : List Char) (h : cause ∈ causes) :
    cause <:+: causes.foldl addCause message := by
  induction causes generalizing message with
  | nil => cases h
  | cons first causes ih =>
      rw [List.foldl_cons]
      rcases List.mem_cons.1 h with rfl | h
      · exact (infix_addCause message cause).trans (prefix_foldl_addCause _ causes).isInfix
      · exact ih _ h

theorem exists_kept (message : List Char) (causes : List (List Char)) :
    ∃ kept : List (List Char), kept.Sublist causes ∧ (∀ cause ∈ kept, cause ≠ []) ∧
      causes.foldl addCause message = message ++ kept.flatMap ([':', ' '] ++ ·) := by
  induction causes generalizing message with
  | nil => exact ⟨[], .slnil, by simp, by simp⟩
  | cons cause causes ih =>
      obtain ⟨kept, hsub, hne, heq⟩ := ih (addCause message cause)
      rw [List.foldl_cons, heq]
      by_cases h : cause <:+: message
      · exact ⟨kept, hsub.cons cause, hne, by rw [addCause_of_held h]⟩
      · refine ⟨cause :: kept, hsub.cons_cons cause, List.forall_mem_cons.2 ⟨?_, hne⟩, ?_⟩
        · rintro rfl
          exact h List.nil_infix
        · rw [addCause_of_new h, List.flatMap_cons]
          simp only [List.append_assoc]

theorem HoldsSignature.mono {a b : List Char} (h : HoldsSignature a) (hab : a <:+: b) :
    HoldsSignature b := by
  obtain ⟨s, hs, hw⟩ := h
  exact ⟨s, hs, hw.trans (hab.map Char.toLower)⟩

theorem holdsSignature_addCause (message cause : List Char) :
    HoldsSignature (addCause message cause) ↔ HoldsSignature message ∨ HoldsSignature cause := by
  by_cases h : cause <:+: message
  · rw [addCause_of_held h]
    exact (or_iff_left_of_imp fun hc => hc.mono h).symm
  · have hcolon : isWordChar ':'.toLower = false := by decide
    have hspace : ' '.toLower ∉ ['i', 'r', 's', 'w'] := by decide
    rw [addCause_of_new h, List.append_assoc]
    exact (holdsSignature_append_cons hcolon message (' ' :: cause)).trans
      (or_congr_right (holdsSignature_cons_of_ne hspace cause))

theorem holdsSignature_foldl_addCause (message : List Char) (causes : List (List Char)) :
    HoldsSignature (causes.foldl addCause message) ↔
      HoldsSignature message ∨ ∃ cause ∈ causes, HoldsSignature cause := by
  induction causes generalizing message with
  | nil => simp
  | cons cause causes ih =>
      rw [List.foldl_cons, ih, holdsSignature_addCause, or_assoc]
      simp only [List.mem_cons, exists_eq_or_imp]

theorem describe_toList (outermost : String) (causes : List String) :
    (describe (outermost :: causes)).toList =
      (causes.map String.toList).foldl addCause outermost.toList := by
  rw [describe, String.toList_ofList]
  rfl

/-- To write an error and its causes in one line loses none of them. The text begins with that of
the error, holds that of every cause, and is made of nothing but these, in their order and each
behind a colon. Causes further down only add to its end, and one that is held already adds nothing,
wherever it comes. The line shows a protocol mismatch if and only if the error or one of its causes
does. -/
theorem describe_keeps_causes (outermost : String) (causes : List String) :
    let text := describe (outermost :: causes)
    outermost.toList <+: text.toList ∧
      (∀ layer ∈ outermost :: causes, layer.toList <:+: text.toList) ∧
      (∃ kept : List String, kept.Sublist causes ∧ (∀ cause ∈ kept, cause ≠ "") ∧
        text = outermost ++ String.join (kept.map (": " ++ ·))) ∧
      (∀ deeper, text.toList <+: (describe (outermost :: (causes ++ deeper))).toList) ∧
      (∀ cause deeper, cause.toList <:+: text.toList →
        describe (outermost :: (causes ++ cause :: deeper)) =
          describe (outermost :: (causes ++ deeper))) ∧
      (isProtocolMismatch text = true ↔
        ∃ layer ∈ outermost :: causes, isProtocolMismatch layer = true) := by
  intro text
  have htext : text.toList = (causes.map String.toList).foldl addCause outermost.toList :=
    describe_toList outermost causes
  have hbehind (deeper : List String) : (describe (outermost :: (causes ++ deeper))).toList =
      (deeper.map String.toList).foldl addCause text.toList := by
    rw [describe_toList, List.map_append, List.foldl_append, ← htext]
  refine ⟨?_, ?_, ?_, ?_, ?_, ?_⟩
  · rw [htext]
    exact prefix_foldl_addCause _ _
  · intro layer hlayer
    rw [htext]
    rcases List.mem_cons.1 hlayer with rfl | hcause
    · exact (prefix_foldl_addCause _ _).isInfix
    · exact infix_foldl_addCause _ (List.mem_map_of_mem hcause)
  · obtain ⟨kept, hsub, hne, heq⟩ := exists_kept outermost.toList (causes.map String.toList)
    obtain ⟨kept, hkept, rfl⟩ := List.sublist_map_iff.1 hsub
    refine ⟨kept, hkept, fun cause hcause => ?_, ?_⟩
    · rintro rfl
      exact hne [] (List.mem_map_of_mem hcause) rfl
    · rw [← String.toList_inj, htext, heq, String.toList_append, String.toList_join]
      simp [List.flatMap_map, String.toList_append]
  · intro deeper
    rw [hbehind]
    exact prefix_foldl_addCause _ _
  · intro cause deeper h
    rw [← String.toList_inj, hbehind, hbehind, List.map_cons, List.foldl_cons, addCause_of_held h]
  · simp only [isProtocolMismatch_iff]
    rw [htext, holdsSignature_foldl_addCause]
    simp only [List.mem_map, exists_exists_and_eq_and, List.mem_cons, exists_eq_or_imp]

end IssuanceCheck.Fetch
