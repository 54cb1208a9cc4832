import IssuanceCheck.Idna
import IssuanceCheck.Proofs.Text.Utf8

namespace IssuanceCheck.Idna

open Text

variable {a b c : Char} {cs marks mapped : List Char} {last : Nat}

theorem exists_mem_of_mapM {α β : Type} {f : α → Option β} {as : List α} {bs : List β} {e : α}
    (h : as.mapM f = some bs) (ha : e ∈ as) : ∃ b ∈ bs, f e = some b := by
  induction as generalizing bs with
  | nil => cases ha
  | cons a rest ih =>
      rw [List.mapM_cons] at h
      obtain ⟨b, hb, h⟩ := Option.bind_eq_some_iff.1 h
      obtain ⟨bs', hbs, h⟩ := Option.bind_eq_some_iff.1 h
      cases h
      rcases List.mem_cons.1 ha with rfl | ha
      · exact ⟨b, List.mem_cons_self, hb⟩
      · obtain ⟨b', hm, hf⟩ := ih hbs ha
        exact ⟨b', List.mem_cons_of_mem b hm, hf⟩

theorem composites_not_ascii : ∀ e ∈ composites.toList, 0x80 ≤ e.1 := by decide +kernel

theorem decomposeWithin_of_ascii (hc : c.toNat < 0x80) (depth : Nat) :
    decomposeWithin depth c = [c] := by
  have hnone : lastAtMost (·.1) composites c.toNat = none :=
    lastAtMost_eq_none fun e he => Nat.lt_of_lt_of_le hc (composites_not_ascii e he)
  have hangul : decomposeHangul? c = none := by
    rw [decomposeHangul?, if_neg]
    simp only [Bool.and_eq_true, decide_eq_true_eq]
    omega
  cases depth with
  | zero => rfl
  | succ depth => simp only [decomposeWithin, hangul, hnone]

theorem pairKey_inj {a' b' : Char} (h : pairKey a b = pairKey a' b') : a = a' ∧ b = b' := by
  have hb := valid_toNat b
  have hb' := valid_toNat b'
  rw [pairKey, pairKey] at h
  exact ⟨Char.toNat_inj.1 (by omega), Char.toNat_inj.1 (by omega)⟩

/-- An ASCII character that no composite is made of goes through composition as it is. -/
structure IsInert (c : Char) : Prop where
  ascii : c.toNat < 0x80
  part : ∀ e ∈ composites.toList, e.2.1 ≠ c ∧ e.2.2 ≠ c

theorem isInert_colon : IsInert ':' := ⟨by decide, by decide +kernel⟩

theorem composeHangul?_eq_none (h : a.toNat < 0x80 ∨ b.toNat < 0x80) :
    composeHangul? a b = none := by
  rw [composeHangul?, if_neg, if_neg]
  · simp only [Bool.and_eq_true, decide_eq_true_eq]
    omega
  · simp only [Bool.and_eq_true, decide_eq_true_eq]
    omega

theorem IsInert.composePair? (hc : IsInert c) (h : a = c ∨ b = c) : composePair? a b = none := by
  have hangul : composeHangul? a b = none := by
    apply composeHangul?_eq_none
    rcases h with rfl | rfl
    · exact .inl hc.ascii
    · exact .inr hc.ascii
  simp only [Idna.composePair?, hangul]
  split
  next key joined hl =>
    rw [if_neg]
    rintro rfl
    obtain ⟨hm, _⟩ := lastAtMost_eq_some hl
    rw [compositesByPair, List.mem_mergeSort] at hm
    obtain ⟨e, he, heq⟩ := List.mem_map.1 hm
    obtain ⟨rfl, rfl⟩ := pairKey_inj (congrArg Prod.fst heq)
    exact h.elim (hc.part e he).1 (hc.part e he).2
  next => rfl

theorem IsInert.mem_composeFrom (hc : IsInert c) {starter : Char}
    (h : c = starter ∨ c ∈ marks ∨ c ∈ cs) : c ∈ composeFrom starter marks last cs := by
  -- The starter changes only when it joins what follows, and then neither of the two is `c`.
  induction cs generalizing starter marks last with
  | nil => simpa [composeFrom] using h
  | cons d rest ih =>
      rw [composeFrom]
      split
      next joined hj =>
        have hpair : Idna.composePair? starter d = some joined := by
          split at hj
          · exact hj
          · cases hj
        have hne : ¬(starter = c ∨ d = c) := by
          intro hor
          rw [hc.composePair? hor] at hpair
          cases hpair
        apply ih
        rcases h with rfl | h | h
        · exact absurd (.inl rfl) hne
        · exact .inr (.inl h)
        · exact .inr (.inr (List.mem_of_ne_of_mem (fun hd => hne (.inr hd.symm)) h))
      next =>
        have hd : c ∈ d :: rest ↔ c = d ∨ c ∈ rest := List.mem_cons
        split
        · rw [List.mem_append, List.mem_cons, List.mem_reverse]
          rcases h with h | h | h
          · exact .inl (.inl h)
          · exact .inl (.inr h)
          · exact .inr (ih ((hd.1 h).imp_right .inr))
        · apply ih
          rcases h with h | h | h
          · exact .inl h
          · exact .inr (.inl (List.mem_cons_of_mem d h))
          · rcases hd.1 h with rfl | h
            · exact .inr (.inl List.mem_cons_self)
            · exact .inr (.inr h)

theorem IsInert.mem_composeAll (hc : IsInert c) (h : c ∈ cs) : c ∈ composeAll cs := by
  induction cs with
  | nil => cases h
  | cons d rest ih =>
      rw [composeAll]
      split
      · exact hc.mem_composeFrom ((List.mem_cons.1 h).imp_right .inr)
      · rcases List.mem_cons.1 h with rfl | h
        · exact List.mem_cons_self
        · exact List.mem_cons_of_mem d (ih h)

theorem mem_orderMarks_sorted {marks : List (Nat × Char)} {value : Nat} (h : (value, c) ∈ marks) :
    c ∈ orderMarks.sorted marks := by
  rw [orderMarks.sorted, List.mem_map]
  exact ⟨(value, c), List.mem_mergeSort.2 (List.mem_reverse.2 h), rfl⟩

theorem mem_orderMarks (h : c ∈ cs) : c ∈ orderMarks cs := by
  -- Marks are held back until a starter comes, so `c` may be among those that are.
  suffices hgo : ∀ marks, (∃ value, (value, c) ∈ marks) ∨ c ∈ cs → c ∈ orderMarks.go marks cs from
    hgo [] (.inr h)
  clear h
  induction cs with
  | nil =>
      rintro marks (⟨value, hm⟩ | hm)
      · exact mem_orderMarks_sorted hm
      · cases hm
  | cons d rest ih =>
      intro marks hm
      rw [orderMarks.go]
      split
      · rw [List.mem_append, List.mem_cons]
        rcases hm with ⟨value, hm⟩ | hm
        · exact .inl (mem_orderMarks_sorted hm)
        · exact .inr ((List.mem_cons.1 hm).imp_right fun hm => ih [] (.inr hm))
      · apply ih
        rcases hm with ⟨value, hm⟩ | hm
        · exact .inl ⟨value, List.mem_cons_of_mem _ hm⟩
        · rcases List.mem_cons.1 hm with rfl | hm
          · exact .inl ⟨_, List.mem_cons_self⟩
          · exact .inr hm

theorem IsInert.mem_compose (hc : IsInert c) (h : c ∈ cs) : c ∈ compose cs := by
  rw [compose]
  split
  · exact h
  · apply hc.mem_composeAll
    apply mem_orderMarks
    rw [List.mem_flatMap]
    exact ⟨c, h, by rw [decomposeWithin_of_ascii hc.ascii]; exact List.mem_singleton_self c⟩

theorem IsInert.mem_mapAll? (hc : IsInert c) (hu : c.isUpper = false) (h : mapAll? cs = some mapped)
    (hm : c ∈ cs) : c ∈ mapped := by
  have hvalid : mapping c = .valid := by
    rw [mapping, if_pos hc.ascii, hu]
    rfl
  obtain ⟨images, hi, h⟩ := Option.bind_eq_some_iff.1 h
  cases h
  obtain ⟨image, himage, hf⟩ := exists_mem_of_mapM hi hm
  rw [hvalid] at hf
  cases hf
  exact hc.mem_compose (List.mem_flatten.2 ⟨[c], himage, List.mem_singleton_self c⟩)

theorem IsInert.toAscii?_eq_none (hc : IsInert c) (hu : c.isUpper = false)
    {refused : Char → Bool} (hr : refused c = true) (hm : c ∈ cs) : toAscii? refused cs = none := by
  cases hmap : mapAll? cs with
  | none =>
      rw [toAscii?, hmap]
      rfl
  | some mapped =>
      have hany : mapped.any refused = true := List.any_eq_true.2 ⟨c, hc.mem_mapAll? hu hmap hm, hr⟩
      rw [toAscii?, hmap]
      simp only [hany, Option.bind_eq_bind, Option.bind_some, if_true, Option.bind_none]

end IssuanceCheck.Idna
