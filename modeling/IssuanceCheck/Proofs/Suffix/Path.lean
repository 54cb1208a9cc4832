import IssuanceCheck.Proofs.Suffix.Rules

namespace IssuanceCheck.Name

open Suffix (Rules)

variable {suffix : String → Option String} {name s t : String}

/-- A way up from a name: each step drops the first label and its dot, no name on the way is a
boundary, and at the end there is one or no label left to drop. -/
structure IsWayUp (suffix : String → Option String) (name : String) (path : List String) :
    Prop where
  head : path.head? = some name
  steps : path.IsChain fun n p =>
    p ≠ "" ∧ p.length < n.length ∧ ∃ label : String, '.' ∉ label.toList ∧ n = label ++ "." ++ p
  nodup : path.Nodup
  length_le : path.length ≤ name.toList.count '.' + 1
  inner : ∀ n ∈ path.dropLast, isBoundary suffix n = false
  last : ∃ n, path.getLast? = some n ∧ (isBoundary suffix n = true ∨ parent? n = none)

theorem searchPath_isWayUp (suffix : String → Option String) (name : String) :
    IsWayUp suffix name (searchPath suffix name) := by
  obtain ⟨hchain, hinner, last, hlast, hstop⟩ :=
    climb_steps (fun cs => isBoundary suffix (String.ofList cs)) name.toList
  refine ⟨?_, ?_, searchPath_nodup suffix name, ?_, ?_, String.ofList last, ?_, ?_⟩
  · rw [searchPath, List.head?_map, head?_climb, Option.map_some, String.ofList_toList]
  · refine (List.isChain_map _).2 (hchain.imp fun n p hp => ?_)
    obtain ⟨hne, label, hdot, hn⟩ := parentChars?_eq_some_iff.1 hp
    refine ⟨mt String.ofList_eq_empty_iff.1 hne, ?_, String.ofList label, ?_, ?_⟩
    · simpa using parentChars?_length hp
    · rwa [String.toList_ofList]
    · rw [hn]
      simp [← String.toList_inj]
  · rw [searchPath, List.length_map]
    exact length_climb_le _ _
  · intro n hn
    rw [searchPath, ← List.map_dropLast] at hn
    obtain ⟨cs, hcs, rfl⟩ := List.mem_map.1 hn
    exact hinner cs hcs
  · rw [searchPath, List.getLast?_map, hlast]
    rfl
  · refine hstop.imp_right fun h => ?_
    rw [parent?, String.toList_ofList, h]
    rfl

theorem isBoundary_ofList_eq_true_iff {cs : List Char} :
    isBoundary suffix (String.ofList cs) = true ↔
      suffix (String.ofList cs) = none ∨ suffix (String.ofList cs) = some (String.ofList cs) := by
  unfold isBoundary
  split
  next found h => simp [h]
  next h => simp [h]

theorem searchPath_of_suffix_self (h : suffix s = some s) : searchPath suffix s = [s] := by
  have hboundary : isBoundary suffix (String.ofList s.toList) = true :=
    isBoundary_ofList_eq_true_iff.2 (.inr (by rwa [String.ofList_toList]))
  have hclimb : climb (fun cs => isBoundary suffix (String.ofList cs)) s.toList = [s.toList] :=
    climb_of_boundary hboundary
  rw [searchPath, hclimb, List.map_singleton, String.ofList_toList]

theorem searchPath_above (hne : s ≠ "") (haligned : IsAligned s.toList name.toList)
    (hbelow : ∀ t : String, IsAligned t.toList name.toList → s.toList <:+ t.toList → t ≠ s →
      suffix t = some s) :
    ∃ above, searchPath suffix name = above ++ searchPath suffix s ∧
      ∀ t : String, t ∈ above ↔ IsAligned t.toList name.toList ∧ s.length < t.length := by
  obtain ⟨above, hpath, hmem⟩ :=
    @climb_above (fun cs => isBoundary suffix (String.ofList cs)) name.toList s.toList
      (mt String.toList_eq_nil_iff.1 hne) haligned fun t ht hst hts => by
        have hts' : String.ofList t ≠ s := fun h => hts (by rw [← h, String.toList_ofList])
        have hsuffix := hbelow (String.ofList t) (by rwa [String.toList_ofList])
          (by rwa [String.toList_ofList]) hts'
        rw [Bool.eq_false_iff]
        intro hb
        rcases isBoundary_ofList_eq_true_iff.1 hb with h | h
        · cases hsuffix.symm.trans h
        · exact hts' (Option.some.inj (h.symm.trans hsuffix))
  refine ⟨above.map String.ofList, by rw [searchPath, hpath, List.map_append]; rfl, fun t => ?_⟩
  rw [List.mem_map]
  constructor
  · rintro ⟨cs, hcs, rfl⟩
    simpa [← String.length_toList] using (hmem cs).1 hcs
  · intro h
    rw [← String.length_toList, ← String.length_toList] at h
    exact ⟨t.toList, (hmem t.toList).2 h, String.ofList_toList⟩

theorem searchPath_sorted (suffix : String → Option String) (name : String) :
    (searchPath suffix name).Pairwise fun n p => p.length < n.length := by
  refine List.pairwise_map.2 ((climb_sorted _ name.toList).imp fun h => ?_)
  simpa using h

theorem searchPath_of_stable (hne : s ≠ "") (haligned : IsAligned s.toList name.toList)
    (hstable : ∀ t : String, IsAligned t.toList name.toList → s.toList <:+ t.toList →
      suffix t = some s) :
    (∀ t : String, t ∈ searchPath suffix name ↔
        IsAligned t.toList name.toList ∧ s.length ≤ t.length) ∧
      (searchPath suffix name).getLast? = some s := by
  obtain ⟨above, hpath, hmem⟩ :=
    searchPath_above hne haligned fun t ht hst _ => hstable t ht hst
  rw [hpath, searchPath_of_suffix_self (hstable s haligned (List.suffix_refl _))]
  refine ⟨fun t => ?_, List.getLast?_concat⟩
  rw [List.mem_append, hmem, List.mem_singleton]
  constructor
  · rintro (⟨ht, hlt⟩ | rfl)
    · exact ⟨ht, hlt.le⟩
    · exact ⟨haligned, Nat.le_refl _⟩
  · rintro ⟨ht, hle⟩
    rcases hle.lt_or_eq with hlt | heq
    · exact .inl ⟨ht, hlt⟩
    · refine .inr (String.toList_inj.1 ?_)
      rw [← String.length_toList, ← String.length_toList] at heq
      have hst := List.suffix_of_suffix_length_le haligned.suffix ht.suffix heq.le
      exact (hst.eq_of_length heq).symm

theorem publicSuffix_self_of_searchPath {rules : Rules} (hne : s ≠ "")
    (hroot : s.toList.getLast? ≠ some '.') (h : searchPath rules.publicSuffix s = [s]) :
    rules.publicSuffix s = some s := by
  obtain ⟨found, hfound, hfoundne, haligned, -⟩ := rules.publicSuffix_stable hne hroot
  obtain ⟨n, hn, hstop⟩ := (searchPath_isWayUp rules.publicSuffix s).last
  rw [h, List.getLast?_singleton, Option.some.injEq] at hn
  subst hn
  rcases hstop with hboundary | hparent
  · rw [← String.ofList_toList (s := s), isBoundary_ofList_eq_true_iff, String.ofList_toList]
      at hboundary
    rcases hboundary with hnone | hself
    · cases hfound.symm.trans hnone
    · exact hself
  · have hchars : parentChars? s.toList = none := Option.map_eq_none_iff.1 hparent
    rw [isAligned_of_parent_none hchars (mt String.toList_eq_nil_iff.1 hfoundne)] at haligned
    rw [hfound, String.toList_inj.1 haligned]

/-- For suffix rules the way up has all aligned names that are longer than the suffix and is then
that of the suffix. It ends there if the suffix is its own one, as it is without exceptions. -/
theorem searchPath_of_rules (rules : Rules) (hne : name ≠ "")
    (hroot : name.toList.getLast? ≠ some '.') :
    ∃ s above, rules.publicSuffix name = some s ∧ s ≠ "" ∧ IsAligned s.toList name.toList ∧
      searchPath rules.publicSuffix name = above ++ searchPath rules.publicSuffix s ∧
      (∀ t : String, t ∈ above ↔ IsAligned t.toList name.toList ∧ s.length < t.length) ∧
      (searchPath rules.publicSuffix name = above ++ [s] ↔ rules.publicSuffix s = some s) ∧
      (¬rules.HasException → rules.publicSuffix s = some s) := by
  obtain ⟨s, hs, hsne, haligned, hstable⟩ := rules.publicSuffix_stable hne hroot
  obtain ⟨above, hpath, hmem⟩ :=
    searchPath_above hsne haligned fun t ht hst hts => hstable t ht hst (.inl hts)
  have hsroot : s.toList.getLast? ≠ some '.' := by
    rwa [Rules.getLast?_of_suffix haligned.suffix (mt String.toList_eq_nil_iff.1 hsne)]
  refine ⟨s, above, hs, hsne, haligned, hpath, hmem, ?_, fun hrules =>
    hstable s haligned (List.suffix_refl _) (.inr hrules)⟩
  rw [hpath, List.append_cancel_left_eq]
  exact ⟨publicSuffix_self_of_searchPath hsne hsroot, searchPath_of_suffix_self⟩

/-- The names asked for the policy of a name are the way up from it. Where all aligned names that
end in its suffix have the same one, they are all of these, down to the suffix. Suffix rules are
such a case, but for the last step: behind a rule with an exception the suffix can have a shorter
suffix, and the way goes on to that one. -/
theorem searchPath_climbs (suffix : String → Option String) (name : String) :
    IsWayUp suffix name (searchPath suffix name) ∧
    (∀ s : String, suffix name = some s → s ≠ "" → IsAligned s.toList name.toList →
      (∀ t : String, IsAligned t.toList name.toList → s.toList <:+ t.toList → suffix t = some s) →
      (∀ t : String, t ∈ searchPath suffix name ↔
        IsAligned t.toList name.toList ∧ s.length ≤ t.length) ∧
      (searchPath suffix name).Pairwise (fun n p => p.length < n.length) ∧
      (searchPath suffix name).getLast? = some s) ∧
    ∀ rules : Rules, name ≠ "" → name.toList.getLast? ≠ some '.' →
      ∃ s above, rules.publicSuffix name = some s ∧ s ≠ "" ∧ IsAligned s.toList name.toList ∧
        searchPath rules.publicSuffix name = above ++ searchPath rules.publicSuffix s ∧
        (∀ t : String, t ∈ above ↔ IsAligned t.toList name.toList ∧ s.length < t.length) ∧
        (searchPath rules.publicSuffix name = above ++ [s] ↔ rules.publicSuffix s = some s) ∧
        (¬rules.HasException → rules.publicSuffix s = some s) := by
  refine ⟨searchPath_isWayUp suffix name, fun s _ hne haligned hstable => ?_,
    fun rules hne hroot => searchPath_of_rules rules hne hroot⟩
  obtain ⟨hmem, hlast⟩ := searchPath_of_stable hne haligned hstable
  exact ⟨hmem, searchPath_sorted suffix name, hlast⟩

theorem searchPath_climbs_empty_labels :
    let suffix := (Rules.ofList ["uk", "*.uk"]).publicSuffix
    suffix ".a..co.uk" = some "co.uk" ∧
      (∀ t : String, t ∈ searchPath suffix ".a..co.uk" ↔
        IsAligned t.toList ".a..co.uk".toList ∧ 5 ≤ t.length) ∧
      (searchPath suffix ".a..co.uk").getLast? = some "co.uk" := by
  let rules := Rules.ofList ["uk", "*.uk"]
  have hrules : rules = (((∅ : Rules).insert "uk" .rule).insertIfNew "uk" .inner).insert
    "uk.*" .rule := rfl
  have hexception : ¬rules.HasException := by
    rintro ⟨key, h⟩
    simp only [hrules, Std.HashMap.getElem?_insert, Std.HashMap.getElem?_insertIfNew] at h
    repeat' split at h
    all_goals simp at h
  have hs : rules.publicSuffix ".a..co.uk" = some "co.uk" := by
    have huk : rules.contains "uk" := by simp [hrules]
    have hwild : rules["uk.*"]? = some .rule := by rw [hrules, Std.HashMap.getElem?_insert_self]
    have hnone (key : String) (h : key ≠ "uk" ∧ key ≠ "uk.*") : rules[key]? = none :=
      Std.HashMap.getElem?_eq_none (by simp [hrules, h.1.symm, h.2.symm])
    simp [Rules.publicSuffix, List.splitOn_cons_eq_if_modifyHead, Rules.descend, Rules.place,
      Text.joinWith, huk, hwild, hnone]
  obtain ⟨s, hs', hne, haligned, hstable⟩ :=
    rules.publicSuffix_stable (show ".a..co.uk" ≠ "" by decide) (by decide)
  obtain rfl : "co.uk" = s := Option.some.inj (hs.symm.trans hs')
  obtain ⟨hmem, -, hlast⟩ := (searchPath_climbs _ ".a..co.uk").2.1 "co.uk" hs hne haligned
    fun t ht hst => hstable t ht hst (.inr hexception)
  exact ⟨hs, hmem, hlast⟩

/-- Below an exception the suffix is what is left of the rule, but its own suffix is shorter. -/
theorem searchPath_passes_exception :
    let suffix := (Rules.ofList ["jp", "*.kawasaki.jp", "!city.kawasaki.jp"]).publicSuffix
    suffix "city.kawasaki.jp" = some "kawasaki.jp" ∧ suffix "kawasaki.jp" = some "jp" ∧
      searchPath suffix "city.kawasaki.jp" = ["city.kawasaki.jp", "kawasaki.jp", "jp"] := by
  let rules := Rules.ofList ["jp", "*.kawasaki.jp", "!city.kawasaki.jp"]
  have hrules : rules =
      (((((((∅ : Rules).insert "jp" .rule).insertIfNew "jp" .inner).insertIfNew "jp.kawasaki"
        .inner).insert "jp.kawasaki.*" .rule).insertIfNew "jp" .inner).insertIfNew "jp.kawasaki"
        .inner).insert "jp.kawasaki.city" .exception := rfl
  have hjp : rules.contains "jp" := by simp [hrules]
  have hkawasaki : rules["jp.kawasaki"]? = some .inner := by
    simp only [hrules, Std.HashMap.getElem?_insert, Std.HashMap.getElem?_insertIfNew]
    simp
  have hcity : rules["jp.kawasaki.city"]? = some .exception := by
    rw [hrules, Std.HashMap.getElem?_insert_self]
  have hs : rules.publicSuffix "city.kawasaki.jp" = some "kawasaki.jp" := by
    simp [Rules.publicSuffix, List.splitOn_cons_eq_if_modifyHead, Rules.descend,
      Rules.place, Text.joinWith, hjp, hkawasaki, hcity]
  have hs' : rules.publicSuffix "kawasaki.jp" = some "jp" := by
    simp [Rules.publicSuffix, List.splitOn_cons_eq_if_modifyHead, Rules.descend,
      Rules.place, Text.joinWith, hjp, hkawasaki]
  have hs'' : rules.publicSuffix "jp" = some "jp" := by
    simp [Rules.publicSuffix, List.splitOn_cons_eq_if_modifyHead, Rules.descend, Text.joinWith, hjp]
  refine ⟨hs, hs', ?_⟩
  have hhere : ¬isBoundary rules.publicSuffix (String.ofList "city.kawasaki.jp".toList) := by
    rw [String.ofList_toList, isBoundary, hs]
    decide
  have habove : ¬isBoundary rules.publicSuffix (String.ofList "kawasaki.jp".toList) := by
    rw [String.ofList_toList, isBoundary, hs']
    decide
  have htop : searchPath rules.publicSuffix "jp" = ["jp"] := searchPath_of_suffix_self hs''
  rw [searchPath] at htop ⊢
  rw [climb_of_parent hhere (p := "kawasaki.jp".toList) (by decide),
    climb_of_parent habove (p := "jp".toList) (by decide), List.map_cons, List.map_cons, htop,
    String.ofList_toList, String.ofList_toList]

end IssuanceCheck.Name
