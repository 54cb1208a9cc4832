import IssuanceCheck.Diagnosis
import IssuanceCheck.Proofs.Text.Lowercase
import IssuanceCheck.Proofs.Text.Trim

namespace IssuanceCheck.Name

open Text

variable {c : Char} {cs a b : List Char}

theorem class_toLower {p : Char → Bool}
    (h : ∀ n < 0x80, p (Char.ofNat n).toLower = p (Char.ofNat n)) (c : Char) :
    p c.toLower = p c := by
  by_cases hc : c.toNat < 0x80
  · exact forall_asciiChar (P := fun c => p c.toLower = p c) h hc
  · rw [toLower_of_not_ascii (Nat.not_lt.1 hc)]

theorem isBlank_toLower (c : Char) : isBlank c.toLower = isBlank c :=
  class_toLower (by decide +kernel) c

theorem dot_toLower (c : Char) : decide (c.toLower = '.') = decide (c = '.') :=
  class_toLower (p := (· = '.')) (by decide +kernel) c

theorem isUpper_toLower (c : Char) : c.toLower.isUpper = false := by
  by_cases hc : c.toNat < 0x80
  · exact forall_asciiChar (P := fun c => c.toLower.isUpper = false) (by decide +kernel) hc
  · rw [toLower_of_not_ascii (Nat.not_lt.1 hc)]
    refine decide_eq_false fun hupper => hc ?_
    exact Nat.lt_of_le_of_lt (UInt32.le_iff_toNat_le.1 hupper.2) (by decide)

theorem toAsciiLower_eq_self (h : ∀ c ∈ cs, c.isUpper = false) : toAsciiLower cs = cs := by
  rw [toAsciiLower]
  conv_rhs => rw [← List.map_id cs]
  refine List.map_congr_left fun c hc => ?_
  delta Char.toLower
  exact dif_neg (of_decide_eq_false (h c hc))

/-- The normal form of a name: no white space around it, no dot at its end and no capital ASCII
letter. -/
structure IsNormal (cs : List Char) : Prop where
  front : ∀ c, cs.head? = some c → isBlank c = false
  back : ∀ c, cs.getLast? = some c → isBlank c = false
  root : cs.getLast? ≠ some '.'
  lower : ∀ c ∈ cs, c.isUpper = false

/-- A name with white space in front of the dots at its end, and a name before it. -/
def SpacesRoot (cs : List Char) : Prop :=
  ∃ front blank dots, trim cs = front ++ blank :: dots ∧ isBlank blank = true ∧ ∀ c ∈ dots, c = '.'

theorem front_normalizeChars (h : (normalizeChars cs).head? = some c) : isBlank c = false := by
  rw [normalizeChars, toAsciiLower, List.head?_map] at h
  obtain ⟨d, hd, rfl⟩ := Option.map_eq_some_iff.1 h
  rw [isBlank_toLower]
  exact not_of_head_trimWhile (head_dropEndWhile hd)

theorem root_normalizeChars (cs : List Char) : (normalizeChars cs).getLast? ≠ some '.' := by
  intro h
  rw [normalizeChars, toAsciiLower, List.getLast?_map] at h
  obtain ⟨d, hd, hdot⟩ := Option.map_eq_some_iff.1 h
  have hne := not_of_last_dropEndWhile hd
  rw [← dot_toLower, hdot] at hne
  cases hne

theorem lower_normalizeChars (h : c ∈ normalizeChars cs) : c.isUpper = false := by
  obtain ⟨d, -, rfl⟩ := List.mem_map.1 h
  exact isUpper_toLower d

theorem blank_last_normalizeChars_iff :
    (∃ c, (normalizeChars cs).getLast? = some c ∧ isBlank c = true) ↔ SpacesRoot cs := by
  constructor
  · rintro ⟨c, hlast, hblank⟩
    rw [normalizeChars, toAsciiLower, List.getLast?_map] at hlast
    obtain ⟨d, hd, rfl⟩ := Option.map_eq_some_iff.1 hlast
    obtain ⟨dots, htrim, hdots⟩ := dropEndWhile_suffix (· = '.') (trim cs)
    obtain ⟨front, hfront⟩ := List.getLast?_eq_some_iff.1 hd
    refine ⟨front, d, dots, ?_, ?_, fun c hc => of_decide_eq_true (hdots c hc)⟩
    · rw [htrim, hfront, List.append_assoc, List.singleton_append]
    · rwa [isBlank_toLower] at hblank
  · rintro ⟨front, blank, dots, htrim, hblank, hdots⟩
    have hlast : (front ++ [blank]).getLast? = some blank := List.getLast?_concat
    have hne : decide (blank = '.') = false := decide_eq_false (ne_of_class hblank rfl)
    have hdrop : dropEndWhile (· = '.') (trim cs) = front ++ [blank] := by
      rw [htrim, List.append_cons, dropEndWhile_append hlast hne,
        dropEndWhile_eq_nil fun c hc => decide_eq_true (hdots c hc), List.append_nil]
    refine ⟨blank.toLower, ?_, ?_⟩
    · rw [normalizeChars, toAsciiLower, List.getLast?_map, hdrop, hlast]
      rfl
    · rwa [isBlank_toLower]

theorem isNormal_normalizeChars_iff : IsNormal (normalizeChars cs) ↔ ¬SpacesRoot cs := by
  rw [← blank_last_normalizeChars_iff]
  constructor
  · rintro h ⟨c, hlast, hblank⟩
    rw [h.back c hlast] at hblank
    cases hblank
  · intro h
    refine ⟨fun c => front_normalizeChars, fun c hc => ?_, root_normalizeChars cs,
      fun c => lower_normalizeChars⟩
    exact Bool.eq_false_iff.2 fun hblank => h ⟨c, hc, hblank⟩

theorem normalizeChars_eq_self_iff : normalizeChars cs = cs ↔ IsNormal cs := by
  constructor
  · intro h
    have hlength : cs.length ≤ (trim cs).length := by
      conv_lhs => rw [← h, normalizeChars, toAsciiLower, List.length_map]
      exact dropEndWhile_length_le _ _
    have htrim : trim cs = cs := trimWhile_eq_self_of_length hlength
    refine ⟨fun c hc => ?_, fun c hc => ?_, ?_, fun c hc => ?_⟩
    · rw [← h] at hc
      exact front_normalizeChars hc
    · rw [← htrim] at hc
      exact not_of_last_dropEndWhile hc
    · rw [← h]
      exact root_normalizeChars cs
    · rw [← h] at hc
      exact lower_normalizeChars hc
  · intro h
    have hroot : ∀ c, cs.getLast? = some c → decide (c = '.') = false := by
      rintro c hc
      refine decide_eq_false ?_
      rintro rfl
      exact h.root hc
    rw [normalizeChars, trim, trimWhile_eq_self h.front h.back, dropEndWhile_eq_self hroot,
      toAsciiLower_eq_self h.lower]

/-- Two spellings of a name that differ in the white space around it, the dots at its end and the
case of ASCII letters, and in nothing else. -/
def Respells (a b : List Char) : Prop :=
  ∃ lead core tail lead' core' tail', a = lead ++ core ++ tail ∧ b = lead' ++ core' ++ tail' ∧
    (∀ c ∈ lead ++ lead', isBlank c = true) ∧ (∀ c ∈ tail ++ tail', isBlank c = true ∨ c = '.') ∧
    toAsciiLower core = toAsciiLower core'

def stem (cs : List Char) : List Char :=
  dropEndWhile (fun c => isBlank c || c == '.') ((toAsciiLower cs).dropWhile isBlank)

theorem stem_append {lead core tail : List Char} (hlead : ∀ c ∈ lead, isBlank c = true)
    (htail : ∀ c ∈ tail, isBlank c = true ∨ c = '.') : stem (lead ++ core ++ tail) = stem core := by
  rw [stem, stem, toAsciiLower, List.map_append, List.map_append]
  apply dropEndWhile_dropWhile_append
  · intro c hc
    obtain ⟨d, hd, rfl⟩ := List.mem_map.1 hc
    rw [isBlank_toLower, hlead d hd]
  · intro c hc
    obtain ⟨d, hd, rfl⟩ := List.mem_map.1 hc
    rcases htail d hd with hd | rfl
    · rw [isBlank_toLower, hd, Bool.true_or]
    · rfl

theorem Respells.stem_eq (h : Respells a b) : stem a = stem b := by
  obtain ⟨lead, core, tail, lead', core', tail', rfl, rfl, hlead, htail, hcore⟩ := h
  rw [List.forall_mem_append] at hlead htail
  rw [stem_append hlead.1 htail.1, stem_append hlead.2 htail.2, stem, stem, hcore]

theorem IsNormal.stem_eq (h : IsNormal cs) : stem cs = cs := by
  rw [stem, toAsciiLower_eq_self h.lower, dropWhile_eq_self h.front]
  apply dropEndWhile_eq_self
  intro c hc
  rw [h.back c hc, Bool.false_or, beq_eq_false_iff_ne]
  rintro rfl
  exact h.root hc

theorem exists_core (cs : List Char) :
    ∃ lead core tail, cs = lead ++ core ++ tail ∧ (∀ c ∈ lead, isBlank c = true) ∧
      (∀ c ∈ tail, isBlank c = true ∨ c = '.') ∧ toAsciiLower core = normalizeChars cs := by
  obtain ⟨trail, hcs, hblank⟩ := eq_trim_append cs
  obtain ⟨dots, htrim, hdots⟩ := dropEndWhile_suffix (· = '.') (trim cs)
  refine ⟨cs.takeWhile isBlank, dropEndWhile (· = '.') (trim cs), dots ++ trail, ?_, ?_, ?_, rfl⟩
  · rw [List.append_assoc, ← List.append_assoc (dropEndWhile _ _), ← htrim, ← hcs]
  · exact fun c hc => List.all_eq_true.1 List.all_takeWhile c hc
  · intro c hc
    rcases List.mem_append.1 hc with hc | hc
    · exact .inr (of_decide_eq_true (hdots c hc))
    · exact .inl (hblank c hc)

theorem respells_of_normalizeChars_eq (h : normalizeChars a = normalizeChars b) : Respells a b := by
  obtain ⟨lead, core, tail, ha, hlead, htail, hcore⟩ := exists_core a
  obtain ⟨lead', core', tail', hb, hlead', htail', hcore'⟩ := exists_core b
  exact ⟨lead, core, tail, lead', core', tail', ha, hb, List.forall_mem_append.2 ⟨hlead, hlead'⟩,
    List.forall_mem_append.2 ⟨htail, htail'⟩, by rw [hcore, hcore', h]⟩

theorem respells_normalizeChars (h : ¬SpacesRoot cs) : Respells cs (normalizeChars cs) :=
  respells_of_normalizeChars_eq
    (normalizeChars_eq_self_iff.2 (isNormal_normalizeChars_iff.2 h)).symm

theorem normalizeChars_eq_stem (h : ¬SpacesRoot cs) : normalizeChars cs = stem cs := by
  rw [(respells_normalizeChars h).stem_eq, (isNormal_normalizeChars_iff.2 h).stem_eq]

/-- A normalized name has no white space in front, no dot at its end and no capital ASCII letter,
whatever the input is. It has the normal form, and is left alone by a second pass, unless white
space stands in front of the dots at the end of the input: the dots keep that from being trimmed,
and then go. With such inputs aside, two of them are checked as the same name exactly when they
differ in the white space around them, their last dots and the case of ASCII letters alone. -/
theorem normalize_normal (name : String) :
    let normalized := (normalize name).toList
    (∀ c, normalized.head? = some c → isBlank c = false) ∧
      normalized.getLast? ≠ some '.' ∧
      (∀ c ∈ normalized, c.isUpper = false) ∧
      ((∀ c, normalized.getLast? = some c → isBlank c = false) ↔ ¬SpacesRoot name.toList) ∧
      (normalize (normalize name) = normalize name ↔ ¬SpacesRoot name.toList) ∧
      ∀ other : String, ¬SpacesRoot name.toList → ¬SpacesRoot other.toList →
        (normalize name = normalize other ↔ Respells name.toList other.toList) ∧
        (Respells name.toList other.toList → ∀ suffix lookup sweep method issuer,
          diagnoseThrough suffix lookup sweep ⟨name, method, issuer⟩ =
            diagnoseThrough suffix lookup sweep ⟨other, method, issuer⟩) := by
  intro normalized
  have hnormalized : normalized = normalizeChars name.toList := by
    simp only [normalized, normalize, String.toList_ofList]
  have heq (a b : String) :
      normalize a = normalize b ↔ normalizeChars a.toList = normalizeChars b.toList := by
    rw [normalize, normalize, String.ofList_inj]
  rw [hnormalized]
  refine ⟨fun c => front_normalizeChars, root_normalizeChars _, fun c => lower_normalizeChars,
    ?_, ?_, fun other hname hother => ?_⟩
  · rw [← blank_last_normalizeChars_iff]
    simp only [not_exists, not_and, Bool.not_eq_true]
  · rw [heq, ← isNormal_normalizeChars_iff, ← normalizeChars_eq_self_iff]
    simp only [normalize, String.toList_ofList]
  · have hsame : normalize name = normalize other ↔ Respells name.toList other.toList := by
      rw [heq]
      refine ⟨respells_of_normalizeChars_eq, fun h => ?_⟩
      rw [normalizeChars_eq_stem hname, normalizeChars_eq_stem hother, h.stem_eq]
    refine ⟨hsame, fun h suffix lookup sweep method issuer => ?_⟩
    simp only [diagnoseThrough, Request.reached, Request.unsuitable, hsame.2 h]

/-- White space beyond ASCII, two dots at the end and capital letters, against one dot. -/
theorem normalize_normal_respelled :
    let name := "\u2003A.Test..\u00a0"
    let other := "a.tEST."
    ¬SpacesRoot name.toList ∧ ¬SpacesRoot other.toList ∧ Respells name.toList other.toList ∧
      normalize name = normalize other ∧ normalize (normalize name) = normalize name := by
  intro name other
  have hidem : normalize (normalize name) = normalize name := by decide +kernel
  have hidem' : normalize (normalize other) = normalize other := by decide +kernel
  obtain ⟨-, -, -, -, hspaced', -⟩ := normalize_normal other
  obtain ⟨-, -, -, -, hspaced, hsame⟩ := normalize_normal name
  have hname : ¬SpacesRoot name.toList := hspaced.1 hidem
  have hother : ¬SpacesRoot other.toList := hspaced'.1 hidem'
  have hrespells : Respells name.toList other.toList :=
    ⟨['\u2003'], "A.Test".toList, "..\u00a0".toList, [], "a.tEST".toList, ['.'], by decide +kernel,
      by decide +kernel, by simp [isBlank], by simp [isBlank], by decide +kernel⟩
  exact ⟨hname, hother, hrespells, (hsame other hname hother).1.2 hrespells, hidem⟩

/-- A space in front of the last dot is left at the end. The normalized name is not in normal form,
and it is not the name that the same input without the space has. -/
theorem normalize_shielded_space :
    normalize "A.test ." = "a.test " ∧ normalize "a.test " = "a.test" ∧
      Respells "A.test .".toList "a.test.".toList ∧ normalize "a.test." = "a.test" := by
  refine ⟨by decide +kernel, by decide +kernel, ?_, by decide +kernel⟩
  exact ⟨[], "A.test".toList, " .".toList, [], "a.test".toList, ['.'], by decide +kernel,
    by decide +kernel, by simp, by simp [isBlank], by decide +kernel⟩

end IssuanceCheck.Name
