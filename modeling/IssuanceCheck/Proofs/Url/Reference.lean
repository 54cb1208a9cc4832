import IssuanceCheck.Url.Parser

namespace IssuanceCheck.Url

open Text

variable {a lead scheme : List Char} {c first last : Char}

def unbroken (cs : List Char) : List Char :=
  cs.filter fun c => !(c == '\t' || c == '\n' || c == '\r')

theorem unbroken_append (a b : List Char) : unbroken (a ++ b) = unbroken a ++ unbroken b :=
  List.filter_append a b

theorem unbroken_eq_self (h : ∀ c ∈ a, 0x20 < c.toNat) : unbroken a = a := by
  refine List.filter_eq_self.2 fun c hc => ?_
  have hne : ∀ d : Char, d.toNat ≤ 0x20 → (c == d) = false := by
    intro d hd
    refine beq_eq_false_iff_ne.2 ?_
    rintro rfl
    exact absurd (h c hc) (Nat.not_lt.2 hd)
  rw [hne '\t' (by decide), hne '\n' (by decide), hne '\r' (by decide)]
  rfl

theorem mem_of_mem_unbroken (h : c ∈ unbroken a) : c ∈ a := (List.mem_filter.1 h).1

theorem clean_eq (hlead : ∀ c ∈ lead, c.toNat ≤ 0x20) (hfirst : a.head? = some first)
    (hf : 0x20 < first.toNat) (hlast : a.getLast? = some last) (hl : 0x20 < last.toNat)
    (b : List Char) :
    clean (lead ++ (a ++ b)) =
      unbroken a ++ unbroken (dropEndWhile (fun c => c.toNat ≤ 0x20) b) := by
  obtain ⟨rest, rfl⟩ := List.head?_eq_some_iff.1 hfirst
  have hdrop : (lead ++ (first :: rest ++ b)).dropWhile (fun c => decide (c.toNat ≤ 0x20)) =
      first :: rest ++ b := by
    rw [List.dropWhile_append_of_pos fun c hc => decide_eq_true (hlead c hc), List.cons_append,
      List.dropWhile_cons_of_neg]
    simpa using hf
  have hend : decide (last.toNat ≤ 0x20) = false := decide_eq_false (Nat.not_le.2 hl)
  rw [clean, trimWhile, hdrop, dropEndWhile_append hlast hend]
  exact unbroken_append ..

theorem not_isSchemeChar_ofNat : ∀ n < 0x21, isSchemeChar (Char.ofNat n) = false := by decide

theorem lt_of_isSchemeChar (h : isSchemeChar c = true) : 0x20 < c.toNat := by
  rcases Nat.lt_or_ge 0x20 c.toNat with hlt | hle
  · exact hlt
  · have hn := not_isSchemeChar_ofNat c.toNat (Nat.lt_succ_of_le hle)
    rw [Char.ofNat_toNat, h] at hn
    cases hn

theorem splitScheme?_append (hs : scheme.all isSchemeChar) (hc : scheme.head?.any Char.isAlpha)
    (rest : List Char) :
    splitScheme? (scheme ++ ':' :: rest) =
      some (String.ofList (toAsciiLower scheme), rest) := by
  cases scheme with
  | nil => simp at hc
  | cons c cs =>
      have ha : c.isAlpha = true := by simpa using hc
      have hall : ∀ x ∈ c :: cs, isSchemeChar x = true := List.all_eq_true.1 hs
      have hdrop : (c :: (cs ++ ':' :: rest)).dropWhile isSchemeChar = ':' :: rest := by
        rw [← List.cons_append, List.dropWhile_append_of_pos hall]
        rfl
      have htake : (c :: (cs ++ ':' :: rest)).takeWhile isSchemeChar = c :: cs := by
        rw [← List.cons_append, List.takeWhile_append_of_pos hall]
        simp [isSchemeChar]
      simp only [splitScheme?, List.cons_append, ha, if_true, hdrop, htake]

/-- What stands in front of an authority: two slashes, alone or behind a scheme. -/
def IsMark (mark : List Char) : Prop :=
  mark = ['/', '/'] ∨ ∃ scheme, mark = scheme ++ [':', '/', '/'] ∧ scheme.all isSchemeChar = true ∧
    scheme.head?.any Char.isAlpha = true

theorem IsMark.ne_nil (h : IsMark a) : a ≠ [] := by
  rcases h with rfl | ⟨scheme, rfl, _⟩ <;> simp

theorem IsMark.lt (h : IsMark a) : ∀ c ∈ a, 0x20 < c.toNat := by
  rcases h with rfl | ⟨scheme, rfl, hall, _⟩
  · simp
  · intro c hc
    rcases List.mem_append.1 hc with hc | hc
    · exact lt_of_isSchemeChar (List.all_eq_true.1 hall c hc)
    · have hmark : c = ':' ∨ c = '/' := by simpa using hc
      rcases hmark with rfl | rfl <;> decide

/-- A reference that has no authority of its own for the parser: where one would begin there are
less than two slashes, and there is no scheme in front of it or that of the base. -/
def IsRelative (base : Url) (cs : List Char) : Prop :=
  (splitScheme? (clean cs) = none ∧ ((clean cs).takeWhile (isSlash true)).length < 2) ∨
    ∃ rest, splitScheme? (clean cs) = some (base.scheme, rest) ∧
      (rest.takeWhile (isSlash true)).length < 2

theorem parseRelative_authority {b u : Url} {cs : List Char}
    (hs : (cs.takeWhile (isSlash true)).length < 2) (h : parseRelative b cs = .ok u) :
    u.authority = b.authority := by
  have hn : ¬2 ≤ (cs.takeWhile (isSlash true)).length := Nat.not_le.2 hs
  unfold parseRelative at h
  split at h
  · cases h
    rfl
  · cases h
    rfl
  · cases h
    rfl
  next c rest _ _ =>
    simp only [hn, if_false] at h
    split at h
    · cases h
      rfl
    · cases h
      rfl

theorem IsRelative.authority {b u : Url} {cs : List Char} (hw : Kind.ofScheme b.scheme = .web)
    (hr : IsRelative b cs) (h : parseChars (some b) cs = .ok u) : u.authority = b.authority := by
  rw [parseChars] at h
  rcases hr with ⟨hnone, hs⟩ | ⟨rest, hsome, hs⟩
  · simp only [hnone] at h
    split at h
    · cases h
      rfl
    · cases h
    · split at h
      next hfile =>
        rw [hfile] at hw
        cases hw
      next => exact parseRelative_authority hs h
  · simp only [hsome] at h
    unfold parseWithScheme at h
    simp only [hw, Option.filter, hs, decide_true, Bool.and_self, if_true] at h
    exact parseRelative_authority hs h

theorem two_le_slashes (rest : List Char) :
    2 ≤ (('/' :: '/' :: rest).takeWhile (isSlash true)).length := by
  rw [List.takeWhile_cons_of_pos rfl, List.takeWhile_cons_of_pos rfl, List.length_cons,
    List.length_cons]
  omega

theorem IsMark.not_isRelative {mark tail cs : List Char} {b : Url} (h : IsMark mark)
    (hclean : clean cs = mark ++ tail) : ¬IsRelative b cs := by
  have h2 (rest : List Char) := Nat.not_lt.2 (two_le_slashes rest)
  intro hr
  rw [IsRelative, hclean] at hr
  rcases h with rfl | ⟨scheme, rfl, hall, halpha⟩
  · rcases hr with ⟨_, hs⟩ | ⟨rest, hsome, _⟩
    · exact h2 tail hs
    · cases hsome
  · rw [List.append_assoc, List.cons_append, splitScheme?_append hall halpha] at hr
    rcases hr with ⟨hnone, _⟩ | ⟨rest, hsome, hs⟩
    · cases hnone
    · obtain ⟨_, rfl⟩ := Prod.mk.inj (Option.some.inj hsome)
      exact h2 _ hs

end IssuanceCheck.Url
