import IssuanceCheck.Proofs.Url.Authority
import IssuanceCheck.Proofs.Url.Host
import IssuanceCheck.Proofs.Url.Reference

namespace IssuanceCheck.Url

open Text Decimal

variable {special : Bool} {scheme : String} {cs a b lead host digits blanks tail : List Char}
  {port : Nat} {u : Url} {c : Char}

theorem isDriveLetter_eq_false (hb : b ≠ []) : isDriveLetter (a ++ ':' :: b) = false := by
  obtain ⟨c, b, rfl⟩ := List.exists_cons_of_ne_nil hb
  match a with
  | [] => cases b <;> simp [isDriveLetter]
  | [d] => simp [isDriveLetter]
  | d :: e :: a => simp [isDriveLetter]

theorem parseRelative_slashes (base : Url) (rest : List Char) :
    parseRelative base ('/' :: '/' :: rest) = afterDoubleSlash base.scheme rest := by
  have h2 := two_le_slashes rest
  unfold parseRelative
  simp only [h2, if_true]
  rfl

theorem filter_slashes (base : Option Url) (scheme : String) (rest : List Char) :
    (base.filter fun b => decide ((('/' :: '/' :: rest).takeWhile (isSlash true)).length < 2) &&
      decide (b.scheme = scheme)) = none := by
  have h2 := Nat.not_lt.2 (two_le_slashes rest)
  cases base with
  | none => rfl
  | some b => simp [h2, Option.filter]

theorem dropWhile_slashes (ha : ∀ c ∈ a, isAuthorityEnd true c = false) (hne : a ≠ [])
    (b : List Char) : ('/' :: '/' :: (a ++ b)).dropWhile (isSlash true) = a ++ b := by
  obtain ⟨c, rest, rfl⟩ := List.exists_cons_of_ne_nil hne
  have hslash : isSlash true c = false := (Bool.or_eq_false_iff.1 (ha c List.mem_cons_self)).1
  rw [List.dropWhile_cons_of_pos rfl, List.dropWhile_cons_of_pos rfl, List.cons_append,
    List.dropWhile_cons_of_neg (by simp [hslash])]

theorem lt_of_isAuthorityEnd (h : isAuthorityEnd false c = true) : 0x20 < c.toNat := by
  simp only [isAuthorityEnd, isSlash, isQueryOrFragment, Bool.false_and, Bool.or_false,
    Bool.or_eq_true, beq_iff_eq] at h
  rcases h with rfl | rfl | rfl <;> decide

theorem clean_behind {trail : List Char} (ht : IsBehind false tail)
    (htrail : ∀ c ∈ trail, isBlank c = true) :
    ∃ blanks tail', (∀ c ∈ blanks, isBlank c = true) ∧ IsBehind false tail' ∧
      unbroken (dropEndWhile (fun c => c.toNat ≤ 0x20) (tail ++ trail)) = blanks ++ tail' := by
  cases tail with
  | nil =>
      refine ⟨_, [], fun c hc => ?_, by simp [IsBehind], (List.append_nil _).symm⟩
      exact htrail c (mem_of_mem_dropEndWhile (mem_of_mem_unbroken hc))
  | cons c rest =>
      -- Nothing that ends an authority is trimmed, so it stays in front of what is behind it.
      have hend := ht c rfl
      have hlt := lt_of_isAuthorityEnd hend
      have hlast : [c].getLast? = some c := rfl
      have hdrop := dropEndWhile_append (p := fun c => decide (c.toNat ≤ 0x20)) hlast
        (decide_eq_false (Nat.not_le.2 hlt)) (rest ++ trail)
      have hc : unbroken [c] = [c] := unbroken_eq_self fun d hd => by
        rwa [List.mem_singleton.1 hd]
      refine ⟨[], c :: unbroken (dropEndWhile (fun c => c.toNat ≤ 0x20) (rest ++ trail)), by simp,
        ?_, ?_⟩
      · intro d hd
        obtain rfl : c = d := Option.some.inj hd
        exact hend
      · rw [List.cons_append, ← List.singleton_append, hdrop, unbroken_append, hc]
        rfl

/-- A port written in an authority: what stands up to the last `@`, the host, and the text behind
the last colon. -/
structure WritesPort (lead host digits : List Char) (port : Nat) : Prop where
  userinfo : lead = [] ∨ ∃ userinfo, lead = userinfo ++ ['@']
  behind : '@' ∉ host ++ ':' :: digits
  plain : ∀ c ∈ lead ++ (host ++ ':' :: digits), isAuthorityEnd true c = false
  read : readUpTo? 65535 digits = some port

namespace WritesPort

variable (h : WritesPort lead host digits port)

include h

theorem unbroken : WritesPort (unbroken lead) (unbroken host) digits port where
  userinfo := by
    rcases h.userinfo with rfl | ⟨userinfo, rfl⟩
    · exact .inl rfl
    · exact .inr ⟨Url.unbroken userinfo, unbroken_append userinfo ['@']⟩
  behind := by
    intro hm
    apply h.behind
    rw [List.mem_append] at hm ⊢
    exact hm.imp_left mem_of_mem_unbroken
  plain := by
    intro c hc
    apply h.plain c
    simp only [List.mem_append] at hc ⊢
    exact hc.imp mem_of_mem_unbroken (Or.imp_left mem_of_mem_unbroken)
  read := h.read

theorem digits_ne_nil : digits ≠ [] := by
  obtain ⟨ds, hds, hne, _⟩ := readUpTo?_eq_some h.read
  rcases hds with rfl | rfl
  · exact hne
  · simp

theorem clean_eq {front mark trail : List Char} (hfront : ∀ c ∈ front, c.toNat ≤ 0x20)
    (hmark : IsMark mark) (ht : IsBehind false tail) (htrail : ∀ c ∈ trail, isBlank c = true) :
    ∃ blanks tail', (∀ c ∈ blanks, isBlank c = true) ∧ IsBehind false tail' ∧
      clean (front ++ (mark ++ (lead ++ (host ++ ':' :: digits) ++ tail) ++ trail)) =
        mark ++ (Url.unbroken lead ++ (Url.unbroken host ++ ':' :: (digits ++ blanks)) ++
          tail') := by
  obtain ⟨first, rest, hfirst⟩ := List.exists_cons_of_ne_nil hmark.ne_nil
  have hdigit : ∀ c ∈ digits, 0x20 < c.toNat := by
    intro c hc
    rcases plus_or_isDigit_of_readUpTo? h.read c hc with rfl | hd
    · decide
    · exact Nat.lt_of_lt_of_le (by decide) (Char.isDigit_iff_toNat.1 hd).1
  let last := digits.getLast h.digits_ne_nil
  let text := mark ++ lead ++ host ++ [':'] ++ digits
  have hhead : text.head? = some first := by simp [text, hfirst]
  have hlast : text.getLast? = some last := by
    rw [List.getLast?_append_of_ne_nil _ h.digits_ne_nil, List.getLast?_eq_some_getLast]
  obtain ⟨blanks, tail', hb, ht', hbehind⟩ := clean_behind ht htrail
  refine ⟨blanks, tail', hb, ht', ?_⟩
  have hassoc : front ++ (mark ++ (lead ++ (host ++ ':' :: digits) ++ tail) ++ trail) =
      front ++ (text ++ (tail ++ trail)) := by simp [text]
  rw [hassoc, Url.clean_eq hfront hhead (hmark.lt first (hfirst ▸ List.mem_cons_self)) hlast
    (hdigit last (List.getLast_mem _)), hbehind]
  have hcolon : Url.unbroken [':'] = [':'] := rfl
  simp only [text, unbroken_append, unbroken_eq_self hmark.lt, unbroken_eq_self hdigit, hcolon]
  simp

variable (hb : ∀ c ∈ blanks, isBlank c = true)

include hb

theorem not_mem {d : Char} (hplus : d ≠ '+') (hdigit : d.isDigit = false)
    (hblank : isBlank d = false) : d ∉ digits ++ blanks := by
  intro hd
  rcases List.mem_append.1 hd with hd | hd
  · rcases plus_or_isDigit_of_readUpTo? h.read d hd with rfl | hd
    · exact hplus rfl
    · rw [hdigit] at hd
      cases hd
  · exact ne_of_class (hb d hd) hblank rfl

theorem plain_append :
    ∀ c ∈ lead ++ (host ++ ':' :: (digits ++ blanks)), isAuthorityEnd true c = false := by
  have hassoc : lead ++ (host ++ ':' :: (digits ++ blanks)) =
      lead ++ (host ++ ':' :: digits) ++ blanks := by simp
  intro c hc
  rw [hassoc] at hc
  rcases List.mem_append.1 hc with hc | hc
  · exact h.plain c hc
  · exact isAuthorityEnd_of_class (hb c hc) (by decide)

theorem behind_append : '@' ∉ host ++ ':' :: (digits ++ blanks) := by
  have hbehind := h.behind
  have hblanks : '@' ∉ blanks := fun hm => ne_of_class (hb '@' hm) rfl rfl
  simp only [List.mem_append, List.mem_cons, not_or] at hbehind ⊢
  exact ⟨hbehind.1, hbehind.2.1, hbehind.2.2, hblanks⟩

theorem readHost_ne_ok (a : List Char) (read : Option Host) :
    readHost special (a ++ ':' :: (digits ++ blanks)) ≠ .ok read := by
  intro hr
  have hlast := readHost_of_colon hr (List.mem_append_right a List.mem_cons_self)
  have hne : digits ++ blanks ≠ [] := List.append_ne_nil_of_left_ne_nil h.digits_ne_nil _
  rw [List.append_cons, List.getLast?_append_of_ne_nil _ hne] at hlast
  exact h.not_mem hb (by decide) rfl rfl (List.mem_of_getLast? hlast)

theorem readDigits?_eq (hd : ∀ c ∈ digits ++ blanks, c.isDigit = true) :
    readDigits? (digits ++ blanks) = some port := by
  have hnil : blanks = [] := by
    refine List.eq_nil_iff_forall_not_mem.2 fun c hc => ?_
    have hc' := hd c (List.mem_append_right digits hc)
    rw [isDigit_of_isBlank (hb c hc)] at hc'
    cases hc'
  rw [hnil, List.append_nil] at hd ⊢
  obtain ⟨ds, hds, _, hread⟩ := readUpTo?_eq_some h.read
  rcases hds with rfl | rfl
  · exact hread
  · cases hd '+' List.mem_cons_self

theorem readPort_eq {written rest : List Char} {read : Option Nat}
    (hr : readPort scheme written = .ok (read, rest))
    (ha : host ++ ':' :: (digits ++ blanks) = a ++ ':' :: authorityOf true written) :
    read = (some port).filter (defaultPort? scheme ≠ some ·) := by
  have hall : ∀ c ∈ written.takeWhile Char.isDigit, c.isDigit = true :=
    List.all_eq_true.1 List.all_takeWhile
  rw [readPort_authorityOf hr] at ha
  have hlast := congrArg (splitLast? ':') ha
  rw [splitLast?_append (h.not_mem hb (by decide) rfl rfl),
    splitLast?_append fun hm => ne_of_class (hall ':' hm) rfl rfl] at hlast
  have hdigits : digits ++ blanks = written.takeWhile Char.isDigit :=
    (Prod.mk.inj (Option.some.inj hlast)).2
  rw [(readPort_eq_ok hr).2.2, ← hdigits, h.readDigits?_eq hb (hdigits ▸ hall)]

variable (ht : IsBehind false tail)

include ht

theorem readAuthority_port {authority : Authority} {rest : List Char}
    (ha : readAuthority scheme (lead ++ (host ++ ':' :: (digits ++ blanks)) ++ tail) =
      .ok (authority, rest)) :
    authority.port = (some port).filter (defaultPort? scheme ≠ some ·) := by
  let special := (Kind.ofScheme scheme).isSpecial
  let region := host ++ ':' :: (digits ++ blanks)
  have hplain : ∀ c ∈ lead ++ region, isAuthorityEnd true c = false := h.plain_append hb
  obtain ⟨cs', hu, hh, hp⟩ := readAuthority_eq_ok ha
  obtain rfl : cs' = region ++ tail :=
    readUserinfo_append h.userinfo (h.behind_append hb)
      (fun c hc => not_isAuthorityEnd_mono (hplain c hc)) ht.mono hu
  obtain ⟨happ, hfst, hstop⟩ := splitHost_spec special false (region ++ tail)
  generalize splitHost special false (region ++ tail) = parts at happ hfst hstop hh hp
  obtain ⟨hostText, behind⟩ := parts
  have hregion (special : Bool) (hfst : ∀ c ∈ hostText, isAuthorityEnd special c = false) :
      region = hostText ++ authorityOf special behind := by
    have hr : ∀ c ∈ region, isAuthorityEnd special c = false :=
      fun c hc => not_isAuthorityEnd_mono (hplain c (List.mem_append_right lead hc))
    rw [← authorityOf_append hfst, happ, authorityOf_append_of_isBehind hr ht.mono]
  by_cases hcolon : behind.head? = some ':'
  · -- The host ends at the first colon outside brackets. What the parser takes for a port reaches
    -- from there to the end and is digits, so that colon is the last one.
    obtain ⟨written, rfl⟩ := List.head?_eq_some_iff.1 hcolon
    have hfst' : ∀ c ∈ hostText, isAuthorityEnd true c = false := by
      intro c hc
      apply hplain c
      rw [hregion special hfst]
      exact List.mem_append_right _ (List.mem_append_left _ hc)
    rw [readPortBehind] at hp
    split at hp
    · cases hp
    · exact h.readPort_eq hb hp (hregion true hfst')
  · -- All that is left is taken for the host, which has a colon but no bracket at its end.
    have hend : authorityOf special behind = [] :=
      authorityOf_of_isBehind fun c hc => (hstop c hc).resolve_left fun h => hcolon (h ▸ hc)
    have hhost := hregion special hfst
    rw [hend, List.append_nil] at hhost
    exact absurd (hhost ▸ hh) (h.readHost_ne_ok hb host _)

theorem afterDoubleSlash_port
    (hu : afterDoubleSlash scheme (lead ++ (host ++ ':' :: (digits ++ blanks)) ++ tail) = .ok u) :
    u.effectivePort? = some port := by
  obtain ⟨hs, authority, rest, ha, hr⟩ := afterDoubleSlash_eq_ok hu
  have hp := h.readAuthority_port hb ht hr
  rw [effectivePort?, port?, ha, Option.bind_some, hp, hs]
  by_cases hd : defaultPort? scheme = some port <;> simp [hd, Option.filter]

theorem readFileHost_ne_ok (parts : Option Host × List Char) :
    readFileHost (lead ++ (host ++ ':' :: (digits ++ blanks)) ++ tail) ≠ .ok parts := by
  let region := lead ++ (host ++ ':' :: (digits ++ blanks))
  intro (hp : readFileHost (region ++ tail) = .ok parts)
  have hregion : region = lead ++ host ++ ':' :: (digits ++ blanks) := by simp [region]
  have htake : (region ++ tail).takeWhile (fun c => !isAuthorityEnd true c) = region :=
    authorityOf_append_of_isBehind (h.plain_append hb) ht.mono
  have hne : region.isEmpty = false := by simp [region]
  have hdrive : isDriveLetter region = false := by
    rw [hregion]
    exact isDriveLetter_eq_false (List.append_ne_nil_of_left_ne_nil h.digits_ne_nil _)
  simp only [readFileHost, htake, hdrive, hne, Bool.false_eq_true, if_false] at hp
  obtain ⟨parsed, hparsed, _⟩ := bind_eq_ok.1 hp
  have hr : readHost true region = .ok (some parsed) := by
    rw [readHost, if_pos rfl, hne, hparsed]
    rfl
  rw [hregion] at hr
  exact h.readHost_ne_ok hb _ _ hr

theorem parseFile_ne_ok (base : Option Url) :
    parseFile base ('/' :: '/' :: (lead ++ (host ++ ':' :: (digits ++ blanks)) ++ tail)) ≠
      .ok u := by
  intro hu
  let text := lead ++ (host ++ ':' :: (digits ++ blanks)) ++ tail
  obtain ⟨parts, hp, _⟩ := bind_eq_ok.1 (show (readFileHost text >>= _) = .ok u from hu)
  exact h.readFileHost_ne_ok hb ht parts hp

theorem parseWithScheme_port {base : Option Url}
    (hu : parseWithScheme base scheme
      ('/' :: '/' :: (lead ++ (host ++ ':' :: (digits ++ blanks)) ++ tail)) = .ok u) :
    u.effectivePort? = some port := by
  rw [parseWithScheme] at hu
  split at hu
  next => exact absurd hu (h.parseFile_ne_ok hb ht _)
  next =>
    have hne : lead ++ (host ++ ':' :: (digits ++ blanks)) ≠ [] := by simp
    simp only [filter_slashes, dropWhile_slashes (h.plain_append hb) hne] at hu
    exact h.afterDoubleSlash_port hb ht hu
  next => exact h.afterDoubleSlash_port hb ht hu

theorem parseChars_port {base : Url} (hbase : base.scheme ≠ "file") {mark : List Char}
    (hmark : IsMark mark)
    (hclean : clean cs = mark ++ (lead ++ (host ++ ':' :: (digits ++ blanks)) ++ tail))
    (hu : parseChars (some base) cs = .ok u) : u.effectivePort? = some port := by
  rw [parseChars, hclean] at hu
  rcases hmark with rfl | ⟨scheme, rfl, hall, halpha⟩
  · have hnone (rest : List Char) : splitScheme? ('/' :: rest) = none := rfl
    simp only [List.cons_append, List.nil_append, hnone] at hu
    split at hu
    next heq => cases heq
    next => cases hu
    next =>
      rw [if_neg hbase, parseRelative_slashes] at hu
      exact h.afterDoubleSlash_port hb ht hu
  · rw [List.append_assoc, List.cons_append, splitScheme?_append hall halpha] at hu
    exact h.parseWithScheme_port hb ht hu

end WritesPort

end IssuanceCheck.Url
