import IssuanceCheck.Proofs.Url.Authority
import IssuanceCheck.Proofs.Url.Host
import Mathlib.Data.List.TakeWhile

namespace IssuanceCheck.Url

open Text Decimal

variable {special : Bool} {kind : Kind} {scheme : String} {authority : Authority} {port : Nat}
  {a b cs host tail rest : List Char} {escaped : Char → Bool}

theorem append_inj_of_isBehind (ha : ∀ c ∈ a, isAuthorityEnd special c = false)
    (hb : ∀ c ∈ b, isAuthorityEnd special c = false) (ht : IsBehind special tail)
    (hr : IsBehind special rest) (h : a ++ tail = b ++ rest) : a = b ∧ tail = rest := by
  have hab : a = b := by
    rw [← authorityOf_append_of_isBehind ha ht, h, authorityOf_append_of_isBehind hb hr]
  subst hab
  exact ⟨rfl, List.append_cancel_left h⟩

theorem percentEncode_eq_nil_iff : percentEncode escaped cs = [] ↔ cs = [] := by
  rw [percentEncode, List.flatMap_eq_nil_iff, List.eq_nil_iff_forall_not_mem]
  refine forall_congr' fun c => imp_congr_right fun _ => iff_false_intro fun h => ?_
  have hbytes : String.utf8EncodeChar c ≠ [] := by
    rw [← List.length_pos_iff, String.length_utf8EncodeChar]
    exact c.utf8Size_pos
  split at h
  · obtain ⟨byte, bytes, hcons⟩ := List.exists_cons_of_ne_nil hbytes
    rw [hcons] at h
    cases h
  · cases h

theorem ofList_percentEncode_eq_empty_iff :
    String.ofList (percentEncode escaped cs) = "" ↔ cs = [] := by
  rw [String.ofList_eq_empty_iff, percentEncode_eq_nil_iff]

theorem credentials_eq_nil_iff (userinfo : List Char) :
    let parts := (splitFirst? ':' userinfo).getD (userinfo, [])
    parts.1 = [] ∧ parts.2 = [] ↔ userinfo = [] ∨ userinfo = [':'] := by
  cases hsplit : splitFirst? ':' userinfo with
  | none =>
      have hn : userinfo ≠ [':'] := by
        rintro rfl
        cases hsplit
      simp [hn]
  | some parts =>
      obtain ⟨rfl, -⟩ := splitFirst?_eq_some hsplit
      simp [List.append_eq_singleton_iff]

/-- The parts of an authority: a userinfo may stand before the last `@`, and what follows that is a
host, or a host and a port behind the last colon. -/
structure HasParts (scheme : String) (a host : List Char) (authority : Authority) : Prop where
  behind : '@' ∉ host
  userinfo : (a = host ∧ authority.username = "" ∧ authority.password = "") ∨
    ∃ userinfo, a = userinfo ++ '@' :: host ∧
      (authority.username = "" ∧ authority.password = "" ↔ userinfo = [] ∨ userinfo = [':'])
  port : (authority.port = none ∧ readHost true host = .ok authority.host) ∨
    ∃ front digits, host = front ++ ':' :: digits ∧ (∀ c ∈ digits, c.isDigit = true) ∧
      authority.port = (readDigits? digits).filter (defaultPort? scheme ≠ some ·)

theorem readUserinfo_eq_ok {username password : String}
    (ha : ∀ c ∈ a, isAuthorityEnd special c = false) (ht : IsBehind special tail)
    (h : readUserinfo special (a ++ tail) = .ok (username, password, cs)) :
    ∃ host, cs = host ++ tail ∧ '@' ∉ host ∧
      ((a = host ∧ username = "" ∧ password = "") ∨ ∃ userinfo, a = userinfo ++ '@' :: host ∧
        (username = "" ∧ password = "" ↔ userinfo = [] ∨ userinfo = [':'])) := by
  have hregion : (a ++ tail).takeWhile (fun c => !isAuthorityEnd special c) = a :=
    authorityOf_append_of_isBehind ha ht
  have hbehind : (a ++ tail).dropWhile (fun c => !isAuthorityEnd special c) = tail :=
    behindAuthority_append_of_isBehind ha ht
  rw [readUserinfo] at h
  simp only [hregion, hbehind] at h
  split at h
  next hat =>
    cases h
    exact ⟨a, rfl, splitLast?_eq_none.1 hat, .inl ⟨rfl, rfl, rfl⟩⟩
  next userinfo host hat =>
    obtain ⟨happ, hhost⟩ := splitLast?_eq_some hat
    split at h
    · cases h
    · cases h
      refine ⟨host, rfl, hhost, .inr ⟨userinfo, happ, ?_⟩⟩
      rw [ofList_percentEncode_eq_empty_iff, ofList_percentEncode_eq_empty_iff]
      exact credentials_eq_nil_iff userinfo

theorem readAuthority_hasParts (hs : (Kind.ofScheme scheme).isSpecial = true)
    (ha : ∀ c ∈ a, isAuthorityEnd true c = false) (ht : IsBehind true tail)
    (h : readAuthority scheme (a ++ tail) = .ok (authority, rest)) :
    rest = tail ∧ ∃ host, HasParts scheme a host authority := by
  obtain ⟨cs, hu, hh, hp⟩ := readAuthority_eq_ok h
  rw [hs] at hu hh hp
  obtain ⟨host, rfl, hbehind, huserinfo⟩ := readUserinfo_eq_ok ha ht hu
  have hhost : ∀ c ∈ host, isAuthorityEnd true c = false := by
    intro c hc
    rcases huserinfo with ⟨rfl, -⟩ | ⟨userinfo, rfl, -⟩
    · exact ha c hc
    · exact ha c (by simp [hc])
  obtain ⟨happ, hfst, hstop⟩ := splitHost_spec true false (host ++ tail)
  generalize splitHost true false (host ++ tail) = parts at happ hfst hstop hh hp
  obtain ⟨front, behind⟩ := parts
  by_cases hcolon : behind.head? = some ':'
  · obtain ⟨written, rfl⟩ := List.head?_eq_some_iff.1 hcolon
    rw [readPortBehind] at hp
    split at hp
    · cases hp
    · obtain ⟨hend, rfl, hport⟩ := readPort_eq_ok hp
      have hdigits : ∀ c ∈ written.takeWhile Char.isDigit, c.isDigit = true :=
        List.all_eq_true.1 List.all_takeWhile
      have hplain : ∀ c ∈ front ++ ':' :: written.takeWhile Char.isDigit,
          isAuthorityEnd true c = false := by
        rw [List.forall_mem_append, List.forall_mem_cons]
        exact ⟨hfst, rfl, fun c hc => isAuthorityEnd_of_class (hdigits c hc) (by decide)⟩
      rw [← List.takeWhile_append_dropWhile (p := Char.isDigit) (l := written),
        ← List.cons_append, ← List.append_assoc] at happ
      obtain ⟨rfl, rfl⟩ := append_inj_of_isBehind hplain hhost hend ht happ
      exact ⟨rfl, _, hbehind, huserinfo, .inr ⟨front, _, rfl, hdigits, hport⟩⟩
  · have hend : IsBehind true behind := fun c hc =>
      (hstop c hc).resolve_left fun h => hcolon (h ▸ hc)
    have hnone : readPortBehind scheme authority.host behind = .ok (none, behind) := by
      rw [readPortBehind]
      rintro written rfl
      exact hcolon rfl
    rw [hnone] at hp
    obtain ⟨hport, rfl⟩ := Prod.mk.inj (Except.ok.inj hp)
    obtain ⟨rfl, rfl⟩ := append_inj_of_isBehind hfst hhost hend ht happ
    exact ⟨rfl, _, hbehind, huserinfo, .inl ⟨hport.symm, hh⟩⟩

namespace HasParts

variable (h : HasParts scheme a host authority)

include h

theorem userinfo_eq_empty_iff : authority.username = "" ∧ authority.password = "" ↔
    '@' ∉ a ∨ ∃ host, '@' ∉ host ∧ (a = '@' :: host ∨ a = ':' :: '@' :: host) := by
  rcases h.userinfo with ⟨rfl, hempty⟩ | ⟨userinfo, rfl, hempty⟩
  · exact iff_of_true hempty (.inl h.behind)
  · rw [hempty]
    constructor
    · rintro (rfl | rfl)
      · exact .inr ⟨host, h.behind, .inl rfl⟩
      · exact .inr ⟨host, h.behind, .inr rfl⟩
    · rintro (hat | ⟨host', hhost', heq⟩)
      · exact absurd (by simp) hat
      · have hlast := splitLast?_append h.behind userinfo
        rcases heq with heq | heq
        · rw [heq, ← List.nil_append ('@' :: host'), splitLast?_append hhost'] at hlast
          exact .inl (Prod.mk.inj (Option.some.inj hlast)).1.symm
        · rw [heq, ← List.singleton_append, splitLast?_append hhost'] at hlast
          exact .inr (Prod.mk.inj (Option.some.inj hlast)).1.symm

theorem exists_front {front digits : List Char} (ha : a = front ++ ':' :: digits)
    (hd : ∀ c ∈ digits, c.isDigit = true) : ∃ front, host = front ++ ':' :: digits := by
  have hat : '@' ∉ ':' :: digits := by
    rw [List.mem_cons, not_or]
    exact ⟨by decide, fun hm => absurd (hd '@' hm) (by decide)⟩
  rcases h.userinfo with ⟨rfl, -⟩ | ⟨userinfo, rfl, -⟩
  · exact ⟨front, ha⟩
  · rcases List.append_eq_append_iff.1 ha with ⟨middle, -, hm⟩ | ⟨middle, -, hm⟩
    · cases middle with
      | nil => cases hm
      | cons c middle => exact ⟨middle, (List.cons.inj hm).2⟩
    · exact absurd (hm ▸ by simp) hat

theorem port_eq_some_iff : authority.port = some port ↔
    ∃ front digits, a = front ++ ':' :: digits ∧ readDigits? digits = some port ∧
      defaultPort? scheme ≠ some port := by
  constructor
  · intro hport
    rcases h.port with ⟨hnone, -⟩ | ⟨front, digits, rfl, -, hread⟩
    · rw [hnone] at hport
      cases hport
    · rw [hread, Option.filter_eq_some_iff, decide_eq_true_eq] at hport
      rcases h.userinfo with ⟨rfl, -⟩ | ⟨userinfo, rfl, -⟩
      · exact ⟨front, digits, rfl, hport⟩
      · exact ⟨userinfo ++ '@' :: front, digits, by simp, hport⟩
  · rintro ⟨front, digits, ha, hread, hdefault⟩
    have hdigits := isDigit_of_readDigits? hread
    have hcolon : ':' ∉ digits := fun hm => absurd (hdigits ':' hm) (by decide)
    obtain ⟨front, rfl⟩ := h.exists_front ha hdigits
    rcases h.port with ⟨-, hhost⟩ | ⟨front', written, heq, hwritten, hport⟩
    · -- A host with a colon is an address in brackets, and no digit stands behind those.
      have hne : digits ≠ [] := by
        rintro rfl
        cases hread
      have hlast := readHost_of_colon hhost (by simp)
      rw [List.append_cons, List.getLast?_append_of_ne_nil _ hne] at hlast
      exact absurd (hdigits ']' (List.mem_of_getLast? hlast)) (by decide)
    · have hfree : ':' ∉ written := fun hm => absurd (hwritten ':' hm) (by decide)
      have hsplit := splitLast?_append hcolon front
      rw [heq, splitLast?_append hfree] at hsplit
      obtain ⟨-, rfl⟩ := Prod.mk.inj (Option.some.inj hsplit)
      rw [hport, Option.filter_eq_some_iff, decide_eq_true_eq]
      exact ⟨hread, hdefault⟩

end HasParts

theorem readSegments_rest (kind : Kind) (segments : List (List Char)) (segment cs : List Char) :
    (readSegments kind segments segment cs).2 = cs.dropWhile fun c => !isQueryOrFragment c := by
  induction cs generalizing segments segment with
  | nil => rfl
  | cons c cs ih =>
      rw [readSegments, List.dropWhile_cons]
      cases hc : isQueryOrFragment c with
      | true => rfl
      | false =>
          simp only [Bool.false_eq_true, if_false, Bool.not_false, if_true]
          split
          · exact ih ..
          · exact ih ..

theorem readPathStart_cons (c : Char) (cs : List Char) :
    readPathStart .web (c :: cs) =
      readPath .web [] (if isSlash true c = true then cs else c :: cs) := by
  rw [readPathStart]
  cases hc : isSlash true c <;> simp only [Kind.isSpecial, hc] <;> rfl

theorem not_isQueryOrFragment_of_isSlash {c : Char} (h : isSlash special c = true) :
    isQueryOrFragment c = false := by
  simp only [isSlash, Bool.or_eq_true, Bool.and_eq_true, beq_iff_eq] at h
  rcases h with rfl | ⟨-, rfl⟩ <;> rfl

theorem readPathStart_rest (cs : List Char) :
    (readPathStart .web cs).2 = cs.dropWhile fun c => !isQueryOrFragment c := by
  cases cs with
  | nil => rfl
  | cons c cs =>
      rw [readPathStart_cons]
      split
      next hslash =>
        rw [List.dropWhile_cons_of_pos (by rw [not_isQueryOrFragment_of_isSlash hslash]; rfl)]
        exact readSegments_rest ..
      next => exact readSegments_rest .web [] [] (c :: cs)

theorem readQueryFragment_cons_ne {c : Char} (hc : isQueryOrFragment c = true) :
    readQueryFragment kind (c :: rest) ≠ (none, none) := by
  rw [isQueryOrFragment, Bool.or_eq_true, beq_iff_eq, beq_iff_eq] at hc
  intro h
  rcases hc with rfl | rfl
  · cases h
  · cases h

theorem readQueryFragment_eq_none_iff (kind : Kind) (cs : List Char) :
    readQueryFragment kind (cs.dropWhile fun c => !isQueryOrFragment c) = (none, none) ↔
      ∀ c ∈ cs, isQueryOrFragment c = false := by
  have hstop := List.head?_dropWhile_not (fun c => !isQueryOrFragment c) cs
  have hnil : (cs.dropWhile fun c => !isQueryOrFragment c) = [] ↔
      ∀ c ∈ cs, isQueryOrFragment c = false := by
    simp only [List.dropWhile_eq_nil_iff, Bool.not_eq_true']
  rw [← hnil]
  cases hd : cs.dropWhile fun c => !isQueryOrFragment c with
  | nil => exact iff_of_true rfl rfl
  | cons c rest =>
      rw [hd] at hstop
      have hc : isQueryOrFragment c = true := by simpa using hstop
      exact iff_of_false (readQueryFragment_cons_ne hc) (List.cons_ne_nil c rest)

theorem readSegments_append_slash (kind : Kind) (segments : List (List Char)) (segment : List Char)
    (ha : ∀ c ∈ a, isQueryOrFragment c = false) :
    ∃ segments', ∀ rest, readSegments kind segments segment (a ++ '/' :: rest) =
      readSegments kind segments' [] rest := by
  induction a generalizing segments segment with
  | nil => exact ⟨addSegment kind segments segment.reverse false, fun rest => rfl⟩
  | cons c a ih =>
      rw [List.forall_mem_cons] at ha
      simp only [List.cons_append, readSegments, ha.1, Bool.false_eq_true, if_false]
      split
      · exact ih _ _ ha.2
      · exact ih _ _ ha.2

theorem readPathStart_append_slash (ht : IsBehind true a)
    (ha : ∀ c ∈ a, isQueryOrFragment c = false) :
    ∃ segments, ∀ rest, readPathStart .web (a ++ '/' :: rest) = readPath .web segments rest := by
  cases a with
  | nil => exact ⟨[], fun rest => rfl⟩
  | cons c a =>
      rw [List.forall_mem_cons] at ha
      have hc := ht c rfl
      rw [isAuthorityEnd, ha.1, Bool.or_false] at hc
      obtain ⟨segments, hsegments⟩ := readSegments_append_slash .web [] [] ha.2
      refine ⟨segments, fun rest => ?_⟩
      rw [List.cons_append, readPathStart_cons, if_pos hc, readPath, hsegments]
      rfl

theorem readPath_nil (segments : List (List Char)) :
    readPath .web segments [] = (.rooted ((segments ++ [[]]).map String.ofList), []) := rfl

end IssuanceCheck.Url
