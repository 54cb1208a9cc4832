import IssuanceCheck.Proofs.Fetch.Redirect
import IssuanceCheck.Proofs.Url.Port

namespace IssuanceCheck.Fetch

open Text
open Url (authorityOf isAuthorityEnd)

variable {cs rest scheme : List Char} {port : Nat}

theorem splitSchemeMark?_eq_some (h : splitSchemeMark? cs = some (scheme, rest)) :
    cs = scheme ++ ':' :: '/' :: '/' :: rest := by
  induction cs using splitSchemeMark?.induct generalizing scheme with
  | case1 tail =>
      cases h
      rfl
  | case2 c tail hn ih =>
      rw [splitSchemeMark?] at h
      · obtain ⟨⟨front, behind⟩, hparts, he⟩ := Option.map_eq_some_iff.1 h
        cases he
        exact congrArg (c :: ·) (ih hparts)
      · exact hn
  | case3 => cases h

theorem eq_of_schemeLess
    (h : (match cs with | '/' :: '/' :: rest => some rest | _ => none) = some rest) :
    cs = '/' :: '/' :: rest := by
  split at h
  · cases h
    rfl
  · cases h

theorem afterSlashes?_eq_some (h : afterSlashes? cs = some rest) :
    cs = '/' :: '/' :: rest ∨
      ∃ scheme, splitSchemeMark? cs = some (scheme, rest) ∧ scheme ≠ [] ∧
        scheme.all Url.isSchemeChar = true := by
  simp only [afterSlashes?] at h
  split at h
  next scheme rest' hsplit =>
    split at h
    next hscheme =>
      cases h
      simp only [Bool.and_eq_true, Bool.not_eq_true', List.isEmpty_eq_false_iff] at hscheme
      exact .inr ⟨scheme, hsplit, hscheme⟩
    next => exact .inl (eq_of_schemeLess h)
  next => exact .inl (eq_of_schemeLess h)

theorem isAuthorityEnd_false (c : Char) :
    isAuthorityEnd false c = (c == '/' || c == '?' || c == '#') := by
  simp [isAuthorityEnd, Url.isSlash, Url.isQueryOrFragment, Bool.or_assoc]

theorem writtenPort?_eq_some (h : writtenPort? cs = some port) :
    ∃ lead host digits tail,
      afterSlashes? cs = some (lead ++ (host ++ ':' :: digits) ++ tail) ∧
        (lead = [] ∨ ∃ userinfo, lead = userinfo ++ ['@']) ∧ '@' ∉ host ++ ':' :: digits ∧
        (∀ c ∈ lead ++ (host ++ ':' :: digits), isAuthorityEnd false c = false) ∧
        Url.IsBehind false tail ∧
        Decimal.readUpTo? 65535 digits = some port := by
  obtain ⟨rest, hrest, h⟩ := Option.bind_eq_some_iff.1 h
  simp only [← isAuthorityEnd_false] at h
  obtain ⟨⟨host, digits⟩, hsplit, h⟩ := Option.bind_eq_some_iff.1 h
  have hread : Decimal.readUpTo? 65535 digits = some port := by
    simp only at h
    split at h
    · cases h
    · exact h
  -- Only what follows the last `@` is split at a colon. Without one, that is the whole authority.
  have hparts : ∃ lead, authorityOf false rest = lead ++ (host ++ ':' :: digits) ∧
      (lead = [] ∨ ∃ userinfo, lead = userinfo ++ ['@']) ∧ '@' ∉ host ++ ':' :: digits := by
    rw [← authorityOf] at hsplit
    split at hsplit
    next userinfo hostPort hat =>
      obtain ⟨happ, hbehind⟩ := splitLast?_eq_some hat
      obtain ⟨rfl, _⟩ := splitLast?_eq_some hsplit
      exact ⟨userinfo ++ ['@'], by rw [happ, List.append_assoc]; rfl, .inr ⟨userinfo, rfl⟩, hbehind⟩
    next hat =>
      obtain ⟨happ, _⟩ := splitLast?_eq_some hsplit
      rw [happ] at hat
      exact ⟨[], happ, .inl rfl, splitLast?_eq_none.1 hat⟩
  obtain ⟨lead, happ, hlead, hbehind⟩ := hparts
  refine ⟨lead, host, digits, Url.behindAuthority false rest, ?_, hlead, hbehind, ?_,
    Url.behindAuthority_isBehind false rest, hread⟩
  · rw [← happ, Url.authorityOf_append_behind, hrest]
  · rw [← happ]
    exact Url.not_isAuthorityEnd_authorityOf

/-- A reference that the scan for a port and the parser split alike: the white space in front of it
is what the parser drops, what could be its scheme begins with a letter, and no back slash ends its
authority early. -/
structure IsPlain (location : String) : Prop where
  front : ∀ c ∈ location.toList.takeWhile isBlank, c.toNat ≤ 0x20
  scheme : ∀ parts ∈ splitSchemeMark? (trim location.toList),
    parts.1.all Url.isSchemeChar = true → parts.1.head?.all Char.isAlpha = true
  authority : ∀ rest ∈ afterSlashes? (trim location.toList), '\\' ∉ authorityOf false rest

theorem isPlain_iff {location : String} : IsPlain location ↔
    (location.toList.takeWhile isBlank).all (fun c => c.toNat ≤ 0x20) = true ∧
      (splitSchemeMark? (trim location.toList)).all (fun parts =>
        parts.1.all Url.isSchemeChar = true → parts.1.head?.all Char.isAlpha = true) = true ∧
      (afterSlashes? (trim location.toList)).all (fun rest =>
        '\\' ∉ authorityOf false rest) = true := by
  rw [List.all_eq_true, Option.all_eq_true, Option.all_eq_true]
  constructor
  · intro h
    exact ⟨fun c hc => decide_eq_true (h.front c hc),
      fun parts hs => decide_eq_true (h.scheme parts hs),
      fun rest hr => decide_eq_true (h.authority rest hr)⟩
  · rintro ⟨hfront, hscheme, hauthority⟩
    exact ⟨fun c hc => of_decide_eq_true (hfront c hc),
      fun parts hs => of_decide_eq_true (hscheme parts hs),
      fun rest hr => of_decide_eq_true (hauthority rest hr)⟩

instance (location : String) : Decidable (IsPlain location) := decidable_of_iff' _ isPlain_iff

theorem IsPlain.mark {location : String} (hp : IsPlain location)
    (h : afterSlashes? (trim location.toList) = some rest) :
    ∃ mark, Url.IsMark mark ∧ trim location.toList = mark ++ rest := by
  rcases afterSlashes?_eq_some h with h | ⟨scheme, hsplit, hne, hall⟩
  · exact ⟨['/', '/'], .inl rfl, h⟩
  · have halpha := hp.scheme (scheme, rest) hsplit hall
    obtain ⟨c, scheme, rfl⟩ := List.exists_cons_of_ne_nil hne
    refine ⟨c :: scheme ++ [':', '/', '/'], .inr ⟨c :: scheme, rfl, hall, halpha⟩, ?_⟩
    rw [splitSchemeMark?_eq_some hsplit]
    simp

theorem IsPlain.writesPort {location : String} (hp : IsPlain location)
    (h : writtenPort? (trim location.toList) = some port) :
    ∃ mark lead host digits blanks tail, Url.IsMark mark ∧ Url.WritesPort lead host digits port ∧
      (∀ c ∈ blanks, isBlank c = true) ∧
      Url.IsBehind false tail ∧
      Url.clean location.toList = mark ++ (lead ++ (host ++ ':' :: (digits ++ blanks)) ++ tail) := by
  obtain ⟨lead, host, digits, tail, hafter, hlead, hbehind, hplain, ht, hread⟩ :=
    writtenPort?_eq_some h
  obtain ⟨mark, hmark, htrim⟩ := hp.mark hafter
  have hslash : '\\' ∉ lead ++ (host ++ ':' :: digits) := by
    have hnone := hp.authority _ hafter
    rwa [Url.authorityOf_append_of_isBehind hplain ht] at hnone
  have hwrites : Url.WritesPort lead host digits port := by
    refine ⟨hlead, hbehind, fun c hc => ?_, hread⟩
    exact Url.isAuthorityEnd_true_eq_false (hplain c hc) fun hback => hslash (hback ▸ hc)
  obtain ⟨trail, hcs, htrail⟩ := eq_trim_append location.toList
  obtain ⟨blanks, tail', hb, ht', hclean⟩ := hwrites.clean_eq hp.front hmark ht htrail
  refine ⟨mark, _, _, digits, blanks, tail', hmark, hwrites.unbroken, hb, ht', ?_⟩
  rw [← hclean, ← htrim, ← hcs]

/-- The port that is taken from a plain reference is the one that the URL leads to. So no target at
an allowed port is refused over its port, and a reference without an authority of its own has the
port of the URL that it is resolved against. -/
theorem explicitPort_effective {current : Url}
    (hc : current.scheme = "http" ∨ current.scheme = "https") {location : String}
    (hp : IsPlain location) {target : Target} (h : Target.resolve current location = .ok target) :
    (∀ port, target.explicitPort = some port → target.url.effectivePort? = some port) ∧
      (target.url.effectivePort? = some 80 ∨ target.url.effectivePort? = some 443 →
        ∀ hop max text port, violation? target hop max ≠ some (.badPort text port)) ∧
      (Url.IsRelative current location.toList → target.explicitPort = current.port?) := by
  have hfile : current.scheme ≠ "file" := by rcases hc with hc | hc <;> rw [hc] <;> decide
  have hweb : Url.Kind.ofScheme current.scheme = .web := by
    rcases hc with hc | hc <;> rw [hc] <;> decide
  obtain ⟨url, hj, rfl⟩ := resolve_eq_ok_iff.1 h
  have heffective : ∀ port, (url.port? <|> writtenPort? (trim location.toList)) = some port →
      url.effectivePort? = some port := by
    intro port hport
    -- The scan is asked only if the URL writes no port, as when it is the default one.
    cases hu : url.port? with
    | some written =>
        rw [hu] at hport
        rw [Url.effectivePort?, hu]
        exact hport
    | none =>
        rw [hu] at hport
        obtain ⟨mark, lead, host, digits, blanks, tail, hmark, hwrites, hb, ht, hclean⟩ :=
          hp.writesPort hport
        exact hwrites.parseChars_port hb ht hfile hmark hclean hj
  refine ⟨heffective, ?_, ?_⟩
  · intro hallowed hop max text port hv
    obtain ⟨hport, hbad⟩ := explicitPort_of_badPort hv
    rw [heffective port hport] at hallowed
    apply hbad
    rcases hallowed with hallowed | hallowed
    · cases hallowed
      decide
    · cases hallowed
      decide
  · intro hr
    have hport : url.port? = current.port? := by
      rw [Url.port?, Url.port?, hr.authority hweb hj]
    have hnone : writtenPort? (trim location.toList) = none := by
      cases hw : writtenPort? (trim location.toList) with
      | none => rfl
      | some port =>
          obtain ⟨mark, _, _, _, _, _, hmark, _, _, _, hclean⟩ := hp.writesPort hw
          exact absurd hr (hmark.not_isRelative hclean)
    simp [hnone, hport]

/-- The default port of the scheme, written out behind a password and in front of another colon. -/
theorem explicitPort_effective_written_default :
    let current : Url :=
      { scheme := "https", authority := some { host := some (.name "a.test") }, path := .rooted [""] }
    let location := " //user:pw@b.test:443/c:1"
    IsPlain location ∧ ∃ target, Target.resolve current location = .ok target ∧
      target.url.text = "https://user:pw@b.test/c:1" ∧ target.url.port? = none ∧
      target.explicitPort = some 443 ∧ target.url.effectivePort? = some 443 := by
  intro current location
  have hp : IsPlain location := by decide +kernel
  let url : Url :=
    { scheme := "https"
      authority := some { username := "user", password := "pw", host := some (.name "b.test") }
      path := .rooted ["c:1"] }
  have h : Target.resolve current location = .ok ⟨url, some 443⟩ := by decide +kernel
  obtain ⟨heffective, _, _⟩ := explicitPort_effective (.inr rfl) hp h
  exact ⟨hp, _, h, by decide +kernel, rfl, rfl, heffective 443 rfl⟩

/-- What the scan takes for a scheme need not be one for the parser, which then finds a path. A back
slash ends the authority for the parser alone, and a space beyond ASCII is dropped by the scan
alone. Each time the port comes from the path of a URL that leads to port 80, and is refused. -/
theorem explicitPort_from_path :
    let current : Url :=
      { scheme := "http", authority := some { host := some (.name "a.test") }, path := .rooted [""] }
    let target (path : List String) : Target := ⟨{ current with path := .rooted path }, some 21⟩
    Target.resolve current "1x://h:21/" = .ok (target ["1x:", "", "h:21", ""]) ∧
      Target.resolve current "http://a.test\\:21/x" = .ok (target [":21", "x"]) ∧
      Target.resolve current "\u00a0//h:21/" = .ok (target ["%C2%A0", "", "h:21", ""]) ∧
      ∀ path, (target path).url.effectivePort? = some 80 ∧
        violation? (target path) 1 10 = some (.badPort (target path).url.text 21) := by
  intro current target
  refine ⟨by decide +kernel, by decide +kernel, by decide +kernel, fun path => ⟨rfl, ?_⟩⟩
  rfl

end IssuanceCheck.Fetch
