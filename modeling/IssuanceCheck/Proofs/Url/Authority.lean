import IssuanceCheck.Url.Parser

namespace IssuanceCheck.Url

open Text

variable {special : Bool} {base : Option Url} {b u : Url} {scheme : String} {c : Char}
  {a cs rest lead tail : List Char}

theorem bind_eq_ok {ε α β : Type} {read : Except ε α} {next : α → Except ε β} {b : β} :
    (read >>= next) = .ok b ↔ ∃ a, read = .ok a ∧ next a = .ok b := by
  cases read with
  | error e =>
      refine iff_of_false (fun h => by cases h) ?_
      rintro ⟨_, h, _⟩
      cases h
  | ok a =>
      constructor
      · intro h
        exact ⟨a, rfl, h⟩
      · rintro ⟨_, he, h⟩
        cases he
        exact h

theorem readAuthority_eq_ok {authority : Authority}
    (h : readAuthority scheme cs = .ok (authority, rest)) :
    ∃ cs', readUserinfo (Kind.ofScheme scheme).isSpecial cs =
        .ok (authority.username, authority.password, cs') ∧
      readHost (Kind.ofScheme scheme).isSpecial
        (splitHost (Kind.ofScheme scheme).isSpecial false cs').1 = .ok authority.host ∧
      readPortBehind scheme authority.host
        (splitHost (Kind.ofScheme scheme).isSpecial false cs').2 = .ok (authority.port, rest) := by
  rw [readAuthority] at h
  obtain ⟨⟨username, password, cs'⟩, hu, h⟩ := bind_eq_ok.1 h
  obtain ⟨host, hh, h⟩ := bind_eq_ok.1 h
  obtain ⟨⟨port, rest'⟩, hp, h⟩ := bind_eq_ok.1 h
  simp only at h
  split at h
  · cases h
  · cases h
    exact ⟨cs', hu, hh, hp⟩

theorem readPort_eq_ok {port : Option Nat} (h : readPort scheme cs = .ok (port, rest)) :
    (∀ c, (cs.dropWhile Char.isDigit).head? = some c → isAuthorityEnd true c = true) ∧
      rest = cs.dropWhile Char.isDigit ∧
      port = (Decimal.readDigits? (cs.takeWhile Char.isDigit)).filter
        (defaultPort? scheme ≠ some ·) := by
  rw [readPort] at h
  split at h
  · cases h
  next hend =>
    have hhead :
        ∀ c, (cs.dropWhile Char.isDigit).head? = some c → isAuthorityEnd true c = true := by
      simpa [Option.any_eq_true] using hend
    refine ⟨hhead, ?_⟩
    split at h
    next hd =>
      cases h
      exact ⟨rfl, by rw [hd]; rfl⟩
    next n hd =>
      split at h
      · cases h
      · cases h
        refine ⟨rfl, ?_⟩
        rw [hd]
        by_cases hn : defaultPort? scheme = some n <;> simp [hn, Option.filter]

theorem afterDoubleSlash_eq_assemble (h : afterDoubleSlash scheme cs = .ok u) :
    ∃ authority rest, readAuthority scheme cs = .ok (authority, rest) ∧
      u = assemble scheme (some authority) (readPathStart (Kind.ofScheme scheme) rest) := by
  rw [afterDoubleSlash] at h
  obtain ⟨⟨authority, rest⟩, ha, h⟩ := bind_eq_ok.1 h
  cases h
  exact ⟨authority, rest, ha, rfl⟩

theorem afterDoubleSlash_eq_ok (h : afterDoubleSlash scheme cs = .ok u) :
    u.scheme = scheme ∧ ∃ authority rest, u.authority = some authority ∧
      readAuthority scheme cs = .ok (authority, rest) := by
  obtain ⟨authority, rest, ha, rfl⟩ := afterDoubleSlash_eq_assemble h
  exact ⟨rfl, authority, rest, rfl, ha⟩

theorem isAuthorityEnd_mono (h : isAuthorityEnd false c = true) :
    isAuthorityEnd special c = true := by
  cases special with
  | false => exact h
  | true =>
      simp only [isAuthorityEnd, isSlash, Bool.or_eq_true, Bool.false_and, Bool.false_eq_true,
        or_false] at h ⊢
      exact h.imp_left .inl

theorem not_isAuthorityEnd_mono (h : isAuthorityEnd true c = false) :
    isAuthorityEnd special c = false := by
  cases special with
  | true => exact h
  | false =>
      refine Bool.eq_false_iff.2 fun hf => ?_
      rw [isAuthorityEnd_mono hf] at h
      cases h

theorem isAuthorityEnd_true_eq_false (h : isAuthorityEnd false c = false) (hc : c ≠ '\\') :
    isAuthorityEnd true c = false := by
  simp only [isAuthorityEnd, isSlash, Bool.or_eq_false_iff, Bool.true_and] at h ⊢
  exact ⟨⟨h.1.1, beq_eq_false_iff_ne.2 hc⟩, h.2⟩

theorem mem_of_isAuthorityEnd (h : isAuthorityEnd true c = true) :
    c ∈ ['/', '\\', '?', '#'] := by
  simp only [isAuthorityEnd, isSlash, isQueryOrFragment, Bool.or_eq_true, Bool.true_and,
    beq_iff_eq] at h
  rcases h with (rfl | rfl) | (rfl | rfl) <;> decide

theorem isAuthorityEnd_of_class {p : Char → Bool} (hc : p c = true)
    (hp : p '/' = false ∧ p '\\' = false ∧ p '?' = false ∧ p '#' = false) :
    isAuthorityEnd special c = false := by
  have hne : ∀ d, p d = false → (c == d) = false :=
    fun d hd => beq_eq_false_iff_ne.2 (ne_of_class hc hd)
  rw [isAuthorityEnd, isSlash, isQueryOrFragment, hne '/' hp.1, hne '\\' hp.2.1, hne '?' hp.2.2.1,
    hne '#' hp.2.2.2]
  cases special <;> rfl

def authorityOf (special : Bool) (cs : List Char) : List Char :=
  cs.takeWhile fun c => !isAuthorityEnd special c

def behindAuthority (special : Bool) (cs : List Char) : List Char :=
  cs.dropWhile fun c => !isAuthorityEnd special c

theorem authorityOf_append_behind (special : Bool) (cs : List Char) :
    authorityOf special cs ++ behindAuthority special cs = cs :=
  List.takeWhile_append_dropWhile

theorem not_isAuthorityEnd_authorityOf :
    ∀ c ∈ authorityOf special cs, isAuthorityEnd special c = false := by
  intro c hc
  simpa using List.all_eq_true.1 List.all_takeWhile c hc

theorem authorityOf_append (h : ∀ c ∈ a, isAuthorityEnd special c = false) (b : List Char) :
    authorityOf special (a ++ b) = a ++ authorityOf special b := by
  apply List.takeWhile_append_of_pos
  intro c hc
  rw [h c hc]
  rfl

/-- What follows an authority: nothing, or what begins with a character that ends one. -/
def IsBehind (special : Bool) (cs : List Char) : Prop :=
  ∀ c, cs.head? = some c → isAuthorityEnd special c = true

theorem behindAuthority_isBehind (special : Bool) (cs : List Char) :
    IsBehind special (behindAuthority special cs) := by
  intro c hc
  have hstop := List.head?_dropWhile_not (fun c => !isAuthorityEnd special c) cs
  rw [← behindAuthority, hc] at hstop
  simpa using hstop

theorem IsBehind.mono (h : IsBehind false cs) : IsBehind special cs :=
  fun c hc => isAuthorityEnd_mono (h c hc)

theorem authorityOf_of_isBehind (h : IsBehind special cs) : authorityOf special cs = [] := by
  cases cs with
  | nil => rfl
  | cons c rest => exact List.takeWhile_cons_of_neg (by simp [h c rfl])

theorem authorityOf_append_of_isBehind (ha : ∀ c ∈ a, isAuthorityEnd special c = false)
    (ht : IsBehind special tail) : authorityOf special (a ++ tail) = a := by
  rw [authorityOf_append ha, authorityOf_of_isBehind ht, List.append_nil]

theorem behindAuthority_append_of_isBehind (ha : ∀ c ∈ a, isAuthorityEnd special c = false)
    (ht : IsBehind special tail) : behindAuthority special (a ++ tail) = tail := by
  have hparts := authorityOf_append_behind special (a ++ tail)
  rw [authorityOf_append_of_isBehind ha ht] at hparts
  exact List.append_cancel_left hparts

theorem readUserinfo_append {name password : String} {cs' : List Char}
    (hlead : lead = [] ∨ ∃ userinfo, lead = userinfo ++ ['@']) (hat : '@' ∉ a)
    (ha : ∀ c ∈ lead ++ a, isAuthorityEnd special c = false)
    (ht : IsBehind special tail)
    (h : readUserinfo special (lead ++ a ++ tail) = .ok (name, password, cs')) :
    cs' = a ++ tail := by
  have hregion : (lead ++ a ++ tail).takeWhile (fun c => !isAuthorityEnd special c) = lead ++ a :=
    authorityOf_append_of_isBehind ha ht
  have hrest : (lead ++ a ++ tail).dropWhile (fun c => !isAuthorityEnd special c) = tail :=
    behindAuthority_append_of_isBehind ha ht
  rw [readUserinfo] at h
  simp only [hregion, hrest] at h
  rcases hlead with rfl | ⟨userinfo, rfl⟩
  · rw [List.nil_append, splitLast?_eq_none.2 hat] at h
    cases h
    rfl
  · rw [List.append_assoc, List.singleton_append, splitLast?_append hat] at h
    simp only at h
    split at h
    · cases h
    · cases h
      rfl

theorem splitHost_spec (special inBrackets : Bool) (cs : List Char) :
    let parts := splitHost special inBrackets cs
    parts.1 ++ parts.2 = cs ∧ (∀ c ∈ parts.1, isAuthorityEnd special c = false) ∧
      ∀ c, parts.2.head? = some c → c = ':' ∨ isAuthorityEnd special c = true := by
  induction cs generalizing inBrackets with
  | nil => simp [splitHost]
  | cons c rest ih =>
      rw [splitHost]
      split
      next hstop =>
        simp only [Bool.or_eq_true, Bool.and_eq_true, beq_iff_eq] at hstop
        refine ⟨rfl, by simp, fun d hd => ?_⟩
        obtain rfl : c = d := Option.some.inj hd
        exact hstop.imp_left And.left
      next hgo =>
        simp only [Bool.or_eq_true, not_or, Bool.not_eq_true] at hgo
        obtain ⟨happ, hplain, hstop⟩ :=
          ih (if c = '[' then true else if c = ']' then false else inBrackets)
        refine ⟨congrArg (c :: ·) happ, ?_, hstop⟩
        exact List.forall_mem_cons.2 ⟨hgo.2, hplain⟩

theorem readPort_authorityOf {read : Option Nat} {rest : List Char}
    (h : readPort scheme cs = .ok (read, rest)) :
    authorityOf true cs = cs.takeWhile Char.isDigit := by
  have hdigit : ∀ c ∈ cs.takeWhile Char.isDigit, isAuthorityEnd true c = false :=
    fun c hc => isAuthorityEnd_of_class (List.all_eq_true.1 List.all_takeWhile c hc) (by decide)
  have hregion := authorityOf_append_of_isBehind hdigit (readPort_eq_ok h).1
  rwa [List.takeWhile_append_dropWhile] at hregion

/-- Where the authority of a parsed URL comes from: the base, or a text behind two slashes. Else the
URL has no port, and its scheme is none of those that always have a host. -/
inductive AuthorityFrom (base : Option Url) (u : Url) : Prop
  | base {b : Url} (hb : base = some b) (hs : u.scheme = b.scheme) (ha : u.authority = b.authority)
  | text {cs : List Char} (h : afterDoubleSlash u.scheme cs = .ok u)
  | portless (hk : Kind.ofScheme u.scheme ≠ .web) (hp : u.port? = none)

theorem AuthorityFrom.mono {base' : Option Url} (h : AuthorityFrom base u)
    (hb : ∀ b, base = some b → base' = some b) : AuthorityFrom base' u := by
  cases h with
  | base he hs ha => exact .base (hb _ he) hs ha
  | text h => exact .text h
  | portless hk hp => exact .portless hk hp

theorem afterDoubleSlash_authorityFrom (h : afterDoubleSlash scheme cs = .ok u) :
    AuthorityFrom base u :=
  .text ((afterDoubleSlash_eq_ok h).1.symm ▸ h)

theorem parseRelative_authorityFrom (h : parseRelative b cs = .ok u) :
    AuthorityFrom (some b) u := by
  unfold parseRelative at h
  split at h
  · cases h
    exact .base rfl rfl rfl
  · cases h
    exact .base rfl rfl rfl
  · cases h
    exact .base rfl rfl rfl
  next c rest _ _ =>
    by_cases hd : 2 ≤ ((c :: rest).takeWhile (isSlash true)).length
    · simp only [hd, if_true] at h
      split at h
      · exact afterDoubleSlash_authorityFrom h
      · exact afterDoubleSlash_authorityFrom h
    · simp only [hd, if_false] at h
      split at h
      · cases h
        exact .base rfl rfl rfl
      · cases h
        exact .base rfl rfl rfl

theorem file_authorityFrom (hs : u.scheme = "file") {host : Option Host}
    (ha : u.authority = some { host := host }) : AuthorityFrom base u :=
  .portless (by rw [hs]; decide) (by rw [port?, ha]; rfl)

theorem parseFile_oneSlash_authorityFrom (cs : List Char) : AuthorityFrom base
    (parseFile.oneSlash base (fun host parts => assemble "file" (some { host := host }) parts)
      cs) := by
  unfold parseFile.oneSlash
  split
  · exact file_authorityFrom rfl rfl
  · split
    · exact file_authorityFrom rfl rfl
    · split <;> exact file_authorityFrom rfl rfl

theorem parseFile_relative_authorityFrom
    (h : parseFile.relative base (fun host parts => assemble "file" (some { host := host }) parts)
      cs = .ok u) : AuthorityFrom base u := by
  unfold parseFile.relative at h
  split at h
  · cases h
    exact file_authorityFrom rfl rfl
  · split at h
    · cases h
      exact .base rfl rfl rfl
    · cases h
      exact file_authorityFrom rfl rfl
    · cases h
      exact .base rfl rfl rfl
    · split at h
      · cases h
        exact file_authorityFrom rfl rfl
      · cases h
        exact file_authorityFrom rfl rfl

theorem parseFile_authorityFrom (h : parseFile base cs = .ok u) : AuthorityFrom base u := by
  unfold parseFile at h
  split at h
  next c d rest =>
    by_cases hc : isSlash true c = true
    · by_cases hd : isSlash true d = true
      · simp only [hc, hd, Bool.and_self, if_true] at h
        obtain ⟨⟨host, rest'⟩, _, h⟩ := bind_eq_ok.1 h
        cases h
        exact file_authorityFrom rfl rfl
      · simp only [hc, hd, Bool.and_false, if_true] at h
        cases h
        exact parseFile_oneSlash_authorityFrom (d :: rest)
    · simp only [hc, Bool.false_and] at h
      exact parseFile_relative_authorityFrom h
  next =>
    split at h
    · cases h
      exact parseFile_oneSlash_authorityFrom []
    · exact parseFile_relative_authorityFrom h
  next => exact parseFile_relative_authorityFrom h

theorem parseWithScheme_authorityFrom (h : parseWithScheme base scheme cs = .ok u) :
    AuthorityFrom base u := by
  unfold parseWithScheme at h
  split at h
  next =>
    exact (parseFile_authorityFrom h).mono fun b hf => (Option.filter_eq_some_iff.1 hf).1
  next =>
    simp only at h
    split at h
    next b hf =>
      obtain ⟨rfl, _⟩ := Option.filter_eq_some_iff.1 hf
      exact parseRelative_authorityFrom h
    next => exact afterDoubleSlash_authorityFrom h
  next hk =>
    have ho (v : Url) (hs : v.scheme = scheme) (ha : v.authority = none) : AuthorityFrom base v :=
      .portless (by rw [hs, hk]; decide) (by rw [port?, ha]; rfl)
    split at h
    · exact afterDoubleSlash_authorityFrom h
    · cases h
      exact ho _ rfl rfl
    · cases h
      exact ho _ rfl rfl

theorem parseChars_authorityFrom (h : parseChars base cs = .ok u) : AuthorityFrom base u := by
  unfold parseChars at h
  simp only at h
  split at h
  next => exact parseWithScheme_authorityFrom h
  next =>
    split at h
    · cases h
    next b =>
      split at h
      · cases h
        exact .base rfl rfl rfl
      · cases h
      · split at h
        · exact parseFile_authorityFrom h
        · exact parseRelative_authorityFrom h

end IssuanceCheck.Url
