import IssuanceCheck.Proofs.Fetch.Findings
import IssuanceCheck.Proofs.Fetch.Pinned
import IssuanceCheck.Proofs.Text.Trim
import IssuanceCheck.Proofs.Url.Parts

namespace IssuanceCheck.Fetch

open Text
open Url (isAuthorityEnd isQueryOrFragment authorityOf behindAuthority readPathStart)

variable {domain : String} {url : Url} {text behind : List Char}

/-- The URL of a validation request, which leaves nothing but the host to the domain. -/
structure IsChallenge (u : Url) : Prop where
  scheme : u.scheme = "http"
  path : u.path.chars = challengePath.toList
  userinfo : (u.authority.map fun a => (a.username, a.password)) = some ("", "")
  port : u.port? = none
  query : u.query = none
  fragment : u.fragment = none

theorem isChallenge_iff {u : Url} : IsChallenge u ↔
    u.scheme = "http" ∧ u.path.chars = challengePath.toList ∧
      (u.authority.map fun a => (a.username, a.password)) = some ("", "") ∧
      u.port? = none ∧ u.query = none ∧ u.fragment = none := by
  constructor
  · intro h
    exact ⟨h.scheme, h.path, h.userinfo, h.port, h.query, h.fragment⟩
  · rintro ⟨hs, hp, hu, hport, hq, hf⟩
    exact ⟨hs, hp, hu, hport, hq, hf⟩

instance (u : Url) : Decidable (IsChallenge u) := decidable_of_iff _ isChallenge_iff.symm

/-- What the parser reads of a domain: neither tabs and line breaks nor slashes in front. -/
def written (domain : String) : List Char :=
  (Url.unbroken domain.toList).dropWhile (Url.isSlash true)

/-- A text that is a host and nothing else, as far as the parser can tell. An empty userinfo, a port
that is the default and a path that leads back to the root go for nothing. -/
structure IsHostText (text : List Char) : Prop where
  ne_nil : text ≠ []
  plain : ∀ c ∈ text, isQueryOrFragment c = false
  root : (readPathStart .web (behindAuthority true text ++ ['/'])).1 = .rooted [""]
  userinfo : '@' ∉ authorityOf true text ∨
    ∃ host, '@' ∉ host ∧
      (authorityOf true text = '@' :: host ∨ authorityOf true text = ':' :: '@' :: host)
  port : ∀ front digits port, authorityOf true text = front ++ ':' :: digits →
    Decimal.readDigits? digits = some port → port = 80

theorem isBehind_challenge (h : Url.IsBehind true behind) :
    Url.IsBehind true (behind ++ challengePath.toList) := by
  cases behind with
  | nil =>
      intro c hc
      cases hc
      rfl
  | cons d behind => exact h

theorem readPath_challenge (segments : List (List Char)) :
    (Url.readPath .web segments (challengePath.toList.drop 1)).1.chars =
      segments.flatMap (fun s => '/' :: s) ++ challengePath.toList := by
  have hread : (Url.readPath .web segments (challengePath.toList.drop 1)).1 =
      .rooted ((segments ++ [".well-known".toList] ++ ["acme-challenge".toList] ++
        ["letsdebug-test".toList]).map String.ofList) := rfl
  simp only [hread, Url.Path.chars, List.flatMap_map, String.toList_ofList, List.flatMap_append,
    List.append_assoc]
  rfl

theorem path_eq_challenge_iff (ht : Url.IsBehind true behind)
    (hq : ∀ c ∈ behind, isQueryOrFragment c = false) :
    (readPathStart .web (behind ++ challengePath.toList)).1.chars = challengePath.toList ↔
      (readPathStart .web (behind ++ ['/'])).1 = .rooted [""] := by
  obtain ⟨segments, hsegments⟩ := Url.readPathStart_append_slash ht hq
  have hsplit : challengePath.toList = '/' :: challengePath.toList.drop 1 := rfl
  have hpath : segments.flatMap (fun s => '/' :: s) ++ challengePath.toList =
      challengePath.toList ↔ segments = [] := by
    rw [List.append_left_eq_self, List.flatMap_eq_nil_iff, List.eq_nil_iff_forall_not_mem]
    simp only [List.cons_ne_nil, imp_false]
  have hroot : Url.Path.rooted ((segments ++ [[]]).map String.ofList) = .rooted [""] ↔
      segments = [] := by
    rw [List.map_append, Url.Path.rooted.injEq]
    exact List.append_left_eq_self.trans List.map_eq_nil_iff
  rw [hsegments, Url.readPath_nil, hroot, ← hpath, ← readPath_challenge, ← hsegments, ← hsplit]

theorem startUrl_of_slashes (h : written domain = []) :
    startUrl domain = .ok ⟨"http", some { host := some (.name ".well-known") },
      .rooted ["acme-challenge", "letsdebug-test"], none, none⟩ := by
  rw [startUrl_eq, List.dropWhile_append, ← written, h]
  decide +kernel

theorem startUrl_of_text (h : written domain ≠ []) :
    startUrl domain = Url.afterDoubleSlash "http" (authorityOf true (written domain) ++
      (behindAuthority true (written domain) ++ challengePath.toList)) := by
  rw [startUrl_eq, List.dropWhile_append, ← written, if_neg (by simpa using h),
    ← List.append_assoc, Url.authorityOf_append_behind]

theorem plain_behind_iff (text : List Char) :
    (∀ c ∈ behindAuthority true text ++ challengePath.toList, isQueryOrFragment c = false) ↔
      ∀ c ∈ text, isQueryOrFragment c = false := by
  have hall : challengePath.toList.all (fun c => !isQueryOrFragment c) = true := rfl
  have hpath : ∀ c ∈ challengePath.toList, isQueryOrFragment c = false := fun c hc => by
    simpa using List.all_eq_true.1 hall c hc
  have hauthority : ∀ c ∈ authorityOf true text, isQueryOrFragment c = false := fun c hc =>
    (Bool.or_eq_false_iff.1 (Url.not_isAuthorityEnd_authorityOf c hc)).2
  conv_rhs => rw [← Url.authorityOf_append_behind true text]
  rw [List.forall_mem_append, List.forall_mem_append]
  exact ⟨fun h => ⟨hauthority, h.1⟩, fun h => ⟨h.2, hpath⟩⟩

theorem query_fragment_none_iff (authority : Option Url.Authority) (cs : List Char) :
    let u := Url.assemble "http" authority (readPathStart .web cs)
    u.query = none ∧ u.fragment = none ↔ ∀ c ∈ cs, isQueryOrFragment c = false := by
  rw [← Url.readQueryFragment_eq_none_iff .web cs, ← Url.readPathStart_rest, Prod.ext_iff]
  rfl

theorem startUrl_isChallenge_iff (h : startUrl domain = .ok url) :
    IsChallenge url ↔ IsHostText (written domain) := by
  by_cases hne : written domain = []
  · rw [startUrl_of_slashes hne] at h
    cases h
    refine iff_of_false (fun hc => ?_) (fun ht => ht.ne_nil hne)
    exact absurd hc.path (by decide)
  · rw [startUrl_of_text hne] at h
    obtain ⟨authority, rest, hread, rfl⟩ := Url.afterDoubleSlash_eq_assemble h
    have hbehind := Url.behindAuthority_isBehind true (written domain)
    obtain ⟨rfl, host, hparts⟩ := Url.readAuthority_hasParts (by decide)
      Url.not_isAuthorityEnd_authorityOf (isBehind_challenge hbehind) hread
    have hplain := (query_fragment_none_iff (some authority) _).trans
      (plain_behind_iff (written domain))
    have hpath (hq : ∀ c ∈ written domain, isQueryOrFragment c = false) :=
      path_eq_challenge_iff hbehind
        (List.forall_mem_append.1 ((plain_behind_iff (written domain)).2 hq)).1
    have hpair : some (authority.username, authority.password) = some ("", "") ↔
        authority.username = "" ∧ authority.password = "" := by
      rw [Option.some.injEq, Prod.mk.injEq]
    have hempty := hpair.trans hparts.userinfo_eq_empty_iff
    constructor
    · intro hc
      have hq := hplain.1 ⟨hc.query, hc.fragment⟩
      refine ⟨hne, hq, (hpath hq).1 hc.path, hempty.1 hc.userinfo, ?_⟩
      intro front digits port ha hdigits
      by_contra hport
      have hdefault : some 80 ≠ some port := fun h => hport (Option.some.inj h).symm
      have hsome : authority.port = some port :=
        hparts.port_eq_some_iff.2 ⟨front, digits, ha, hdigits, hdefault⟩
      rw [show authority.port = none from hc.port] at hsome
      cases hsome
    · intro ht
      obtain ⟨hquery, hfragment⟩ := hplain.2 ht.plain
      refine ⟨rfl, (hpath ht.plain).2 ht.root, hempty.2 ht.userinfo, ?_, hquery, hfragment⟩
      refine Option.eq_none_iff_forall_ne_some.2 fun port hsome => ?_
      obtain ⟨front, digits, ha, hdigits, hdefault⟩ := hparts.port_eq_some_iff.1 hsome
      obtain rfl := ht.port front digits port ha hdigits
      exact hdefault rfl

theorem isHostText_of_plain (hne : text ≠ []) (hplain : ∀ c ∈ text, isAuthorityEnd true c = false)
    (hat : '@' ∉ text) (hport : (dropEndWhile Char.isDigit text).getLast? ≠ some ':') :
    IsHostText text := by
  have hall : ∀ c ∈ text, (!isAuthorityEnd true c) = true := fun c hc => by rw [hplain c hc]; rfl
  have hauthority : authorityOf true text = text := List.takeWhile_eq_self_iff.2 hall
  have hbehind : behindAuthority true text = [] := List.dropWhile_eq_nil_iff.2 hall
  refine ⟨hne, fun c hc => (Bool.or_eq_false_iff.1 (hplain c hc)).2, ?_, .inl ?_, ?_⟩
  · rw [hbehind]
    rfl
  · rwa [hauthority]
  · intro front digits port ha hdigits
    have hdrop : dropEndWhile Char.isDigit text = front ++ [':'] := by
      rw [← hauthority, ha, List.append_cons, dropEndWhile_append List.getLast?_concat rfl,
        dropEndWhile_eq_nil (Decimal.isDigit_of_readDigits? hdigits), List.append_nil]
    rw [hdrop] at hport
    exact absurd List.getLast?_concat hport

/-- A check without a request reports an internal problem. The first request of any other is dialed
as plain HTTP, and with nothing but host and port exchanged. It asks for the challenge exactly if
what the parser reads of the domain is a host and nothing else, which any text is that does not have
the characters of other parts of a URL in it and no port at its end. -/
theorem check_first_request (peer : Client → Peer) (settings : Settings) (domain : String)
    (address : IpAddr) :
    let checked := check peer settings domain address
    (checked.exchanges = [] → ∃ detail, checked.finding = some
        ⟨"InternalProblem", "An internal error occurred while checking the domain", detail,
          .error⟩) ∧
      ∀ e, checked.exchanges.head? = some e →
        e.url.scheme = "http" ∧
        e.request.url.SameButHostPort e.url ∧
        (settings.port = 0 → e.request.url.port? = e.url.port?) ∧
        (IsChallenge e.url ↔ IsHostText (written domain)) ∧
        (written domain ≠ [] → (∀ c ∈ ['/', '\\', '?', '#', '@'], c ∉ written domain) →
          (dropEndWhile Char.isDigit (written domain)).getLast? ≠ some ':' →
            IsChallenge e.url) := by
  intro checked
  rcases check_cases peer settings domain address with ⟨detail, hc⟩ | ⟨start, client, hstart, -, hc⟩
  · refine ⟨fun _ => ⟨detail, congrArg Checked.finding hc⟩, fun e he => ?_⟩
    simp only [checked, hc] at he
    cases he
  · let pin : Pin := ⟨address.canonical, settings.port⟩
    have hrun := follow_run (peer client) pin settings.maxRedirects 0 start
    have hfirst : checked.exchanges.head? = some (exchangeAt (peer client) pin 0 start) := by
      simp only [checked, hc]
      rw [List.head?_eq_getElem?]
      exact hrun.getElem_zero
    have hiff := startUrl_isChallenge_iff hstart
    refine ⟨fun hnone => ?_, fun e he => ?_⟩
    · rw [hnone] at hfirst
      cases hfirst
    · rw [hfirst] at he
      cases he
      refine ⟨startUrl_scheme hstart, pin.apply_sameButHostPort start,
        fun hp => pin.port?_apply hp start, hiff, fun hne hchars hport => hiff.2 ?_⟩
      refine isHostText_of_plain hne (fun c hc => ?_) (hchars '@' (by decide)) hport
      refine Bool.eq_false_iff.2 fun hend => hchars c ?_ hc
      exact List.mem_append_left ['@'] (Url.mem_of_isAuthorityEnd hend)

/-- A slash in front and a tab are not read, and the colons of an address are no port. -/
theorem check_first_request_literal :
    let peer : Client → Peer := fun _ _ _ => .response ⟨200, []⟩
    let checked := check peer {} "/[2001:db8::\t1]" (.v4 (Ipv4.ofOctets [192, 0, 2, 1]))
    ∃ e, checked.exchanges.head? = some e ∧ IsChallenge e.url ∧
      e.url.text = "http://[2001:db8::1]/.well-known/acme-challenge/letsdebug-test" := by
  intro peer checked
  have hasked : checked.exchanges.head?.map (·.url.text) =
      some "http://[2001:db8::1]/.well-known/acme-challenge/letsdebug-test" := by
    decide +kernel
  obtain ⟨e, he, htext⟩ := Option.map_eq_some_iff.1 hasked
  obtain ⟨-, -, -, -, hplain⟩ := (check_first_request peer {} "/[2001:db8::\t1]" _).2 e he
  have hchars : ['/', '\\', '?', '#', '@'].all (· ∉ written "/[2001:db8::\t1]") = true := by
    decide +kernel
  refine ⟨e, he, hplain (by decide +kernel) (fun c hc => ?_) (by decide +kernel), htext⟩
  exact of_decide_eq_true (List.all_eq_true.1 hchars c hc)

/-- A path, a query, a port or a userinfo in the domain, or no domain at all, and the fetch goes
there without complaint. -/
theorem check_first_request_diverted :
    let peer : Client → Peer := fun _ _ _ => .response ⟨200, []⟩
    ∀ parts ∈ [("a.test/b", "http://a.test/b/.well-known/acme-challenge/letsdebug-test"),
        ("a.test?b", "http://a.test/?b/.well-known/acme-challenge/letsdebug-test"),
        ("a.test:81", "http://a.test:81/.well-known/acme-challenge/letsdebug-test"),
        ("u@a.test", "http://u@a.test/.well-known/acme-challenge/letsdebug-test"),
        ("", "http://.well-known/acme-challenge/letsdebug-test")],
      let checked := check peer {} parts.1 (.v4 (Ipv4.ofOctets [192, 0, 2, 1]))
      checked.finding = none ∧ checked.exchanges.map (·.url.text) = [parts.2] ∧
        ∀ e ∈ checked.exchanges, ¬IsChallenge e.url := by
  decide +kernel

end IssuanceCheck.Fetch
