import IssuanceCheck.Proofs.Fetch.Findings
import IssuanceCheck.Proofs.Fetch.Run

namespace IssuanceCheck.Fetch

variable {peer : Peer} {pin : Pin} {max hop : Nat} {url : Url} {es : List Exchange}
  {ending : Ending} {e : Exchange} {r : Response}

theorem target?_eq_none_iff (r : Response) (current : Url) : r.target? current = .ok none ↔
    r.status ∉ [301, 302, 303, 307, 308] ∨ Header.find? r.headers "location" = none := by
  rw [Response.target?, redirectStatuses]
  by_cases hs : r.status ∈ [301, 302, 303, 307, 308]
  · rw [if_neg (not_not_intro hs)]
    simp only [hs, not_true_eq_false, false_or]
    cases hl : Header.find? r.headers "location" with
    | none => simp
    | some location =>
        cases ht : location.text? with
        | none => simp [ht]
        | some text => cases hr : Target.resolve current text <;> simp [ht, hr]
  · rw [if_pos hs]
    exact iff_of_true rfl (.inl hs)

theorem course_eq_completed_iff : e.course = .ends .completed ↔ ∃ r, e.reply = .response r ∧
    (r.status ∉ [301, 302, 303, 307, 308] ∨ Header.find? r.headers "location" = none) := by
  have hstop (r : Response) := target?_eq_none_iff r e.url
  simp only [← hstop]
  rw [Exchange.course]
  cases e.reply with
  | failure layers => simp
  | silence => simp
  | response r =>
      cases ht : r.target? e.url with
      | error error => simp [ht]
      | ok target => cases target <;> simp [ht]

theorem Course.allowed_eq_completed_iff {course : Course} :
    course.allowed max hop = .ends .completed ↔ course = .ends .completed := by
  cases course with
  | ends ending => rfl
  | leads next => cases hv : violation? next hop max <;> simp [allowed, hv]

theorem Run.completed_iff (h : Run peer pin max hop url es ending) :
    ending = .completed ↔ ∃ front last r, es = front ++ [last] ∧ last.reply = .response r ∧
      (r.status ∉ [301, 302, 303, 307, 308] ∨ Header.find? r.headers "location" = none) := by
  obtain ⟨front, last, rfl, -, hlast⟩ := h.exists_front
  have hiff : ending = .completed ↔ last.course = .ends .completed := by
    rw [← Course.allowed_eq_completed_iff, hlast, Course.ends.injEq]
  rw [hiff, course_eq_completed_iff]
  constructor
  · rintro ⟨r, hr, hstop⟩
    exact ⟨front, last, r, rfl, hr, hstop⟩
  · rintro ⟨front', last', r, heq, hr, hstop⟩
    obtain ⟨-, hlast'⟩ := List.append_inj' heq rfl
    cases hlast'
    exact ⟨r, hr, hstop⟩

theorem server?_eq_some_iff {text : String} : r.server? = some text ↔
    ∃ header, Header.find? r.headers "server" = some header ∧
      (∀ b ∈ header.value, (0x20 ≤ b ∧ b ≤ 0x7E) ∨ b = 9) ∧
      text.toList = header.value.map fun b => Char.ofNat b.toNat := by
  rw [Response.server?, Option.bind_eq_some_iff]
  refine exists_congr fun header => and_congr_right fun _ => ?_
  have htext : header.value.all isTextByte = true ↔
      ∀ b ∈ header.value, (0x20 ≤ b ∧ b ≤ 0x7E) ∨ b = 9 := by
    simp [List.all_eq_true, isTextByte]
  rw [Header.text?, ← htext]
  split
  next h => simp [h, ← String.toList_inj, eq_comm]
  next h => simp [h]

namespace Observation

variable {o : Observation}

/-- That an observation is the one of a response. The server is known from the first header of its
name, and only if that is visible ASCII, with blanks and tabs. -/
structure Describes (o : Observation) (r : Response) : Prop where
  status : o.status = some r.status
  server : ∀ text, o.server = some text ↔
    ∃ header, Header.find? r.headers "server" = some header ∧
      (∀ b ∈ header.value, (0x20 ≤ b ∧ b ≤ 0x7E) ∨ b = 9) ∧
      text.toList = header.value.map fun b => Char.ofNat b.toNat

theorem record_describes (o : Observation) (r : Response) : (o.record r).Describes r :=
  ⟨rfl, fun _ => server?_eq_some_iff⟩

end Observation

theorem lastResponse?_eq_none (h : ∀ e ∈ es, e.reply.response? = none) :
    lastResponse? es = none := by
  rw [lastResponse?, List.filterMap_eq_nil_iff.2 h]
  rfl

theorem lastResponse?_append_cons {front back : List Exchange} (hr : e.reply = .response r)
    (hback : ∀ later ∈ back, later.reply.response? = none) :
    lastResponse? (front ++ e :: back) = some r := by
  have he : (e :: back).filterMap (·.reply.response?) = [r] := by
    rw [List.filterMap_cons, hr, List.filterMap_eq_nil_iff.2 hback]
    rfl
  rw [lastResponse?, List.filterMap_append, he, List.getLast?_concat]

theorem Journey.error?_eq_none_iff {j : Journey} {start : Url} {timeout : Duration} :
    j.error? start timeout = none ↔ j.ending = .completed := by
  rw [error?]
  cases j.ending <;> simp

theorem check_observation (peer : Client → Peer) (settings : Settings) (domain : String)
    (address : IpAddr) :
    (check peer settings domain address).observation =
      .ofExchanges address.canonical (check peer settings domain address).exchanges := by
  rcases check_cases peer settings domain address with ⟨detail, hc⟩ | ⟨start, client, -, -, hc⟩
  · rw [hc]
    rfl
  · rw [hc]

theorem check_completed_iff (peer : Client → Peer) (settings : Settings) (domain : String)
    (address : IpAddr) :
    (check peer settings domain address).finding = none ↔
      ∃ front last r, (check peer settings domain address).exchanges = front ++ [last] ∧
        last.reply = .response r ∧
        (r.status ∉ [301, 302, 303, 307, 308] ∨ Header.find? r.headers "location" = none) := by
  rcases check_cases peer settings domain address with ⟨detail, hc⟩ | ⟨start, client, -, -, hc⟩
  · rw [hc]
    simp
  · rw [hc, Option.map_eq_none_iff, Journey.error?_eq_none_iff]
    exact (follow_run (peer client) _ settings.maxRedirects 0 start).completed_iff

theorem check_reply {peer : Client → Peer} {settings : Settings} {domain : String}
    {address : IpAddr} {i : Nat}
    (he : (check peer settings domain address).exchanges[i]? = some e) :
    ∃ client, Client.init settings address.canonical = .ok client ∧
      e.reply = peer client i e.request := by
  rcases check_cases peer settings domain address with ⟨detail, hc⟩ | ⟨start, client, -, hi, hc⟩
  · rw [hc] at he
    cases he
  · rw [hc] at he
    refine ⟨client, hi, ?_⟩
    rw [(follow_run (peer client) _ settings.maxRedirects 0 start).getElem_eq he, Nat.zero_add]
    rfl

/-- However a check ends, what it has observed is the last response that its peer gave, with nothing
of the responses before it. There is no finding exactly if that response was the end of the fetch
and redirects nowhere. -/
theorem check_observes_last_response (peer : Client → Peer) (settings : Settings)
    (domain : String) (address : IpAddr) :
    let checked := check peer settings domain address
    let es := checked.exchanges
    (∀ i e, es[i]? = some e → ∃ client, Client.init settings address.canonical = .ok client ∧
        e.reply = peer client i e.request) ∧
      checked.observation.ip = address.canonical ∧
      checked.observation = es.foldl Observation.after ⟨none, none, address.canonical⟩ ∧
      (∀ front e back r, es = front ++ e :: back → e.reply = .response r →
        (∀ later ∈ back, later.reply.response? = none) → checked.observation.Describes r) ∧
      ((∀ e ∈ es, e.reply.response? = none) →
        checked.observation.status = none ∧ checked.observation.server = none) ∧
      (checked.finding = none ↔ ∃ front last r, es = front ++ [last] ∧ last.reply = .response r ∧
        (r.status ∉ [301, 302, 303, 307, 308] ∨ Header.find? r.headers "location" = none)) := by
  intro checked es
  have hfold : checked.observation = es.foldl Observation.after (.unseen address.canonical) :=
    check_observation peer settings domain address
  refine ⟨fun _ _ => check_reply, check_ip peer settings domain address, hfold, ?_, ?_,
    check_completed_iff peer settings domain address⟩
  · intro front e back r hes hr hback
    rw [hfold, Observation.foldl_after, hes, lastResponse?_append_cons hr hback]
    exact Observation.record_describes _ r
  · intro hnone
    rw [hfold, Observation.foldl_after, lastResponse?_eq_none hnone]
    exact ⟨rfl, rfl⟩

/-- A redirect that is refused, behind one that was followed and had a server. -/
theorem check_observes_last_response_refused :
    let refused : Response := ⟨301, [⟨"Location", Text.encodeUtf8 "ftp://a.test/".toList⟩]⟩
    let peer : Client → Peer := fun _ i _ =>
      if i = 0 then
        .response ⟨302, [⟨"Server", Text.encodeUtf8 "nginx".toList⟩,
          ⟨"Location", Text.encodeUtf8 ['/']⟩]⟩
      else .response refused
    let checked := check peer {} "a.test" (.v4 ⟨0⟩)
    checked.exchanges.map (·.url.text) =
        ["http://a.test/.well-known/acme-challenge/letsdebug-test", "http://a.test/"] ∧
      checked.observation.Describes refused ∧ checked.observation.server = none ∧
      checked.finding.map (·.name) = some "BadRedirect" := by
  intro refused peer checked
  have hurls : checked.exchanges.map (·.url.text) =
      ["http://a.test/.well-known/acme-challenge/letsdebug-test", "http://a.test/"] := by
    decide +kernel
  obtain ⟨a, tail, hes, -, htail⟩ := List.map_eq_cons_iff.1 hurls
  obtain ⟨b, rfl, -⟩ := List.map_eq_singleton_iff.1 htail
  obtain ⟨hreply, -, -, hlast, -, -⟩ := check_observes_last_response peer {} "a.test" (.v4 ⟨0⟩)
  obtain ⟨client, -, hb⟩ := hreply 1 b (by rw [hes]; rfl)
  have hd : checked.observation.Describes refused := hlast [a] b [] refused hes hb (by simp)
  exact ⟨hurls, hd, by decide +kernel, by decide +kernel⟩

end IssuanceCheck.Fetch
