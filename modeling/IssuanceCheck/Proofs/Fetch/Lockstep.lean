import IssuanceCheck.Proofs.Fetch.Dial
import IssuanceCheck.Proofs.Fetch.Run
import Mathlib.Data.List.Forall2

namespace IssuanceCheck.Fetch

variable {peer peer' : Peer} {pin pin' : Pin} {max hop : Nat} {url : Url} {es es' : List Exchange}
  {ending ending' : Ending}

/-- Replies that are the same, except that the error of a connection may name what was dialed. -/
inductive Reply.Alike : Reply → Reply → Prop
  | response (r : Response) : Alike (.response r) (.response r)
  | failure (layers layers' : List String) : Alike (.failure layers) (.failure layers')
  | silence : Alike .silence .silence

inductive Ending.Alike : Ending → Ending → Prop
  | same (ending : Ending) : Alike ending ending
  | transport (layers layers' : List String) :
      Alike (.failed (.transport layers)) (.failed (.transport layers'))

/-- Exchanges for one URL with the same host announced and replies alike. Only the host and the port
that are dialed may differ. -/
structure Exchange.Alike (e e' : Exchange) : Prop where
  url : e.url = e'.url
  host : e.request.host = e'.request.host
  dialed : e.request.url.SameButHostPort e'.request.url
  reply : e.reply.Alike e'.reply

inductive Course.Alike : Course → Course → Prop
  | ends {ending ending' : Ending} (h : ending.Alike ending') : Alike (.ends ending) (.ends ending')
  | leads (next : Target) : Alike (.leads next) (.leads next)

/-- Two peers that reply alike to requests of the same number, whatever is asked for. -/
def Peer.Alike (peer peer' : Peer) : Prop :=
  ∀ i request request', (peer i request).Alike (peer' i request')

theorem exchangeAt_alike (hp : peer.Alike peer') (pin pin' : Pin) (hop : Nat) (url : Url) :
    (exchangeAt peer pin hop url).Alike (exchangeAt peer' pin' hop url) :=
  ⟨rfl, pin.apply_host pin' url,
    (pin.apply_sameButHostPort url).trans (pin'.apply_sameButHostPort url).symm, hp hop _ _⟩

theorem Exchange.Alike.course {e e' : Exchange} (h : e.Alike e') : e.course.Alike e'.course := by
  obtain ⟨hu, _, _, hr⟩ := h
  rw [Exchange.course, Exchange.course, ← hu]
  generalize e.reply = reply, e'.reply = reply' at hr
  cases hr with
  | response r =>
      dsimp only
      split
      · exact .ends (.same _)
      · exact .ends (.same _)
      · exact .leads _
  | failure layers layers' => exact .ends (.transport layers layers')
  | silence => exact .ends (.same _)

theorem Course.Alike.allowed {course course' : Course} (h : course.Alike course') (max hop : Nat) :
    (course.allowed max hop).Alike (course'.allowed max hop) := by
  cases h with
  | ends h => exact .ends h
  | leads next =>
      rw [Course.allowed]
      split
      · exact .ends (.same _)
      · exact .leads next

theorem Run.alike (hp : peer.Alike peer') (h : Run peer pin max hop url es ending)
    (h' : Run peer' pin' max hop url es' ending') :
    List.Forall₂ Exchange.Alike es es' ∧ ending.Alike ending' := by
  induction h generalizing es' with
  | @ends hop url ending hc =>
      have he := exchangeAt_alike hp pin pin' hop url
      have hcourse := he.course.allowed max (hop + 1)
      rw [hc] at hcourse
      cases h' with
      | ends hc' =>
          rw [hc'] at hcourse
          cases hcourse with
          | ends halike => exact ⟨.cons he .nil, halike⟩
      | leads hc' _ =>
          rw [hc'] at hcourse
          cases hcourse
  | @leads hop url next es ending hc _ ih =>
      -- Courses that are alike lead to the same target, so the rests of both runs start at one URL.
      have he := exchangeAt_alike hp pin pin' hop url
      have hcourse := he.course.allowed max (hop + 1)
      rw [hc] at hcourse
      cases h' with
      | ends hc' =>
          rw [hc'] at hcourse
          cases hcourse
      | leads hc' rest' =>
          rw [hc'] at hcourse
          cases hcourse
          obtain ⟨hes, hending⟩ := ih rest'
          exact ⟨.cons he hes, hending⟩

theorem Reply.Alike.response? {reply reply' : Reply} (h : reply.Alike reply') :
    reply.response? = reply'.response? := by
  cases h <;> rfl

theorem map_eq_of_alike {α : Type} {f : Exchange → α} (h : List.Forall₂ Exchange.Alike es es')
    (hf : ∀ e e', e.Alike e' → f e = f e') : es.map f = es'.map f := by
  induction h with
  | nil => rfl
  | cons he _ ih => rw [List.map_cons, List.map_cons, hf _ _ he, ih]

theorem lastResponse?_of_alike (h : List.Forall₂ Exchange.Alike es es') :
    lastResponse? es = lastResponse? es' := by
  have hmap (es : List Exchange) : es.filterMap (·.reply.response?) =
      (es.map (·.reply.response?)).filterMap id := by
    simp [List.filterMap_map]
  rw [lastResponse?, lastResponse?, hmap es, hmap es',
    map_eq_of_alike h fun _ _ he => he.reply.response?]

/-- What a fetch asks for, announces, observes and ends with does not depend on where its
connections are pinned to. Only the host and the port that are dialed do. -/
theorem follow_ignores_pin (hp : peer.Alike peer') (pin pin' : Pin) (max : Nat) (start : Url) :
    let journey := follow peer pin max 0 start
    let journey' := follow peer' pin' max 0 start
    journey.exchanges.map (·.url) = journey'.exchanges.map (·.url) ∧
      journey.exchanges.map (·.request.host) = journey'.exchanges.map (·.request.host) ∧
      List.Forall₂ (fun e e' => e.request.url.SameButHostPort e'.request.url)
        journey.exchanges journey'.exchanges ∧
      (∀ ip, Observation.ofExchanges ip journey.exchanges =
        Observation.ofExchanges ip journey'.exchanges) ∧
      journey.ending.Alike journey'.ending := by
  intro journey journey'
  obtain ⟨hes, hending⟩ : List.Forall₂ Exchange.Alike journey.exchanges journey'.exchanges ∧
      journey.ending.Alike journey'.ending :=
    (follow_run peer pin max 0 start).alike hp (follow_run peer' pin' max 0 start)
  refine ⟨map_eq_of_alike hes fun _ _ he => he.url, map_eq_of_alike hes fun _ _ he => he.host,
    hes.imp fun _ _ he => he.dialed, fun ip => ?_, hending⟩
  rw [Observation.ofExchanges_eq, Observation.ofExchanges_eq, lastResponse?_of_alike hes]

/-- A relative redirect behind an address that is not the pinned one. The error that comes last
names what was dialed. -/
theorem follow_ignores_pin_relative_redirect :
    let peer : Peer := fun i request =>
      if i = 0 then .response ⟨302, [⟨"Location", Text.encodeUtf8 "//198.51.100.9/a".toList⟩]⟩
      else if i = 1 then .response ⟨301, [⟨"Location", Text.encodeUtf8 ['b']⟩]⟩
      else .failure [request.url.text]
    let start : Url :=
      { scheme := "http", authority := some { host := some (.name "a.test") }, path := .rooted [""] }
    let journey := follow peer ⟨.v4 (Ipv4.ofOctets [192, 0, 2, 1]), 0⟩ 10 0 start
    let journey' := follow peer ⟨.v4 (Ipv4.ofOctets [127, 0, 0, 1]), 8080⟩ 10 0 start
    peer.Alike peer ∧
      journey.exchanges.map (·.url.text) =
        ["http://a.test/", "http://198.51.100.9/a", "http://198.51.100.9/b"] ∧
      journey.ending = .failed (.transport ["http://192.0.2.1/b"]) ∧
      journey'.exchanges.map (·.url) = journey.exchanges.map (·.url) ∧
      journey.ending.Alike journey'.ending := by
  intro peer start journey journey'
  have hp : peer.Alike peer := by
    intro i request request'
    dsimp only [peer]
    split
    · exact .response _
    · split
      · exact .response _
      · exact .failure _ _
  obtain ⟨hurls, _, _, _, hending⟩ := follow_ignores_pin hp
    ⟨.v4 (Ipv4.ofOctets [192, 0, 2, 1]), 0⟩ ⟨.v4 (Ipv4.ofOctets [127, 0, 0, 1]), 8080⟩ 10 start
  exact ⟨hp, by decide +kernel, by decide +kernel, hurls.symm, hending⟩

end IssuanceCheck.Fetch
