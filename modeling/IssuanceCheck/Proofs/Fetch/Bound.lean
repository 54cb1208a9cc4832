import IssuanceCheck.Proofs.Fetch.Run

namespace IssuanceCheck.Fetch

variable {peer : Peer} {pin : Pin} {max hop : Nat} {url : Url} {es : List Exchange}
  {ending : Ending}

theorem Run.counter (h : Run peer pin max 0 url es ending) {i : Nat} {e : Exchange}
    (he : es[i]? = some e) : Run peer pin max i e.url (es.drop i) ending ∧ i + 1 ≤ max + 1 := by
  have hi : i < es.length := (List.getElem?_eq_some_iff.1 he).1
  have hlen := h.length_le
  refine ⟨?_, by omega⟩
  have hd := h.drop he
  rwa [Nat.zero_add] at hd

theorem Run.exists_last (h : Run peer pin max hop url es ending) :
    ∃ i e, es.length = i + 1 ∧ es[i]? = some e ∧
      e.course.allowed max (hop + i + 1) = .ends ending := by
  obtain ⟨front, last, rfl, -, hc⟩ := h.exists_front
  exact ⟨front.length, last, by simp, by simp, hc⟩

theorem Course.eq_leads_of_tooManyRedirects {e : Exchange} {count : Nat} {text : String}
    (h : e.course.allowed max hop = .ends (.failed (.redirect (.tooManyRedirects count text)))) :
    ∃ target, e.course = .leads target ∧ max < hop ∧ count = hop - 1 ∧ text = target.url.text := by
  cases hc : e.course with
  | ends stop =>
      rw [hc] at h
      cases h
      exact absurd hc (course_ne_redirect e _)
  | leads target =>
      rw [hc] at h
      cases hv : violation? target hop max with
      | none => simp [Course.allowed, hv] at h
      | some violation =>
          obtain rfl : violation = .tooManyRedirects count text := by
            simpa [Course.allowed, hv] using h
          exact ⟨target, rfl, violation?_eq_tooManyRedirects_iff.1 hv⟩

theorem Run.tooManyRedirects_iff (h : Run peer pin max 0 url es ending) {count : Nat}
    {text : String} :
    ending = .failed (.redirect (.tooManyRedirects count text)) ↔
      count = max ∧ (∀ k < max, ∃ e next, es[k]? = some e ∧ e.LeadsTo max (k + 1) next) ∧
        ∃ e r target, es[max]? = some e ∧ e.reply = .response r ∧ r.RedirectsTo e.url target ∧
          text = target.url.text := by
  have hlt (i : Nat) := h.lt_length_iff (i := i)
  simp only [Nat.zero_add] at hlt
  constructor
  · rintro rfl
    obtain ⟨i, e, hi, he, hc⟩ := h.exists_last
    obtain ⟨target, hl, hm, hcount, htext⟩ := Course.eq_leads_of_tooManyRedirects hc
    obtain ⟨r, hr, hto⟩ := course_eq_leads_iff.1 hl
    have hlen := h.length_le
    obtain rfl : i = max := by omega
    exact ⟨by omega, (hlt i).1 (by omega), e, r, target, he, hr, hto, htext⟩
  · rintro ⟨rfl, _, e, r, target, he, hr, hto, rfl⟩
    refine (h.length_of_ends he ?_).2
    rw [course_eq_leads_iff.2 ⟨r, hr, hto⟩, Nat.zero_add]
    simp only [Course.allowed, violation?_eq_some_of_lt (Nat.lt_succ_self count)]
    rfl

/-- However long the peer goes on redirecting, a fetch sends at most one request more than it may
follow redirects, and one for each reply that sends it on. When it asks the policy, its counter is
above zero, so that it can be counted down, and within any machine word that the limit is below the
end of. Replies to requests that it does not send do not matter. -/
theorem follow_bounded (peer : Peer) (pin : Pin) (max : Nat) (start : Url) :
    let journey := follow peer pin max 0 start
    let es := journey.exchanges
    es.length ≤ max + 1 ∧
      (∀ i e, es[i]? = some e → e.reply = peer i e.request) ∧
      (∀ i, i < es.length ↔ ∀ k < i, ∃ e next, es[k]? = some e ∧ e.LeadsTo max (k + 1) next) ∧
      (∀ count text, journey.ending = .failed (.redirect (.tooManyRedirects count text)) ↔
        count = max ∧ (∀ k < max, ∃ e next, es[k]? = some e ∧ e.LeadsTo max (k + 1) next) ∧
          ∃ e r target, es[max]? = some e ∧ e.reply = .response r ∧
            r.RedirectsTo e.url target ∧ text = target.url.text) ∧
      (∀ i e, es[i]? = some e → Run peer pin max i e.url (es.drop i) journey.ending ∧
        i + 1 ≤ max + 1 ∧ (∀ limit, max < limit → i + 1 ≤ limit) ∧
        ∀ target count text, violation? target (i + 1) max = some (.tooManyRedirects count text) →
          (count : Int) = (i + 1 : Nat) - 1) ∧
      ∀ peer' : Peer, (∀ i e, es[i]? = some e → peer' i e.request = e.reply) →
        follow peer' pin max 0 start = journey := by
  intro journey es
  have h : Run peer pin max 0 start es journey.ending := follow_run peer pin max 0 start
  have hreply (i : Nat) (e : Exchange) (he : es[i]? = some e) : e.reply = peer i e.request := by
    rw [h.getElem_eq he, Nat.zero_add]
    rfl
  refine ⟨h.length_le, hreply, fun i => ?_, fun _ _ => h.tooManyRedirects_iff, fun i e he => ?_,
    fun peer' hp => ?_⟩
  · simpa only [Nat.zero_add] using h.lt_length_iff (i := i)
  · obtain ⟨hrun, hcounter⟩ := h.counter he
    refine ⟨hrun, hcounter, fun limit hl => by omega, fun target count text hv => ?_⟩
    obtain ⟨-, hcount, -⟩ := violation?_eq_tooManyRedirects_iff.1 hv
    omega
  · exact (h.congr fun i e he => by rw [Nat.zero_add, hp i e he]).eq_follow

example :
    let start : Url :=
      { scheme := "http", authority := some { host := some (.name "a.test") }, path := .rooted [""] }
    let peer : Peer := fun _ _ => .response ⟨302, [⟨"Location", Text.encodeUtf8 ['/']⟩]⟩
    let journey := follow peer ⟨.v4 ⟨0⟩, 0⟩ 2 0 start
    journey.exchanges.length = 3 ∧
      journey.ending = .failed (.redirect (.tooManyRedirects 2 "http://a.test/")) := by
  decide +kernel

end IssuanceCheck.Fetch
