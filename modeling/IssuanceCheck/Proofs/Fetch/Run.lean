import IssuanceCheck.Fetch.Follow
import IssuanceCheck.Proofs.Fetch.Redirect

namespace IssuanceCheck.Fetch

variable {peer : Peer} {pin : Pin} {max hop : Nat} {url : Url}

def exchangeAt (peer : Peer) (pin : Pin) (hop : Nat) (url : Url) : Exchange :=
  let request : Request := ⟨(pin.apply url).1, (pin.apply url).2⟩
  ⟨url, request, peer hop request⟩

@[simp] theorem exchangeAt_url : (exchangeAt peer pin hop url).url = url := rfl

inductive Course where
  | ends (ending : Ending)
  | leads (next : Target)

def Exchange.course (e : Exchange) : Course :=
  match e.reply with
  | .failure layers => .ends (.failed (.transport layers))
  | .silence => .ends .timedOut
  | .response r =>
      match r.target? e.url with
      | .error error => .ends (.failed error)
      | .ok none => .ends .completed
      | .ok (some next) => .leads next

def Course.allowed (max hop : Nat) : Course → Course
  | ends ending => ends ending
  | leads next =>
      match violation? next hop max with
      | some violation => ends (.failed (.redirect violation))
      | none => leads next

theorem course_eq_leads_iff {e : Exchange} {next : Target} :
    e.course = .leads next ↔ ∃ r, e.reply = .response r ∧ r.RedirectsTo e.url next := by
  rw [Exchange.course]
  cases e.reply with
  | failure layers => simp
  | silence => simp
  | response r =>
      cases ht : r.target? e.url with
      | error error => simp [← target?_eq_some_iff, ht]
      | ok target => cases target <;> simp [← target?_eq_some_iff, ht]

theorem course_ne_redirect (e : Exchange) (violation : Violation) :
    e.course ≠ .ends (.failed (.redirect violation)) := by
  rw [Exchange.course]
  cases e.reply with
  | failure layers => simp
  | silence => simp
  | response r =>
      cases ht : r.target? e.url with
      | error error =>
          obtain ⟨location, reason, rfl⟩ := target?_eq_error ht
          simp [ht]
      | ok target => cases target <;> simp [ht]

theorem Course.allowed_eq_leads_iff {course : Course} {next : Target} :
    course.allowed max hop = leads next ↔ course = leads next ∧ violation? next hop max = none := by
  cases course with
  | ends ending => simp [allowed]
  | leads target =>
      cases hv : violation? target hop max with
      | some violation =>
          simp only [allowed, hv, reduceCtorEq, leads.injEq, false_iff, not_and]
          rintro rfl
          simp [hv]
      | none =>
          simp only [allowed, hv, leads.injEq, iff_self_and]
          rintro rfl
          exact hv

/-- An exchange that sends a fetch on: its reply redirects, and the policy allows the target as that
of redirect number `hop`. -/
def Exchange.LeadsTo (e : Exchange) (max hop : Nat) (next : Url) : Prop :=
  ∃ r target, e.reply = .response r ∧ r.RedirectsTo e.url target ∧
    violation? target hop max = none ∧ target.url = next

theorem leadsTo_iff {e : Exchange} {next : Url} :
    e.LeadsTo max hop next ↔
      ∃ target, e.course.allowed max hop = .leads target ∧ target.url = next := by
  constructor
  · rintro ⟨r, target, hr, hto, hv, hu⟩
    exact ⟨target, Course.allowed_eq_leads_iff.2 ⟨course_eq_leads_iff.2 ⟨r, hr, hto⟩, hv⟩, hu⟩
  · rintro ⟨target, hc, hu⟩
    obtain ⟨hl, hv⟩ := Course.allowed_eq_leads_iff.1 hc
    obtain ⟨r, hr, hto⟩ := course_eq_leads_iff.1 hl
    exact ⟨r, target, hr, hto, hv, hu⟩

theorem Course.hop_le_of_allowed {course : Course} {next : Target}
    (h : course.allowed max hop = leads next) : hop ≤ max :=
  le_of_violation?_eq_none (allowed_eq_leads_iff.1 h).2

theorem follow_eq (peer : Peer) (pin : Pin) (max hop : Nat) (url : Url) :
    follow peer pin max hop url =
      match (exchangeAt peer pin hop url).course.allowed max (hop + 1) with
      | .ends ending => ⟨[exchangeAt peer pin hop url], ending⟩
      | .leads next =>
          let rest := follow peer pin max (hop + 1) next.url
          ⟨exchangeAt peer pin hop url :: rest.exchanges, rest.ending⟩ := by
  rw [follow]
  cases hr : peer hop ⟨(pin.apply url).1, (pin.apply url).2⟩ with
  | failure layers => simp [exchangeAt, Exchange.course, Course.allowed, hr]
  | silence => simp [exchangeAt, Exchange.course, Course.allowed, hr]
  | response r =>
      cases ht : r.target? url with
      | error e => simp [exchangeAt, Exchange.course, Course.allowed, hr, ht]
      | ok target =>
          cases target with
          | none => simp [exchangeAt, Exchange.course, Course.allowed, hr, ht]
          | some next =>
              cases hv : violation? next (hop + 1) max with
              | some violation =>
                  simp only [exchangeAt, Exchange.course, Course.allowed, hr, ht, hv]
                  split
                  next violation' hv' => rw [Option.some.inj (hv.symm.trans hv')]
                  next hv' => simp [hv] at hv'
              | none =>
                  simp only [exchangeAt, Exchange.course, Course.allowed, hr, ht, hv]
                  split
                  next violation hv' => simp [hv] at hv'
                  next => rfl

/-- A fetch from a URL, after `hop` redirects: one exchange after the other, as long as they lead to
allowed targets. -/
inductive Run (peer : Peer) (pin : Pin) (max : Nat) : Nat → Url → List Exchange → Ending → Prop
  | ends {hop url ending} :
      (exchangeAt peer pin hop url).course.allowed max (hop + 1) = .ends ending →
      Run peer pin max hop url [exchangeAt peer pin hop url] ending
  | leads {hop url next es ending} :
      (exchangeAt peer pin hop url).course.allowed max (hop + 1) = .leads next →
      Run peer pin max (hop + 1) next.url es ending →
      Run peer pin max hop url (exchangeAt peer pin hop url :: es) ending

theorem follow_run (peer : Peer) (pin : Pin) (max hop : Nat) (url : Url) :
    Run peer pin max hop url (follow peer pin max hop url).exchanges
      (follow peer pin max hop url).ending := by
  rw [follow_eq]
  cases hc : (exchangeAt peer pin hop url).course.allowed max (hop + 1) with
  | ends ending => exact .ends hc
  | leads next =>
      have := Course.hop_le_of_allowed hc
      exact .leads hc (follow_run peer pin max (hop + 1) next.url)
termination_by max - hop

variable {es : List Exchange} {ending : Ending}

theorem Run.eq_follow (h : Run peer pin max hop url es ending) :
    follow peer pin max hop url = ⟨es, ending⟩ := by
  induction h with
  | ends hc => rw [follow_eq, hc]
  | leads hc _ ih =>
      rw [follow_eq, hc]
      simp only [ih]

theorem Run.length_le (h : Run peer pin max hop url es ending) : es.length ≤ max - hop + 1 := by
  induction h with
  | ends => simp
  | leads hc _ ih =>
      have := Course.hop_le_of_allowed hc
      rw [List.length_cons]
      omega

theorem Run.getElem_zero (h : Run peer pin max hop url es ending) :
    es[0]? = some (exchangeAt peer pin hop url) := by
  cases h <;> rfl

theorem Run.drop (h : Run peer pin max hop url es ending) {i : Nat} {e : Exchange}
    (he : es[i]? = some e) : Run peer pin max (hop + i) e.url (es.drop i) ending := by
  induction i generalizing hop url es with
  | zero =>
      obtain rfl : exchangeAt peer pin hop url = e := Option.some.inj (h.getElem_zero.symm.trans he)
      exact h
  | succ i ih =>
      cases h with
      | ends hc => simp at he
      | leads hc rest =>
          rw [Nat.add_comm i 1, ← Nat.add_assoc, Nat.add_comm 1 i]
          exact ih rest (by simpa using he)

theorem Run.exists_front (h : Run peer pin max hop url es ending) :
    ∃ front last, es = front ++ [last] ∧ (∀ e ∈ front, ∃ r, e.reply = .response r) ∧
      last.course.allowed max (hop + front.length + 1) = .ends ending := by
  induction h with
  | ends hc => exact ⟨[], _, rfl, by simp, hc⟩
  | @leads hop url next es ending hc _ ih =>
      obtain ⟨front, last, rfl, hfront, hlast⟩ := ih
      obtain ⟨r, hr, -⟩ := course_eq_leads_iff.1 (Course.allowed_eq_leads_iff.1 hc).1
      refine ⟨exchangeAt peer pin hop url :: front, last, rfl, fun e he => ?_, ?_⟩
      · rcases List.mem_cons.1 he with rfl | he
        · exact ⟨r, hr⟩
        · exact hfront e he
      · rwa [List.length_cons, Nat.add_comm front.length, ← Nat.add_assoc]

variable {i : Nat} {e a b : Exchange}

theorem Run.getElem_eq (h : Run peer pin max hop url es ending) (he : es[i]? = some e) :
    e = exchangeAt peer pin (hop + i) e.url := by
  have hd := (h.drop he).getElem_zero
  rw [List.getElem?_drop, Nat.add_zero, he] at hd
  exact Option.some.inj hd

theorem Run.length_of_ends (h : Run peer pin max hop url es ending) (he : es[i]? = some e)
    {stop : Ending} (hc : e.course.allowed max (hop + i + 1) = .ends stop) :
    es.length = i + 1 ∧ ending = stop := by
  have hi : i < es.length := (List.getElem?_eq_some_iff.1 he).1
  have hd := h.drop he
  rw [h.getElem_eq he] at hc
  generalize hes : es.drop i = tail at hd
  have hl : tail.length = es.length - i := by rw [← hes, List.length_drop]
  cases hd with
  | ends hc' =>
      rw [hc] at hc'
      cases hc'
      exact ⟨by simp only [List.length_singleton] at hl; omega, rfl⟩
  | leads hc' rest =>
      rw [hc] at hc'
      cases hc'

theorem Run.getElem_succ_of_leadsTo (h : Run peer pin max hop url es ending) (he : es[i]? = some e)
    {next : Url} (hl : e.LeadsTo max (hop + i + 1) next) :
    ∃ e', es[i + 1]? = some e' ∧ e'.url = next := by
  obtain ⟨target, hc, rfl⟩ := leadsTo_iff.1 hl
  have hd := h.drop he
  rw [h.getElem_eq he] at hc
  rw [show es[i + 1]? = (es.drop i)[1]? by rw [List.getElem?_drop]]
  generalize es.drop i = tail at hd
  cases hd with
  | ends hc' =>
      rw [hc] at hc'
      cases hc'
  | leads hc' rest =>
      rw [hc] at hc'
      cases hc'
      exact ⟨_, rest.getElem_zero, rfl⟩

theorem Run.leadsTo_of_getElem_succ (h : Run peer pin max hop url es ending)
    (ha : es[i]? = some a) (hb : es[i + 1]? = some b) : a.LeadsTo max (hop + i + 1) b.url := by
  cases hc : a.course.allowed max (hop + i + 1) with
  | ends stop =>
      have hl := (h.length_of_ends ha hc).1
      have hi := (List.getElem?_eq_some_iff.1 hb).1
      omega
  | leads target =>
      have hl : a.LeadsTo max (hop + i + 1) target.url := leadsTo_iff.2 ⟨target, hc, rfl⟩
      obtain ⟨b', hb', hu⟩ := h.getElem_succ_of_leadsTo ha hl
      obtain rfl : b = b' := Option.some.inj (hb.symm.trans hb')
      rwa [hu]

theorem Run.forall_url (h : Run peer pin max hop url es ending) {P : Url → Prop} (hu : P url)
    (hnext : ∀ (e : Exchange) hop next, P e.url → e.LeadsTo max hop next → P next) :
    ∀ e ∈ es, P e.url := by
  induction h with
  | ends => simpa using hu
  | leads hc _ ih =>
      intro e he
      rcases List.mem_cons.1 he with rfl | he
      · exact hu
      · exact ih (hnext _ _ _ hu (leadsTo_iff.2 ⟨_, hc, rfl⟩)) e he

theorem Run.lt_length_iff (h : Run peer pin max hop url es ending) :
    i < es.length ↔ ∀ k < i, ∃ e next, es[k]? = some e ∧ e.LeadsTo max (hop + k + 1) next := by
  constructor
  · intro hi k hk
    have ha := List.getElem?_eq_getElem (show k < es.length by omega)
    have hb := List.getElem?_eq_getElem (show k + 1 < es.length by omega)
    exact ⟨_, _, ha, h.leadsTo_of_getElem_succ ha hb⟩
  · intro hall
    cases i with
    | zero => exact (List.getElem?_eq_some_iff.1 h.getElem_zero).1
    | succ i =>
        obtain ⟨e, next, he, hl⟩ := hall i (Nat.lt_succ_self i)
        obtain ⟨e', he', _⟩ := h.getElem_succ_of_leadsTo he hl
        exact (List.getElem?_eq_some_iff.1 he').1

theorem Run.congr {peer' : Peer} (h : Run peer pin max hop url es ending)
    (hp : ∀ i e, es[i]? = some e → peer' (hop + i) e.request = e.reply) :
    Run peer' pin max hop url es ending := by
  have hx (hop : Nat) (url : Url) (he : peer' hop (exchangeAt peer pin hop url).request =
      (exchangeAt peer pin hop url).reply) :
      exchangeAt peer pin hop url = exchangeAt peer' pin hop url := by
    unfold exchangeAt at he ⊢
    simpa using he.symm
  induction h with
  | @ends hop url ending hc =>
      rw [hx hop url (hp 0 _ rfl)] at hc ⊢
      exact .ends hc
  | @leads hop url next es ending hc _ ih =>
      rw [hx hop url (hp 0 _ rfl)] at hc ⊢
      refine .leads hc (ih fun i e he => ?_)
      have := hp (i + 1) e (by simpa using he)
      rwa [Nat.add_comm i 1, ← Nat.add_assoc] at this

end IssuanceCheck.Fetch
