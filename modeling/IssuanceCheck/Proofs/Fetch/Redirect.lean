import IssuanceCheck.Fetch.Response

namespace IssuanceCheck.Fetch

open Text

/-- A response that redirects: its status says so, and its first `Location` header is text that
resolves against the URL that was requested. -/
def Response.RedirectsTo (r : Response) (current : Url) (target : Target) : Prop :=
  r.status ∈ [301, 302, 303, 307, 308] ∧
    ∃ location text, Header.find? r.headers "location" = some location ∧
      location.text? = some text ∧ Target.resolve current text = .ok target

theorem target?_eq_some_iff {r : Response} {current : Url} {target : Target} :
    r.target? current = .ok (some target) ↔ r.RedirectsTo current target := by
  rw [Response.target?, Response.RedirectsTo, redirectStatuses]
  by_cases hs : r.status ∈ [301, 302, 303, 307, 308]
  · rw [if_neg (not_not_intro hs)]
    simp only [hs, true_and]
    cases hl : Header.find? r.headers "location" with
    | none => simp
    | some location =>
        cases ht : location.text? with
        | none => simp [ht]
        | some text => cases hr : Target.resolve current text <;> simp [ht, hr]
  · rw [if_pos hs]
    simp only [hs, false_and, iff_false]
    intro h
    cases h

theorem target?_eq_error {r : Response} {current : Url} {error : FetchError}
    (h : r.target? current = .error error) :
    ∃ location reason, error = .invalidLocation location reason := by
  rw [Response.target?] at h
  split at h
  · cases h
  · split at h
    · cases h
    · split at h
      · cases h
        exact ⟨_, _, rfl⟩
      · split at h
        · cases h
        · cases h
          exact ⟨_, _, rfl⟩

theorem resolve_eq_ok_iff {current : Url} {location : String} {target : Target} :
    Target.resolve current location = .ok target ↔
      ∃ url, current.join location = .ok url ∧
        target = ⟨url, url.port? <|> writtenPort? (trim location.toList)⟩ := by
  rw [Target.resolve]
  cases current.join location with
  | error e => simp [bind, Except.bind]
  | ok url => simp [bind, Except.bind, pure, Except.pure, eq_comm]

theorem explicitPort_of_resolve {current : Url} {location : String} {target : Target}
    (h : Target.resolve current location = .ok target) {port : Nat}
    (hp : target.url.port? = some port) : target.explicitPort = some port := by
  obtain ⟨url, _, rfl⟩ := resolve_eq_ok_iff.1 h
  simpa using .inl hp

theorem violation?_eq_none_iff {target : Target} {hop max : Nat} :
    violation? target hop max = none ↔
      hop ≤ max ∧ (∀ port, target.explicitPort = some port → port ∈ allowedPorts) ∧
        (target.url.scheme = "http" ∨ target.url.scheme = "https") ∧
        endsInWellKnown target.url = false := by
  rw [violation?]
  by_cases hm : max < hop
  · simp [hm, Nat.not_le.2 hm]
  · simp only [hm, if_false, Nat.not_lt.1 hm, true_and]
    cases hp : target.explicitPort.filter (· ∉ allowedPorts) with
    | some port =>
        obtain ⟨hport, hbad⟩ := Option.filter_eq_some_iff.1 hp
        simp only [reduceCtorEq, false_iff, not_and]
        intro hports
        exact absurd (hports port hport) (of_decide_eq_true hbad)
    | none =>
        have hports : ∀ port, target.explicitPort = some port → port ∈ allowedPorts := by
          simpa using Option.filter_eq_none_iff.1 hp
        by_cases hs : target.url.scheme = "http" ∨ target.url.scheme = "https"
        · have hn : ¬(target.url.scheme ≠ "http" ∧ target.url.scheme ≠ "https") :=
            fun h => hs.elim h.1 h.2
          cases hw : endsInWellKnown target.url with
          | true => simp [hn]
          | false => simpa [hn, hs] using hports
        · have hn : target.url.scheme ≠ "http" ∧ target.url.scheme ≠ "https" := not_or.1 hs
          simp [hn]

theorem violation?_eq_tooManyRedirects_iff {target : Target} {hop max count : Nat} {text : String} :
    violation? target hop max = some (.tooManyRedirects count text) ↔
      max < hop ∧ count = hop - 1 ∧ text = target.url.text := by
  by_cases hm : max < hop
  · rw [violation?_eq_some_of_lt hm]
    simp [hm, eq_comm]
  · rw [violation?]
    simp only [hm, if_false, false_and, iff_false]
    split
    · simp
    · split
      · simp
      · split <;> simp

theorem explicitPort_of_badPort {target : Target} {hop max port : Nat} {text : String}
    (h : violation? target hop max = some (.badPort text port)) :
    target.explicitPort = some port ∧ port ∉ allowedPorts := by
  rw [violation?] at h
  split at h
  · cases h
  · split at h
    next refused hp =>
      obtain ⟨hport, hbad⟩ := Option.filter_eq_some_iff.1 hp
      cases h
      exact ⟨hport, of_decide_eq_true hbad⟩
    next =>
      split at h
      · cases h
      · split at h <;> cases h

theorem effectivePort_of_allowed {r : Response} {current : Url} {target : Target}
    (h : r.RedirectsTo current target) {hop max : Nat} (hv : violation? target hop max = none) :
    target.url.effectivePort? = some 80 ∨ target.url.effectivePort? = some 443 := by
  obtain ⟨_, _, text, _, _, hr⟩ := h
  obtain ⟨_, hports, hscheme, _⟩ := violation?_eq_none_iff.1 hv
  rw [Url.effectivePort?]
  cases hp : target.url.port? with
  | some port =>
      have hport := hports port (explicitPort_of_resolve hr hp)
      simpa [allowedPorts] using hport
  | none => rcases hscheme with hs | hs <;> simp [Url.defaultPort?, hs]

theorem hostText_of_allowed {target : Target} {hop max : Nat}
    (hv : violation? target hop max = none) {host : String}
    (hh : target.url.hostText? = some host) : ¬".well-known".toList <:+ host.toList := by
  obtain ⟨_, _, _, hw⟩ := violation?_eq_none_iff.1 hv
  rw [endsInWellKnown, hh, Option.any_some] at hw
  exact fun hsuffix => Bool.false_ne_true (hw.symm.trans (List.isSuffixOf_iff_suffix.2 hsuffix))

end IssuanceCheck.Fetch
