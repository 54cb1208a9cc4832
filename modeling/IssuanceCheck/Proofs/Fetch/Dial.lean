import IssuanceCheck.Fetch.Pin

namespace IssuanceCheck

namespace Url

/-- Two URLs that are the same except for host and port. -/
structure SameButHostPort (u v : Url) : Prop where
  scheme : u.scheme = v.scheme
  userinfo : (u.authority.map fun a => (a.username, a.password)) =
    v.authority.map fun a => (a.username, a.password)
  path : u.path = v.path
  query : u.query = v.query
  fragment : u.fragment = v.fragment

variable {u v w : Url}

theorem SameButHostPort.refl (u : Url) : u.SameButHostPort u := ⟨rfl, rfl, rfl, rfl, rfl⟩

theorem SameButHostPort.symm (h : u.SameButHostPort v) : v.SameButHostPort u :=
  ⟨h.scheme.symm, h.userinfo.symm, h.path.symm, h.query.symm, h.fragment.symm⟩

theorem SameButHostPort.trans (h : u.SameButHostPort v) (h' : v.SameButHostPort w) :
    u.SameButHostPort w :=
  ⟨h.scheme.trans h'.scheme, h.userinfo.trans h'.userinfo, h.path.trans h'.path,
    h.query.trans h'.query, h.fragment.trans h'.fragment⟩

theorem withHost_sameButHostPort (u : Url) (host : Host) : (u.withHost host).SameButHostPort u :=
  ⟨rfl, by simp [withHost, Function.comp_def], rfl, rfl, rfl⟩

theorem withPort_sameButHostPort (u : Url) (port : Nat) : (u.withPort port).SameButHostPort u := by
  rw [withPort]
  split
  · exact ⟨rfl, by simp [Function.comp_def], rfl, rfl, rfl⟩
  · exact .refl u

theorem host?_withHost (h : u.host?.isSome) (host : Host) :
    (u.withHost host).host? = some host := by
  rw [host?, Option.isSome_bind] at h
  cases ha : u.authority with
  | none => simp [ha] at h
  | some authority => simp [withHost, host?, ha]

theorem port?_withHost (u : Url) (host : Host) : (u.withHost host).port? = u.port? := by
  cases ha : u.authority <;> simp [withHost, port?, ha]

theorem host?_withPort (u : Url) (port : Nat) : (u.withPort port).host? = u.host? := by
  rw [withPort]
  split
  · cases ha : u.authority <;> simp [host?, ha]
  · rfl

theorem Host.name_or_address (host : Host) :
    (∃ n, host = .name n) ∨ ∃ ip, host = Host.ofAddress ip := by
  cases host with
  | name n => exact .inl ⟨n, rfl⟩
  | ipv4 a => exact .inr ⟨.v4 a, rfl⟩
  | ipv6 a => exact .inr ⟨.v6 a, rfl⟩

theorem Host.ofAddress_ne_name (ip : IpAddr) (n : String) : Host.ofAddress ip ≠ .name n := by
  cases ip <;> simp [Host.ofAddress]

end Url

namespace Fetch

variable {url : Url} {ip : IpAddr}

theorem Pin.apply_of_not_address (pin : Pin) (h : ∀ ip, url.host? ≠ some (Url.Host.ofAddress ip)) :
    pin.apply url = (url, none) := by
  rw [apply]
  split
  next a ha => exact absurd ha (h (.v4 a))
  next a ha => exact absurd ha (h (.v6 a))
  next => rfl

/-- The host to announce for an address in a URL: the address as the URL has it, with the port that
is written there. -/
def announcement (ip : IpAddr) (port : Option Nat) : String :=
  match port with
  | some port => s!"{(Url.Host.ofAddress ip).text}:{port}"
  | none => (Url.Host.ofAddress ip).text

theorem Pin.apply_of_address (pin : Pin) (h : url.host? = some (Url.Host.ofAddress ip)) :
    pin.apply url =
      (if url.port? = none ∧ pin.port ≠ 0 then
          (url.withHost (Url.Host.ofAddress pin.ip)).withPort pin.port
        else url.withHost (Url.Host.ofAddress pin.ip),
        some (announcement ip url.port?)) := by
  cases ip <;> simp only [apply, h, Url.Host.ofAddress] <;> rfl

theorem Pin.apply_of_name (pin : Pin) {n : String} (h : url.host? = some (.name n)) :
    pin.apply url = (url, none) := by
  apply pin.apply_of_not_address
  intro ip hip
  rw [h] at hip
  exact Url.Host.ofAddress_ne_name ip n (Option.some.inj hip).symm

theorem Pin.host?_apply (pin : Pin) (h : url.host? = some (Url.Host.ofAddress ip)) :
    (pin.apply url).1.host? = some (Url.Host.ofAddress pin.ip) := by
  have hw := Url.host?_withHost (u := url) (by rw [h]; rfl) (Url.Host.ofAddress pin.ip)
  rw [pin.apply_of_address h]
  split
  · rw [Url.host?_withPort, hw]
  · exact hw

theorem Pin.port?_apply (pin : Pin) (h : pin.port = 0) (url : Url) :
    (pin.apply url).1.port? = url.port? := by
  by_cases ha : ∃ ip, url.host? = some (Url.Host.ofAddress ip)
  · obtain ⟨ip, ha⟩ := ha
    rw [pin.apply_of_address ha, if_neg fun hp => hp.2 h]
    exact Url.port?_withHost ..
  · rw [pin.apply_of_not_address (not_exists.1 ha)]

theorem Pin.apply_sameButHostPort (pin : Pin) (url : Url) :
    (pin.apply url).1.SameButHostPort url := by
  by_cases h : ∃ ip, url.host? = some (Url.Host.ofAddress ip)
  · obtain ⟨ip, h⟩ := h
    rw [pin.apply_of_address h]
    split
    · exact (Url.withPort_sameButHostPort ..).trans (Url.withHost_sameButHostPort ..)
    · exact Url.withHost_sameButHostPort ..
  · rw [pin.apply_of_not_address (not_exists.1 h)]
    exact .refl url

theorem Pin.apply_host (pin pin' : Pin) (url : Url) : (pin.apply url).2 = (pin'.apply url).2 := by
  by_cases h : ∃ ip, url.host? = some (Url.Host.ofAddress ip)
  · obtain ⟨ip, h⟩ := h
    rw [pin.apply_of_address h, pin'.apply_of_address h]
  · rw [pin.apply_of_not_address (not_exists.1 h), pin'.apply_of_not_address (not_exists.1 h)]

end Fetch

end IssuanceCheck
