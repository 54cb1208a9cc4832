import IssuanceCheck.Fetch.Check

namespace IssuanceCheck.Fetch

theorem FetchError.finding_severity (domain : String) (ip : IpAddr) (e : FetchError) :
    (e.finding domain ip).severity = .error := by
  fun_cases FetchError.finding domain ip e <;> rfl

variable {settings : Settings} {domain : String} {address : IpAddr}

theorem check_cases (peer : Client → Peer) (settings : Settings) (domain : String)
    (address : IpAddr) :
    (∃ detail, check peer settings domain address =
        ⟨.unseen address.canonical, some (Finding.internal detail .error), []⟩) ∨
      ∃ start client, startUrl domain = .ok start ∧
        Client.init settings address.canonical = .ok client ∧
        let journey :=
          follow (peer client) ⟨address.canonical, settings.port⟩ settings.maxRedirects 0 start
        check peer settings domain address =
          ⟨.ofExchanges address.canonical journey.exchanges,
            (journey.error? start settings.timeout).map (·.finding domain address.canonical),
            journey.exchanges⟩ := by
  rw [check]
  cases hstart : startUrl domain with
  | error e => exact .inl ⟨_, rfl⟩
  | ok start =>
      cases hclient : Client.init settings address.canonical with
      | error e => exact .inl ⟨_, rfl⟩
      | ok client => exact .inr ⟨start, client, rfl, rfl, rfl⟩

theorem check_severity {peer : Client → Peer} {f : Finding}
    (h : (check peer settings domain address).finding = some f) : f.severity = .error := by
  rcases check_cases peer settings domain address with ⟨detail, hc⟩ | ⟨start, client, -, -, hc⟩
  · rw [hc] at h
    cases h
    rfl
  · rw [hc] at h
    obtain ⟨e, _, rfl⟩ := Option.map_eq_some_iff.1 h
    exact e.finding_severity domain address.canonical

theorem check_ip (peer : Client → Peer) (settings : Settings) (domain : String)
    (address : IpAddr) :
    (check peer settings domain address).observation.ip = address.canonical := by
  rcases check_cases peer settings domain address with ⟨detail, hc⟩ | ⟨start, client, -, -, hc⟩
  · rw [hc]
    rfl
  · rw [hc]
    exact congrArg Observation.ip (Observation.ofExchanges_eq ..)

end IssuanceCheck.Fetch
