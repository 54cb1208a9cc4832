import IssuanceCheck.Diagnosis
import IssuanceCheck.Proofs.Dns.Addresses
import IssuanceCheck.Proofs.Dns.Carries
import IssuanceCheck.Proofs.Finding

namespace IssuanceCheck

open Dns

variable {lookup : Lookup} {sweep : Sweep} {name : String} {ips ips' : List IpAddr}

/-- The addresses of a host, IPv6 first, as both answers have come back with them. -/
def HasAddresses (lookup : Lookup) (name : String) (ips : List IpAddr) : Prop :=
  ∃ v6 v4 ips6 ips4, lookup ⟨name, .aaaa⟩ = .ok v6 ∧ lookup ⟨name, .a⟩ = .ok v4 ∧
    Carries .aaaa v6 ips6 ∧ Carries .a v4 ips4 ∧ ips = ips6.map .v6 ++ ips4.map .v4

theorem hasAddresses_iff : HasAddresses lookup name ips ↔
    ∃ v6 v4, lookup ⟨name, .aaaa⟩ = .ok v6 ∧ lookup ⟨name, .a⟩ = .ok v4 ∧
      ips = v6.filterMap Record.ipv6? ++ v4.filterMap Record.ipv4? := by
  constructor
  · rintro ⟨v6, v4, ips6, ips4, h6, h4, hc6, hc4, rfl⟩
    exact ⟨v6, v4, h6, h4, by rw [hc6.filterMap_ipv6?, hc4.filterMap_ipv4?]⟩
  · rintro ⟨v6, v4, h6, h4, rfl⟩
    obtain ⟨ips6, hc6⟩ := exists_carries Record.aaaa v6
    obtain ⟨ips4, hc4⟩ := exists_carries Record.a v4
    exact ⟨v6, v4, ips6, ips4, h6, h4, hc6, hc4, by rw [hc6.filterMap_ipv6?, hc4.filterMap_ipv4?]⟩

theorem HasAddresses.unique (h : HasAddresses lookup name ips)
    (h' : HasAddresses lookup name ips') : ips = ips' := by
  obtain ⟨v6, v4, h6, h4, rfl⟩ := hasAddresses_iff.1 h
  obtain ⟨v6', v4', h6', h4', rfl⟩ := hasAddresses_iff.1 h'
  cases h6.symm.trans h6'
  cases h4.symm.trans h4'
  rfl

theorem HasAddresses.not_error (h : HasAddresses lookup name ips) {e : LookupError} :
    lookup ⟨name, .aaaa⟩ ≠ .error e ∧ lookup ⟨name, .a⟩ ≠ .error e := by
  obtain ⟨v6, v4, h6, h4, -⟩ := hasAddresses_iff.1 h
  simp [h6, h4]

/-- What the checks of the addresses of a name do and come to. There is no request for the IPv4
addresses when that for the IPv6 addresses fails, and no fetch unless both have an answer and there
is an address in one of them. -/
inductive AddressChecks (lookup : Lookup) (sweep : Sweep) (name : String) :
    Traced Effect (List Finding × List Fetch.Checked) → Prop where
  | failedIpv6 {e f} (h6 : lookup ⟨name, .aaaa⟩ = .error e)
      (hf : f.IsLookupFailure name "AAAA" e.message) :
      AddressChecks lookup sweep name ⟨[.query ⟨name, .aaaa⟩], [f], []⟩
  | failedIpv4 {v6 e f} (h6 : lookup ⟨name, .aaaa⟩ = .ok v6) (h4 : lookup ⟨name, .a⟩ = .error e)
      (hf : f.IsLookupFailure name "A" e.message) :
      AddressChecks lookup sweep name ⟨[.query ⟨name, .aaaa⟩, .query ⟨name, .a⟩], [f], []⟩
  | noAddress (h : HasAddresses lookup name []) :
      AddressChecks lookup sweep name ⟨[.query ⟨name, .aaaa⟩, .query ⟨name, .a⟩],
        [⟨"NoRecords",
          s!"No valid A or AAAA records could be ultimately resolved for {name}. This means " ++
          "that the CA would not be able to connect to your domain to perform HTTP " ++
          "validation, since it would not know where to connect to.", "", .fatal⟩], []⟩
  | fetched {ips : List IpAddr} (h : HasAddresses lookup name ips) (hne : ips ≠ []) :
      AddressChecks lookup sweep name
        ⟨[.query ⟨name, .aaaa⟩, .query ⟨name, .a⟩] ++ ips.map (.fetch name),
          (sweep name ips).filterMap (·.finding), sweep name ips⟩

theorem checkAddresses_of_error {type : RecordType} {e : LookupError}
    (h : (Addresses.resolve lookup name).value = .error (type, e)) :
    checkAddresses lookup sweep name =
      ⟨(Addresses.resolve lookup name).trace.map .query,
        [Finding.dnsLookupFailed name type.text e.message], []⟩ := by
  refine Traced.ext ?_ ?_
  · simp [checkAddresses, h]
  · simp only [checkAddresses, Traced.bind_value, Traced.mapTrace_value, h, Traced.pure_value]

theorem checkAddresses_of_ok {addresses : Addresses}
    (h : (Addresses.resolve lookup name).value = .ok addresses) :
    checkAddresses lookup sweep name =
      ⟨(Addresses.resolve lookup name).trace.map .query ++ addresses.all.map (.fetch name),
        if addresses.all = [] then ([noRecords name], [])
        else ((sweep name addresses.all).filterMap (·.finding), sweep name addresses.all)⟩ := by
  by_cases he : addresses.all = []
  · have hempty : addresses.isEmpty = true := addresses.isEmpty_iff.2 he
    refine Traced.ext ?_ ?_
    · simp [checkAddresses, h, hempty, he]
    · simp only [checkAddresses, Traced.bind_value, Traced.mapTrace_value, h, hempty, he, if_true,
        Traced.pure_value]
  · have hempty : ¬addresses.isEmpty = true := mt addresses.isEmpty_iff.1 he
    refine Traced.ext ?_ ?_
    · simp [checkAddresses, h, hempty, Sweep.start]
    · simp only [checkAddresses, Traced.bind_value, Traced.mapTrace_value, h, if_neg hempty,
        if_neg he, Traced.pure_value, Sweep.start]

theorem checkAddresses_run (lookup : Lookup) (sweep : Sweep) (name : String) :
    AddressChecks lookup sweep name (checkAddresses lookup sweep name) := by
  cases hr : (Addresses.resolve lookup name).value with
  | error e =>
      obtain ⟨type, e⟩ := e
      have hfailure := Finding.isLookupFailure_dnsLookupFailed name type.text e.message
      rw [checkAddresses_of_error hr]
      rcases Addresses.resolve_eq_error_iff.1 hr with ⟨rfl, h6⟩ | ⟨rfl, h4, v6, h6⟩
      · simp only [Addresses.resolve, Traced.bind_trace, ask_trace, ask_value, h6]
        exact .failedIpv6 h6 hfailure
      · simp only [Addresses.resolve, Traced.bind_trace, ask_trace, ask_value, h6, h4]
        exact .failedIpv4 h6 h4 hfailure
  | ok addresses =>
      obtain ⟨v6, v4, h6, h4, hv⟩ := Addresses.resolve_eq_ok_iff.1 hr
      have haddresses : HasAddresses lookup name addresses.all :=
        hasAddresses_iff.2 ⟨v6, v4, h6, h4, by rw [hv, Addresses.all]⟩
      have htrace : (Addresses.resolve lookup name).trace = [⟨name, .aaaa⟩, ⟨name, .a⟩] := by
        simp [Addresses.resolve, h6, h4]
      rw [checkAddresses_of_ok hr, htrace]
      split
      next he =>
        rw [he] at haddresses ⊢
        exact .noAddress haddresses
      next hne => exact .fetched haddresses hne

/-- A name with an address, where the validation request succeeds at every address. -/
def IsReached (lookup : Lookup) (fetch : Fetcher) (name : String) : Prop :=
  ∃ ips, HasAddresses lookup name ips ∧ ips ≠ [] ∧ ∀ ip ∈ ips, (fetch name ip).finding = none

namespace AddressChecks

variable {run : Traced Effect (List Finding × List Fetch.Checked)} {fetch : Fetcher}

theorem findings_eq_nil_iff (h : AddressChecks lookup fetch.sweep name run) :
    run.value.1 = [] ↔ IsReached lookup fetch name := by
  cases h with
  | failedIpv6 h6 _ =>
      refine iff_of_false (List.cons_ne_nil _ _) ?_
      rintro ⟨ips, h, -⟩
      exact h.not_error.1 h6
  | failedIpv4 h6 h4 _ =>
      refine iff_of_false (List.cons_ne_nil _ _) ?_
      rintro ⟨ips, h, -⟩
      exact h.not_error.2 h4
  | noAddress h =>
      refine iff_of_false (List.cons_ne_nil _ _) ?_
      rintro ⟨ips, h', hne, -⟩
      exact hne (h'.unique h)
  | @fetched ips h hne =>
      simp only [List.filterMap_eq_nil_iff, Fetcher.sweep, List.forall_mem_map]
      constructor
      · exact fun hnone => ⟨ips, h, hne, hnone⟩
      · rintro ⟨ips', h', -, hnone⟩
        rwa [h.unique h']

theorem isBlocking (h : AddressChecks lookup fetch.sweep name run)
    (hfetch : ∀ ip f, (fetch name ip).finding = some f → f.isBlocking = true) :
    ∀ f ∈ run.value.1, f.isBlocking = true := by
  cases h with
  | failedIpv6 _ hf =>
      exact List.forall_mem_singleton.2 ((Finding.isBlocking_iff _).2 (.inr hf.severity_eq))
  | failedIpv4 _ _ hf =>
      exact List.forall_mem_singleton.2 ((Finding.isBlocking_iff _).2 (.inr hf.severity_eq))
  | noAddress => exact List.forall_mem_singleton.2 rfl
  | fetched =>
      intro f hf
      obtain ⟨checked, hc, hs⟩ := List.mem_filterMap.1 hf
      obtain ⟨ip, -, rfl⟩ := List.mem_map.1 hc
      exact hfetch ip f hs

theorem queries (h : AddressChecks lookup sweep name run) :
    run.trace.filterMap Effect.query? <+: [⟨name, .aaaa⟩, ⟨name, .a⟩] := by
  cases h with
  | failedIpv6 => exact ⟨[⟨name, .a⟩], rfl⟩
  | failedIpv4 => exact ⟨[], rfl⟩
  | noAddress => exact ⟨[], rfl⟩
  | fetched => simp [Effect.query?, List.filterMap_map, Function.comp_def]

theorem of_fetch (h : AddressChecks lookup sweep name run) {host : String} {ip : IpAddr}
    (hf : .fetch host ip ∈ run.trace) :
    host = name ∧ ∃ ips, HasAddresses lookup name ips ∧ ip ∈ ips := by
  cases h with
  | failedIpv6 => simp at hf
  | failedIpv4 => simp at hf
  | noAddress => simp at hf
  | @fetched ips h _ =>
      obtain ⟨ip', hip, he⟩ : ∃ ip', ip' ∈ ips ∧ Effect.fetch name ip' = .fetch host ip := by
        simpa using hf
      obtain ⟨rfl, rfl⟩ := Effect.fetch.inj he
      exact ⟨rfl, ips, h, hip⟩

end AddressChecks

end IssuanceCheck
