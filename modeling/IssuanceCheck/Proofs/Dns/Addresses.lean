import IssuanceCheck.Dns.Addresses

namespace IssuanceCheck.Dns.Addresses

theorem isEmpty_iff (addresses : Addresses) : addresses.isEmpty = true ↔ addresses.all = [] := by
  simp only [isEmpty, all, Bool.and_eq_true, List.isEmpty_iff, List.append_eq_nil_iff]

theorem resolve_eq_ok_iff {lookup : Lookup} {host : String} {addresses : Addresses} :
    (resolve lookup host).value = .ok addresses ↔
      ∃ v6 v4, lookup ⟨host, .aaaa⟩ = .ok v6 ∧ lookup ⟨host, .a⟩ = .ok v4 ∧
        addresses = ⟨v6.filterMap Record.ipv6?, v4.filterMap Record.ipv4?⟩ := by
  cases h6 : lookup ⟨host, .aaaa⟩ with
  | error e => simp [resolve, h6]
  | ok v6 =>
      cases h4 : lookup ⟨host, .a⟩ with
      | error e => simp [resolve, h6, h4]
      | ok v4 => simp [resolve, h6, h4, eq_comm]

theorem resolve_eq_error_iff {lookup : Lookup} {host : String} {type : RecordType}
    {e : LookupError} :
    (resolve lookup host).value = .error (type, e) ↔
      type = .aaaa ∧ lookup ⟨host, .aaaa⟩ = .error e ∨
        type = .a ∧ lookup ⟨host, .a⟩ = .error e ∧ ∃ v6, lookup ⟨host, .aaaa⟩ = .ok v6 := by
  cases h6 : lookup ⟨host, .aaaa⟩ with
  | error e => simp [resolve, h6, eq_comm]
  | ok v6 =>
      cases h4 : lookup ⟨host, .a⟩ with
      | error e => simp [resolve, h6, h4, eq_comm]
      | ok v4 => simp [resolve, h6, h4]

end IssuanceCheck.Dns.Addresses
