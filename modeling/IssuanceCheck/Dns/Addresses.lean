import IssuanceCheck.Dns.Lookup

namespace IssuanceCheck.Dns

structure Addresses where
  ipv6 : List IpAddr
  ipv4 : List IpAddr
deriving Repr

namespace Addresses

def isEmpty (addresses : Addresses) : Bool := addresses.ipv6.isEmpty && addresses.ipv4.isEmpty

def all (addresses : Addresses) : List IpAddr := addresses.ipv6 ++ addresses.ipv4

/-- Asks for the AAAA records and, unless that fails, for the A records of a host. A failure is
reported with the type that failed. -/
def resolve (lookup : Lookup) (host : String) :
    Asked (Except (RecordType × LookupError) Addresses) := do
  match ← ask lookup ⟨host, .aaaa⟩ with
  | .error e => pure (.error (.aaaa, e))
  | .ok v6 =>
      match ← ask lookup ⟨host, .a⟩ with
      | .error e => pure (.error (.a, e))
      | .ok v4 => pure (.ok ⟨v6.filterMap Record.ipv6?, v4.filterMap Record.ipv4?⟩)

end Addresses

end IssuanceCheck.Dns
