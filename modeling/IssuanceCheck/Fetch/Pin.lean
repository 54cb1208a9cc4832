import IssuanceCheck.Url.Basic

namespace IssuanceCheck.Fetch

/-- The address that every connection goes to. A port of zero leaves the choice to the URL. -/
structure Pin where
  ip : IpAddr
  port : Nat
deriving DecidableEq, Repr

abbrev Resolver := String → List Pin

def Pin.resolver (pin : Pin) : Resolver := fun _ => [pin]

def Resolver.routes (resolver : Resolver) (url : Url) : List Pin :=
  match url.host? with
  | some (.ipv4 a) => [⟨.v4 a, 0⟩]
  | some (.ipv6 a) => [⟨.v6 a, 0⟩]
  | some (.name n) => resolver n
  | none => []

/-- What to request so that the connection goes to the pinned address, and the host to announce if
the request does not name it. A name is resolved to the pinned address anyway; an address in the
URL is replaced by it. -/
def Pin.apply (pin : Pin) (url : Url) : Url × Option String :=
  match url.host? with
  | some host@(.ipv4 _) | some host@(.ipv6 _) =>
      let announced := match url.port? with
        | some port => s!"{host.text}:{port}"
        | none => host.text
      let dial := url.withHost (Url.Host.ofAddress pin.ip)
      let dial := if url.port? = none ∧ pin.port ≠ 0 then dial.withPort pin.port else dial
      (dial, some announced)
  | _ => (url, none)

def Pin.portFor (pin : Pin) (url : Url) : Nat :=
  url.port?.getD (if pin.port = 0 then (Url.defaultPort? url.scheme).getD 0 else pin.port)

end IssuanceCheck.Fetch
