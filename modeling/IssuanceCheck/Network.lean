import IssuanceCheck.Ip

namespace IssuanceCheck

def Ipv4.isLoopback (a : Ipv4) : Bool := a.octets.head? == some 127

def Ipv6.loopback : Ipv6 := ofList [0, 0, 0, 0, 0, 0, 0, 1]

/-- What a machine can do with an address: the text of the error that connecting to it brings, and
that of listening at it. -/
structure Network where
  connectError? : IpAddr → Option String
  listenError? : IpAddr → Option String

namespace Network

def unreachable : String := "Network is unreachable (os error 101)"

def refused : String := "Connection refused (os error 111)"

def notAssigned : String := "Cannot assign requested address (os error 99)"

def loopback : Network where
  connectError?
    | .v4 a => if a.isLoopback then none else some unreachable
    | .v6 a => if a = Ipv6.loopback then none else some unreachable
  listenError?
    | .v4 a => if a.isLoopback then none else some notAssigned
    | .v6 a => if a = Ipv6.loopback then none else some notAssigned

/-- A machine whose own interface is down as well. IPv4 addresses of it can be listened at, but
nothing gets there; of IPv6 it has no address at all. -/
def isolated : Network where
  connectError?
    | .v4 _ => some unreachable
    | .v6 _ => some notAssigned
  listenError?
    | .v4 a => if a.isLoopback then none else some notAssigned
    | .v6 _ => some notAssigned

end Network

end IssuanceCheck
