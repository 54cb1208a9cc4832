import IssuanceCheck.Dns.Response
import IssuanceCheck.Idna
import IssuanceCheck.Name.Presentation
import IssuanceCheck.Network

namespace IssuanceCheck.Dns

open Text

inductive TransportError where
  | network (text : String)
  | timedOut
deriving DecidableEq, Repr

def TransportError.message : TransportError → String
  | network text => s!"proto error: io error: {text}"
  | timedOut => "request timed out"

abbrev Transport := Query → Except TransportError Response

namespace Transport

def ofServer (network : Network) (server : IpAddr) (respond : Query → Response) : Transport :=
  fun query =>
    match network.connectError? server with
    | some text => .error (.network text)
    | none =>
        let response := respond query
        if response.isWellFormed then .ok response else .error .timedOut

end Transport

namespace Resolver

def localZones : List (List (List Char)) :=
  [["localhost".toList], ["127", "in-addr", "arpa"].map String.toList,
    ("1" :: List.replicate 31 "0" ++ ["ip6", "arpa"]).map String.toList]

def emptyZones : List (List (List Char)) := [["invalid".toList], ["onion".toList]]

def isWithin (zones : List (List (List Char))) (labels : List (List Char)) : Bool :=
  zones.any fun zone => zone.isSuffixOf (labels.map toAsciiLower)

def localRecords : RecordType → List Record
  | .a => [.a (Ipv4.ofOctets [127, 0, 0, 1])]
  | .aaaa => [.aaaa Ipv6.loopback]
  | _ => []

def send (transport : Transport) (query : Query) : Answer :=
  match transport query with
  | .ok response => .ok (response.records query)
  | .error e => .error (.unresolved e.message)

/-- Looks a name up. The policy of a name is asked for under the name as it is written, which has to
be an ASCII name. Other queries take international labels in their ASCII form, and some zones are
answered without any query. -/
def lookup (transport : Transport) : Lookup := fun q =>
  if q.name = "" then .error (.invalidName q.name "empty name")
  else if q.type = .caa then
    match Name.labels? Name.asciiLabel q.name with
    | .error e => .error (.invalidName q.name e.message)
    | .ok _ => send transport q
  else
    match Name.labels? (Name.internationalLabel (Idna.toAscii? Idna.isForbiddenInHostname)) q.name with
    | .error e => .error (.unresolved s!"proto error: {e.message}")
    | .ok labels =>
        if isWithin localZones labels then .ok (localRecords q.type)
        else if isWithin emptyZones labels then .ok []
        else send transport q

end Resolver

end IssuanceCheck.Dns
