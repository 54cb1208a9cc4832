import IssuanceCheck.Fetch.Check
import IssuanceCheck.Fetch.Server
import IssuanceCheck.Network

namespace IssuanceCheck.Fetch

structure Testbed where
  network : Network
  servers : List Server
  port : Nat

/-- What a server sees of a request: a TLS connection that it does not go on with, or the request
itself. -/
inductive Sighting where
  | handshake (handshake : Handshake)
  | request (secure : Bool) (line : String) (headers : List (String × String))
deriving DecidableEq, Repr

def isUnsendable (c : Char) : Bool := "\"`\x7b\x7d".toList.contains c

def Request.isSendable (r : Request) : Bool :=
  !r.url.hostText?.any fun host => host.toList.any isUnsendable

namespace Testbed

variable (testbed : Testbed)

/-- Whether the servers can listen at their addresses, and if not, why. Behind the first server the
others need the same port. -/
def setupError? : Option String :=
  match testbed.servers.map Server.ip with
  | [] => none
  | first :: others =>
      match testbed.network.listenError? first with
      | some e => some e
      | none =>
          if others.any (fun ip => (testbed.network.listenError? ip).isSome) ||
              !(first :: others).Nodup then
            some "no common free port"
          else none

def connect (ip : IpAddr) (port : Nat) : Except String Server :=
  match testbed.network.connectError? ip with
  | some e => .error e
  | none =>
      match testbed.servers.find? fun server => server.ip = ip ∧ port = testbed.port with
      | some server => .ok server
      | none => .error Network.refused

def reach (client : Client) (url : Url) : Except String Server :=
  match client.resolver.routes url with
  | [] => .error "Network unreachable"
  | pin :: _ => testbed.connect pin.ip (pin.portFor url)

def handshakeError? (url : Url) (server : Server) : Option String :=
  if url.scheme = "https" then server.handshake.error? else none

def peer (client : Client) : Peer := fun i request =>
  if !request.isSendable then
    .failure [s!"builder error for url ({request.target})", "Parsed Url is not a valid Uri"]
  else
    match testbed.reach client request.url with
    | .error e => sendingFailed request ["client error (Connect)", "tcp connect error", e]
    | .ok server =>
        match handshakeError? request.url server with
        | some e => sendingFailed request ["client error (Connect)", e]
        | none => server.respond client.timeout i request

def sightings (server : Server) (client : Client) (exchanges : List Exchange) : List Sighting :=
  exchanges.filterMap fun exchange =>
    let request := exchange.request
    match testbed.reach client request.url with
    | .error _ => none
    | .ok other =>
        if other.ip ≠ server.ip || !request.isSendable then none
        else if (handshakeError? request.url server).isSome then some (.handshake server.handshake)
        else
          some (.request (request.url.scheme = "https") request.line
            (request.headers client.userAgent))

end Testbed

def checkWith (testbed : Testbed) (settings : Settings) : String → IpAddr → Checked :=
  check testbed.peer settings

end IssuanceCheck.Fetch
