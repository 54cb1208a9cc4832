import IssuanceCheck.Fetch.Head
import IssuanceCheck.Fetch.Wire

namespace IssuanceCheck.Fetch

inductive Handshake where
  | accepts
  | misunderstands
  | closes
deriving DecidableEq, Repr

namespace Handshake

def error? : Handshake → Option String
  | accepts => none
  | misunderstands => some "received corrupt message of type InvalidContentType"
  | closes => some "tls handshake eof"

end Handshake

inductive Conduct where
  | sends (bytes : List UInt8)
  | hangs
deriving DecidableEq, Repr

structure Act where
  delay : Nat
  conduct : Conduct
deriving DecidableEq, Repr

/-- A server that goes through its acts, one for each request. The last one repeats. -/
structure Server where
  ip : IpAddr
  handshake : Handshake
  acts : List Act
deriving DecidableEq, Repr

def sendingFailed (request : Request) (causes : List String) : Reply :=
  .failure (s!"error sending request for url ({request.target})" :: causes)

namespace Server

def act? (server : Server) (i : Nat) : Option Act := server.acts[i]? <|> server.acts.getLast?

def elapsed (server : Server) (i : Nat) : Nat :=
  (List.range (i + 1)).foldl (fun total j => total + ((server.act? j).map Act.delay).getD 0) 0

/-- What comes back for a request that has reached a server. A server without acts closes the
connection at once. -/
def respond (server : Server) (limit : Duration) (i : Nat) (request : Request) : Reply :=
  let act := (server.act? i).getD ⟨0, .sends []⟩
  if limit.millis ≤ server.elapsed i then .silence
  else
    match act.conduct with
    | .hangs => .silence
    | .sends bytes =>
        match Response.ofBytes bytes with
        | .ok response => .response response
        | .error e => sendingFailed request ["client error (SendRequest)", e.message]

end Server

end IssuanceCheck.Fetch
