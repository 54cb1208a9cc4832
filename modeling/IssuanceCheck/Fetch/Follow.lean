import IssuanceCheck.Fetch.Pin
import IssuanceCheck.Fetch.Response

namespace IssuanceCheck.Fetch

/-- A request as it goes out: the URL that is dialed, and the host to announce in its place. -/
structure Request where
  url : Url
  host : Option String
deriving DecidableEq, Repr

inductive Reply where
  | response (response : Response)
  | failure (layers : List String)
  /-- Nothing came back before the deadline of the whole fetch. -/
  | silence
deriving DecidableEq, Repr

def Reply.response? : Reply → Option Response
  | response r => some r
  | _ => none

/-- Whoever answers the requests of a fetch, which are numbered from zero. -/
abbrev Peer := Nat → Request → Reply

/-- A request, the URL that it was meant for, and what became of it. -/
structure Exchange where
  url : Url
  request : Request
  reply : Reply
deriving DecidableEq, Repr

inductive Ending where
  | completed
  | failed (error : FetchError)
  | timedOut
deriving DecidableEq, Repr

structure Journey where
  exchanges : List Exchange
  ending : Ending
deriving DecidableEq, Repr

/-- Requests a URL and follows redirects until a response is final or the policy refuses one. `hop`
redirects have been followed before. -/
def follow (peer : Peer) (pin : Pin) (max hop : Nat) (url : Url) : Journey :=
  let (dial, host) := pin.apply url
  let exchange : Exchange := ⟨url, ⟨dial, host⟩, peer hop ⟨dial, host⟩⟩
  match exchange.reply with
  | .failure layers => ⟨[exchange], .failed (.transport layers)⟩
  | .silence => ⟨[exchange], .timedOut⟩
  | .response r =>
      match r.target? url with
      | .error e => ⟨[exchange], .failed e⟩
      | .ok none => ⟨[exchange], .completed⟩
      | .ok (some next) =>
          match h : violation? next (hop + 1) max with
          | some violation => ⟨[exchange], .failed (.redirect violation)⟩
          | none =>
              let rest := follow peer pin max (hop + 1) next.url
              ⟨exchange :: rest.exchanges, rest.ending⟩
termination_by max - hop
decreasing_by
  have := le_of_violation?_eq_none h
  omega

structure Observation where
  status : Option Nat
  server : Option String
  ip : IpAddr
deriving DecidableEq, Repr

namespace Observation

def isZero (o : Observation) : Bool := o.status.isNone

def text (o : Observation) : String :=
  let family := match o.ip with | .v4 _ => "IPv4" | .v6 _ => "IPv6"
  let server := o.server.getD ""
  s!"[Address Type={family},Response Code={o.status.getD 0},Server={server}]"

def unseen (ip : IpAddr) : Observation := ⟨none, none, ip⟩

def record (o : Observation) (r : Response) : Observation :=
  { o with status := some r.status, server := r.server? }

def after (o : Observation) (e : Exchange) : Observation :=
  match e.reply.response? with
  | some r => o.record r
  | none => o

def ofExchanges (ip : IpAddr) (es : List Exchange) : Observation := es.foldl after (unseen ip)

end Observation

def lastResponse? (es : List Exchange) : Option Response :=
  (es.filterMap (·.reply.response?)).getLast?

theorem Observation.foldl_after (o : Observation) (es : List Exchange) :
    es.foldl after o = (lastResponse? es).elim o o.record := by
  induction es generalizing o with
  | nil => rfl
  | cons e es ih =>
      rw [List.foldl_cons, ih]
      cases hr : e.reply.response? with
      | none => simp only [after, lastResponse?, List.filterMap_cons, hr]
      | some r =>
          simp only [after, lastResponse?, List.filterMap_cons, hr, List.getLast?_cons]
          cases (es.filterMap (·.reply.response?)).getLast? <;> rfl

/-- To note each response as it comes is to look at the last one. -/
theorem Observation.ofExchanges_eq (ip : IpAddr) (es : List Exchange) :
    ofExchanges ip es =
      ⟨(lastResponse? es).map (·.status), (lastResponse? es).bind Response.server?, ip⟩ := by
  rw [ofExchanges, foldl_after]
  cases lastResponse? es <;> rfl

end IssuanceCheck.Fetch
