import IssuanceCheck.Fetch.Client
import IssuanceCheck.Fetch.Finding
import IssuanceCheck.Fetch.Follow

namespace IssuanceCheck.Fetch

/-- The path of the validation request. The token is a placeholder; none is ever provisioned. -/
def challengePath : String := "/.well-known/acme-challenge/letsdebug-test"

structure Checked where
  observation : Observation
  finding : Option Finding
  exchanges : List Exchange
deriving Repr

def startUrl (domain : String) : Except Url.ParseError Url :=
  Url.parse s!"http://{domain}{challengePath}"

def Journey.error? (j : Journey) (start : Url) (timeout : Duration) : Option FetchError :=
  match j.ending with
  | .completed => none
  | .failed e => some e
  | .timedOut => some (.timeout start.text timeout)

/-- Replays the validation request for a domain at one of its addresses. An IPv4 address in its IPv6
form is dialed and reported as the IPv4 address. -/
def check (peer : Client → Peer) (settings : Settings) (domain : String) (address : IpAddr) :
    Checked :=
  let ip := address.canonical
  let broken (detail : String) : Checked :=
    ⟨.unseen ip, some (Finding.internal detail .error), []⟩
  match startUrl domain with
  | .error e => broken s!"Failed to construct validation request: {e.message}"
  | .ok start =>
      match Client.init settings ip with
      | .error e => broken s!"Failed to construct validation client: {e.message}"
      | .ok client =>
          let journey := follow (peer client) ⟨ip, settings.port⟩ settings.maxRedirects 0 start
          ⟨.ofExchanges ip journey.exchanges,
            (journey.error? start settings.timeout).map (·.finding domain ip), journey.exchanges⟩

end IssuanceCheck.Fetch
