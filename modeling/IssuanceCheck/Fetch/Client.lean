import IssuanceCheck.Fetch.Error
import IssuanceCheck.Fetch.Pin

namespace IssuanceCheck.Fetch

def defaultUserAgent : String := "acme_preflight/0.1.0"

structure Settings where
  userAgent : String := defaultUserAgent
  timeout : Duration := ⟨10, 0⟩
  maxRedirects : Nat := 10
  /-- The port of every connection, or zero for that of the URL. -/
  port : Nat := 0
deriving DecidableEq, Repr

def isHeaderText (s : String) : Bool :=
  s.toList.all fun c => c == '\t' || !(c.toNat < 0x20 || c.toNat == 0x7F)

/-- Who makes the requests of a fetch. It takes any certificate and leaves redirects alone. -/
structure Client where
  resolver : Resolver
  userAgent : String
  timeout : Duration

inductive ClientError where
  | builder
deriving DecidableEq, Repr

def ClientError.message : ClientError → String
  | builder => "HTTP client initialization error: builder error"

def Client.init (settings : Settings) (ip : IpAddr) : Except ClientError Client :=
  if isHeaderText settings.userAgent then
    .ok ⟨(Pin.mk ip settings.port).resolver, settings.userAgent, settings.timeout⟩
  else .error .builder

end IssuanceCheck.Fetch
