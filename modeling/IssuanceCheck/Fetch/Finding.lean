import IssuanceCheck.Fetch.Error
import IssuanceCheck.Finding

namespace IssuanceCheck.Fetch

def webserverMisconfiguration (domain detail : String) : Finding where
  name := "WebserverMisconfiguration"
  explanation := s!"{domain}'s webserver may be misconfigured."
  detail := detail
  severity := .error

def aaaaNotWorking (domain : String) (ip : IpAddr) (detail : String) : Finding where
  name := "AAAANotWorking"
  explanation :=
    s!"{domain} has an AAAA (IPv6) record ({ip}) but a test ACME validation request " ++
    "over port 80 has revealed problems. Let's Encrypt will prefer to use AAAA records, " ++
    "if present, and will not fall back to IPv4 records. You should either ensure that " ++
    "validation requests succeed over IPv6, or remove its AAAA record."
  detail := detail
  severity := .error

def aNotWorking (domain : String) (ip : IpAddr) (detail : String) : Finding where
  name := "ANotWorking"
  explanation :=
    s!"{domain} has an A (IPv4) record ({ip}) but a test ACME validation request " ++
    "over port 80 has revealed problems."
  detail := detail
  severity := .error

def badRedirect (domain detail : String) : Finding where
  name := "BadRedirect"
  explanation :=
    s!"Sending an ACME HTTP validation request to {domain} results in an unacceptable " ++
    "redirect. This is most likely a misconfiguration of your web server or your web " ++
    "application."
  detail := detail
  severity := .error

def redirectMissingTrailingSlash (domain detail : String) : Finding where
  name := "RedirectMissingTrailingSlash"
  explanation :=
    s!"Sending an ACME HTTP validation request to {domain} results in a redirect to a " ++
    "hostname ending in \".well-known\". The web server dropped the slash between the " ++
    "domain name and the path while building the redirect."
  detail := detail
  severity := .error

/-- The finding that a failed fetch amounts to. A broken redirect rule is reported as such. Of the
other failures, plain text where TLS was expected points at the web server, and all else is put
down to the family of the address. -/
def FetchError.finding (domain : String) (ip : IpAddr) (e : FetchError) : Finding :=
  match e with
  | .redirect v@(.missingTrailingSlash _) => redirectMissingTrailingSlash domain v.message
  | .redirect v => badRedirect domain v.message
  | e =>
      let detail := e.message
      if isProtocolMismatch detail then
        webserverMisconfiguration domain
          (s!"Web server is serving the wrong protocol on the wrong port: {detail}. " ++
            "This may be due to a previous HTTP redirect rather than a webserver misconfiguration.")
      else
        match ip with
        | .v6 _ => aaaaNotWorking domain ip detail
        | .v4 _ => aNotWorking domain ip detail

end IssuanceCheck.Fetch
