import IssuanceCheck.Decimal.Shortest
import IssuanceCheck.Text.Lowercase
import IssuanceCheck.Text.Quoted
import IssuanceCheck.Text.Search

namespace IssuanceCheck

structure Duration where
  secs : Nat
  nanos : Nat
deriving DecidableEq, Repr

namespace Duration

def ofParts (secs nanos : Nat) : Duration := ⟨secs + nanos / 1000000000, nanos % 1000000000⟩

def ofMillis (n : Nat) : Duration := ⟨n / 1000, n % 1000 * 1000000⟩

def millis (d : Duration) : Nat := d.secs * 1000 + d.nanos / 1000000

/-- The seconds as a binary number of 53 bits: whole seconds and nanoseconds are rounded each, and
so is their sum. -/
def seconds (d : Duration) : Decimal.Binary :=
  (Decimal.Binary.ofRatio ⟨d.secs, 1⟩).add (Decimal.Binary.ofRatio ⟨d.nanos, 1000000000⟩)

def text (d : Duration) : String := String.ofList d.seconds.shortest

end Duration

namespace Fetch

open Text

inductive Violation where
  | tooManyRedirects (count : Nat) (url : String)
  | badPort (url : String) (port : Nat)
  | badScheme (url scheme : String)
  | missingTrailingSlash (url : String)
deriving DecidableEq, Repr

def Violation.message : Violation → String
  | tooManyRedirects count url => s!"Too many ({count}) redirects, last redirect was to: {url}"
  | badPort url port => s!"Bad port number provided when fetching {url}: {port}"
  | badScheme url scheme => s!"Bad scheme provided when fetching {url}: {scheme}"
  | missingTrailingSlash url =>
      "It appears that a redirect was generated by your web server that is missing a trailing " ++
      s!"slash after your domain name: {url}. Check your web server configuration and .htaccess " ++
      "for Redirect/RedirectMatch/RewriteRule."

/-- Adds the text of a cause to a message, unless it is empty or the message holds it already. -/
def addCause (message cause : List Char) : List Char :=
  if cause.isEmpty || occursIn cause message then message else message ++ [':', ' '] ++ cause

def describeChars : List (List Char) → List Char
  | [] => []
  | outermost :: causes => causes.foldl addCause outermost

def describe (layers : List String) : String :=
  String.ofList (describeChars (layers.map String.toList))

inductive FetchError where
  | redirect (violation : Violation)
  | transport (layers : List String)
  | invalidLocation (location reason : String)
  | timeout (url : String) (after : Duration)
deriving DecidableEq, Repr

def FetchError.message : FetchError → String
  | redirect violation => violation.message
  | transport layers => describe layers
  | invalidLocation location reason =>
      s!"failed to parse Location header {quoted location}: {reason}"
  | timeout url after => s!"Get {quoted url}: timed out after {after.text}s"

/-- What the error of a client says that expected TLS and got plain text, in lower case. -/
def mismatchSignatures : List String :=
  ["server gave http response to https client", "invalidcontenttype",
    "received corrupt message", "wrong version number"]

def isProtocolMismatch (text : String) : Bool :=
  let lowered := toLower text.toList
  mismatchSignatures.any fun signature => occursIn signature.toList lowered

end Fetch

end IssuanceCheck
