import IssuanceCheck.Ip

namespace IssuanceCheck

inductive Severity where
  | debug
  | warning
  | error
  | fatal
deriving DecidableEq, Repr

namespace Severity

def rank : Severity → Nat
  | debug => 0
  | warning => 1
  | error => 2
  | fatal => 3

def text : Severity → String
  | debug => "Debug"
  | warning => "Warning"
  | error => "Error"
  | fatal => "Fatal"

def max (a b : Severity) : Severity := if a.rank ≤ b.rank then b else a

end Severity

structure Finding where
  name : String
  explanation : String
  detail : String
  severity : Severity
deriving DecidableEq, Repr

namespace Finding

def isBlocking (f : Finding) : Bool := Severity.error.rank ≤ f.severity.rank

def internal (detail : String) (severity : Severity) : Finding where
  name := "InternalProblem"
  explanation := "An internal error occurred while checking the domain"
  detail := detail
  severity := severity

def dnsLookupFailed (name type detail : String) : Finding where
  name := "DNSLookupFailed"
  explanation :=
    s!"A fatal issue occurred during the DNS lookup process for {name}/{type}."
  detail := detail
  severity := .fatal

def worst (findings : List Finding) : Option Severity :=
  findings.foldl (fun worst f =>
    some (match worst with | some s => s.max f.severity | none => f.severity)) none

end Finding

end IssuanceCheck
