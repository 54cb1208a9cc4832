import IssuanceCheck.Caa.Policy
import IssuanceCheck.Dns.Lookup
import IssuanceCheck.Name

namespace IssuanceCheck.Caa

open Dns

inductive CheckError where
  | invalidDomain (domain reason : String)
  | lookup (domain : String) (source : LookupError)
deriving DecidableEq, Repr

namespace CheckError

def message : CheckError → String
  | invalidDomain domain reason => s!"cannot check CAA for {Text.quoted domain}: {reason}"
  | lookup domain _ => s!"error checking caa record on domain: {domain}"

def layers (e : CheckError) : List String :=
  match e with
  | invalidDomain _ _ => [e.message]
  | lookup _ source => [e.message, source.message]

end CheckError

/-- Asks the names of a path in order. The first one that has CAA records decides, and a failed
lookup ends the walk. -/
def walk (lookup : Lookup) (wildcard : Bool) (issuer : String) :
    List String → Asked (Except CheckError (List Finding))
  | [] => pure (.ok [])
  | level :: path => do
      match ← ask lookup ⟨level, .caa⟩ with
      | .error (.unresolved reason) =>
          pure (.ok [Finding.dnsLookupFailed level RecordType.caa.text reason])
      | .error e => pure (.error (.lookup level e))
      | .ok answer =>
          match answer.filterMap Record.caa? with
          | [] => walk lookup wildcard issuer path
          | records => pure (.ok (evaluate level wildcard records issuer).toList)

def check (suffix : String → Option String) (lookup : Lookup) (domain issuer : String) :
    Asked (Except CheckError (List Finding)) :=
  let (name, wildcard) := Name.splitWildcard domain
  if name = "" ∨ suffix name = none then
    pure (.error (.invalidDomain domain "no public suffix"))
  else walk lookup wildcard issuer (Name.searchPath suffix name)

end IssuanceCheck.Caa
