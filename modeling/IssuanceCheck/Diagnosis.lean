import IssuanceCheck.Caa.Walk
import IssuanceCheck.Dns.Addresses
import IssuanceCheck.Fetch.Check
import IssuanceCheck.Fetch.Join
import IssuanceCheck.Report

namespace IssuanceCheck

open Dns

def defaultIssuer : String := "letsencrypt.org"

structure Request where
  domain : String
  method : Method := .http01
  issuer : String := defaultIssuer
deriving DecidableEq, Repr

structure Diagnosis where
  report : Report
  fetches : List Fetch.Checked
deriving Repr

def methodNotSuitable (domain : String) (method : Method) : Finding where
  name := "MethodNotSuitable"
  explanation :=
    s!"A wildcard domain name ({domain}) was provided with the {method} validation " ++
    "method. Wildcard certificates can only be validated using dns-01."
  detail := ""
  severity := .fatal

def noRecords (name : String) : Finding where
  name := "NoRecords"
  explanation :=
    s!"No valid A or AAAA records could be ultimately resolved for {name}. This means " ++
    "that the CA would not be able to connect to your domain to perform HTTP " ++
    "validation, since it would not know where to connect to."
  detail := ""
  severity := .fatal

/-- Puts the most severe findings first; those of one severity keep their order. -/
def bySeverity (findings : List Finding) : List Finding :=
  findings.mergeSort fun a b => b.severity.rank ≤ a.severity.rank

abbrev Fetcher := String → IpAddr → Fetch.Checked

/-- Whoever replays it at all addresses of a name, with a result for each of them in their order. -/
abbrev Sweep := String → List IpAddr → List Fetch.Checked

def Fetcher.sweep (fetch : Fetcher) : Sweep := fun name addresses => addresses.map (fetch name)

/-- One fetch after the other comes to the same as all of them at the same time. -/
theorem Fetcher.sweep_eq_joinAll (fetch : Fetcher) (schedules : (n : Nat) → Fetch.Schedule n)
    (name : String) : fetch.sweep name = Fetch.joinAll schedules fun _ => fetch name := by
  funext addresses
  rw [Fetch.joinAll_eq_mapIdx]
  exact List.ext_getElem (by simp [sweep]) fun i _ _ => by simp [sweep]

inductive Effect where
  | query (query : Query)
  | fetch (name : String) (address : IpAddr)
deriving DecidableEq, Repr

def Effect.query? : Effect → Option Query
  | query q => some q
  | fetch _ _ => none

def Sweep.start (sweep : Sweep) (name : String) (addresses : List IpAddr) :
    Traced Effect (List Fetch.Checked) :=
  ⟨addresses.map (.fetch name), sweep name addresses⟩

def checkAddresses (lookup : Lookup) (sweep : Sweep) (name : String) :
    Traced Effect (List Finding × List Fetch.Checked) := do
  match ← (Addresses.resolve lookup name).mapTrace .query with
  | .error (type, e) => pure ([Finding.dnsLookupFailed name type.text e.message], [])
  | .ok addresses =>
      if addresses.isEmpty then pure ([noRecords name], [])
      else
        let fetches ← sweep.start name addresses.all
        pure (fetches.filterMap (·.finding), fetches)

namespace Request

def unsuitable (request : Request) : List Finding :=
  let domain := Name.normalize request.domain
  if (Name.splitWildcard domain).2 && !request.method.supportsWildcard then
    [methodNotSuitable domain request.method]
  else []

def reached (request : Request) (lookup : Lookup) (sweep : Sweep) :
    Traced Effect (List Finding × List Fetch.Checked) :=
  let (name, wildcard) := Name.splitWildcard (Name.normalize request.domain)
  if request.method = .http01 && !wildcard then checkAddresses lookup sweep name else pure ([], [])

end Request

/-- Runs every check that applies. Without a policy there is nothing else to check. -/
def diagnoseThrough (suffix : String → Option String) (lookup : Lookup) (sweep : Sweep)
    (request : Request) : Traced Effect (Except Caa.CheckError Diagnosis) := do
  let domain := Name.normalize request.domain
  match ← (Caa.check suffix lookup domain request.issuer).mapTrace .query with
  | .error e => pure (.error e)
  | .ok policy =>
      let (reached, fetches) ← request.reached lookup sweep
      pure (.ok ⟨⟨domain, request.method, bySeverity (request.unsuitable ++ policy ++ reached),
        fetches.map (·.observation)⟩, fetches⟩)

def diagnose (suffix : String → Option String) (lookup : Lookup) (fetch : Fetcher)
    (request : Request) : Traced Effect (Except Caa.CheckError Diagnosis) :=
  diagnoseThrough suffix lookup fetch.sweep request

end IssuanceCheck
