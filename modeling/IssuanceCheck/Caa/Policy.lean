import IssuanceCheck.Dns.Record
import IssuanceCheck.Finding
import IssuanceCheck.Text.Lowercase

namespace IssuanceCheck.Caa

open Dns Text

inductive Role where
  | issue
  | issuewild
  | criticalUnknown
  | ignored
deriving DecidableEq, Repr

def role (record : CaaRecord) : Role :=
  let tag := toAsciiLower record.tag.toList
  if tag = "issue".toList then .issue
  else if tag = "issuewild".toList then .issuewild
  else if tag = "iodef".toList then .ignored
  else if record.isCritical then .criticalUnknown
  else .ignored

structure Policy where
  issue : List CaaRecord
  issuewild : List CaaRecord
  criticalUnknown : List CaaRecord
deriving Repr

namespace Policy

def classify (records : List CaaRecord) : Policy where
  issue := records.filter (role · = .issue)
  issuewild := records.filter (role · = .issuewild)
  criticalUnknown := records.filter (role · = .criticalUnknown)

def applicableRole (policy : Policy) (wildcard : Bool) : Role :=
  if wildcard && !policy.issuewild.isEmpty then .issuewild else .issue

def applicable (policy : Policy) (wildcard : Bool) : List CaaRecord :=
  if policy.applicableRole wildcard = .issuewild then policy.issuewild else policy.issue

end Policy

/-- The issuer that a value names: everything before the first semicolon, without the spaces and
tabs around it. -/
def issuerChars (value : List Char) : List Char :=
  trimWhile (fun c => c == ' ' || c == '\t') (value.takeWhile (· ≠ ';'))

def issuer (value : String) : String := String.ofList (issuerChars value.toList)

def collate (records : List CaaRecord) : String :=
  String.ofList (joinWith ['\n'] (records.map (·.text.toList)))

def criticalUnknown (domain : String) (wildcard : Bool) (records : List CaaRecord)
    (issuer : String) : Finding where
  name := "CaaCriticalUnknown"
  explanation :=
    s!"CAA record(s) exist on {domain} (wildcard={wildcard}) that are marked as critical " ++
    s!"but are unknown to the CA ({issuer}). These record(s) as shown in the detail " ++
    "must be removed, or marked as non-critical, before a certificate can be issued."
  detail := collate records
  severity := .fatal

def issuanceNotAllowed (domain : String) (wildcard : Bool) (records : List CaaRecord)
    (issuer : String) : Finding where
  name := "CaaIssuanceNotAllowed"
  explanation :=
    s!"No CAA record on {domain} (wildcard={wildcard}) contains the issuance domain " ++
    s!"\"{issuer}\". You must either add an additional record to include " ++
    s!"\"{issuer}\" or remove every existing CAA record. A list of the CAA records " ++
    "are provided in the details."
  detail := collate records
  severity := .fatal

/-- Decides whether the records of `domain` let an issuer issue. There is no finding if they do. -/
def evaluate (domain : String) (wildcard : Bool) (records : List CaaRecord) (issuer : String) :
    Option Finding :=
  let policy := Policy.classify records
  if !policy.criticalUnknown.isEmpty then
    some (criticalUnknown domain wildcard policy.criticalUnknown issuer)
  else if policy.issue.isEmpty && !wildcard then none
  else if (policy.applicable wildcard).any (fun r => Caa.issuer r.value = issuer) then none
  else some (issuanceNotAllowed domain wildcard (policy.applicable wildcard) issuer)

end IssuanceCheck.Caa
