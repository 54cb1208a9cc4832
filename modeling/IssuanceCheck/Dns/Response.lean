import IssuanceCheck.Dns.Lookup
import IssuanceCheck.Dns.Message
import IssuanceCheck.Text.Lowercase

namespace IssuanceCheck.Dns

open Text

structure ResourceRecord where
  owner : String
  type : Nat
  rdata : List UInt8
deriving DecidableEq, Repr

def ownerKey (name : String) : List Char :=
  toAsciiLower (dropEndWhile (· = '.') name.toList)

namespace ResourceRecord

def aliasCode : Nat := 5

def target? (r : ResourceRecord) : Option String :=
  if r.type = aliasCode then
    match Reader.name r.rdata 0 with
    | .ok (labels, pos) =>
        if pos = r.rdata.length then
          some (String.ofList (joinWith ['.'] (labels.map decodeLossy)))
        else none
    | .error _ => none
  else none

def address? (r : ResourceRecord) : Option IpAddr :=
  let octets := r.rdata.map UInt8.toNat
  if r.type = RecordType.a.code ∧ octets.length = 4 then some (.v4 (Ipv4.ofOctets octets))
  else if r.type = RecordType.aaaa.code ∧ octets.length = 16 then
    some (.v6 (Ipv6.ofOctets octets))
  else none

/-- Whether the data are what the type promises. Types that are never asked for pass. -/
def isWellFormed (r : ResourceRecord) : Bool :=
  if r.type = aliasCode then r.target?.isSome
  else if r.type = RecordType.a.code ∨ r.type = RecordType.aaaa.code then r.address?.isSome
  else if r.type = RecordType.caa.code then (CaaRecord.ofRdata? r.owner r.rdata).isSome
  else true

end ResourceRecord

/-- What a name server sends back. A code other than zero means that there are no records. -/
structure Response where
  code : Nat
  answers : List ResourceRecord
deriving DecidableEq, Repr

namespace Response

def isWellFormed (r : Response) : Bool := r.answers.all (·.isWellFormed)

def resolveAlias (r : Response) : Nat → List Char → List Char
  | 0, key => key
  | n + 1, key =>
      match r.answers.find? fun a => a.type = ResourceRecord.aliasCode ∧ ownerKey a.owner = key with
      | some a => resolveAlias r n (ownerKey (a.target?.getD a.owner))
      | none => key

/-- The records that answer a query: addresses of the name itself and of the name that its aliases
lead to, or all CAA records, as records of the name. -/
def records (r : Response) (query : Query) : List Record :=
  if r.code ≠ 0 then []
  else
    let answers := r.answers.filter fun a => query.type.isAny || a.type = query.type.code
    match query.type with
    | .caa => (answers.filterMap fun a => CaaRecord.ofRdata? query.name a.rdata).map Record.caa
    | _ =>
        let key := ownerKey query.name
        let last := r.resolveAlias r.answers.length key
        let owned := answers.filter fun a => ownerKey a.owner = key ∨ ownerKey a.owner = last
        owned.filterMap fun a => a.address?.map Record.ofAddress

def nonexistent : Response := ⟨3, []⟩

end Response

abbrev Responses := List ((String × Nat) × Response)

def Responses.respond (responses : Responses) (query : Query) : Response :=
  match responses.find? fun r =>
      ownerKey r.1.1 = ownerKey query.name ∧ r.1.2 = query.type.code with
  | some r => r.2
  | none => Response.nonexistent

end IssuanceCheck.Dns
