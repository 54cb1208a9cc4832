import IssuanceCheck.Ip
import IssuanceCheck.Text.Blank
import IssuanceCheck.Text.Utf8

namespace IssuanceCheck.Dns

open Text

/-- What a query asks for. Of the types without addresses or policies only the name and the code
matter. -/
inductive RecordType where
  | a
  | aaaa
  | caa
  | txt
  | mx
  | other (name : String) (code : UInt16)
deriving DecidableEq, Repr

namespace RecordType

def code : RecordType → Nat
  | a => 1
  | mx => 15
  | txt => 16
  | aaaa => 28
  | caa => 257
  | other _ code => code.toNat

def text : RecordType → String
  | a => "A"
  | aaaa => "AAAA"
  | caa => "CAA"
  | txt => "TXT"
  | mx => "MX"
  | other name _ => name

def isAny (type : RecordType) : Bool := type.code = 255

end RecordType

structure CaaRecord where
  name : String
  flags : UInt8
  tag : String
  value : String
deriving DecidableEq, Repr

namespace CaaRecord

/-- The highest flag bit makes a record critical, and so does the lowest, which has been set in its
place. -/
def isCritical (r : CaaRecord) : Bool := r.flags &&& 0x81 != 0

def text (r : CaaRecord) : String :=
  s!"{r.name}.\tIN\tCAA\t{Decimal.text r.flags.toNat} {r.tag} \"{r.value}\""

def stripRootDots (name : String) : String :=
  String.ofList (dropEndWhile (· = '.') name.toList)

/-- Reads the flags, the length of the tag, the tag and the value. An empty tag is refused, and so
are fewer bytes than the length promises. -/
def ofRdata? (name : String) : List UInt8 → Option CaaRecord
  | flags :: length :: rest =>
      if length = 0 ∨ rest.length < length.toNat then none
      else some {
        name := stripRootDots name
        flags := flags
        tag := String.ofList (decodeLossy (rest.take length.toNat))
        value := String.ofList (decodeLossy (rest.drop length.toNat)) }
  | _ => none

def rdata (r : CaaRecord) : List UInt8 :=
  let tag := encodeUtf8 r.tag.toList
  r.flags :: UInt8.ofNat tag.length :: tag ++ encodeUtf8 r.value.toList

end CaaRecord

inductive Record where
  | a (address : Ipv4)
  | aaaa (address : Ipv6)
  | caa (record : CaaRecord)
deriving DecidableEq, Repr

namespace Record

def caa? : Record → Option CaaRecord
  | caa r => some r
  | _ => none

def ipv4? : Record → Option IpAddr
  | a address => some (.v4 address)
  | _ => none

def ipv6? : Record → Option IpAddr
  | aaaa address => some (.v6 address)
  | _ => none

def ofAddress : IpAddr → Record
  | .v4 address => a address
  | .v6 address => aaaa address

end Record

end IssuanceCheck.Dns
