import IssuanceCheck.Idna
import IssuanceCheck.Url.Basic
import IssuanceCheck.Url.Percent

namespace IssuanceCheck.Url

open Text

inductive ParseError where
  | emptyHost
  | internationalName
  | domainCharacter
  | portNumber
  | ipv4Address
  | ipv6Address
  | withoutBase
  | rootlessBase
deriving DecidableEq, Repr

def ParseError.message : ParseError → String
  | emptyHost => "empty host"
  | internationalName => "invalid international domain name"
  | domainCharacter => "invalid domain character"
  | portNumber => "invalid port number"
  | ipv4Address => "invalid IPv4 address"
  | ipv6Address => "invalid IPv6 address"
  | withoutBase => "relative URL without a base"
  | rootlessBase => "relative URL with a cannot-be-a-base base"

namespace Host

/-- A part of an IPv4 address: hexadecimal behind `0x`, octal behind `0`, else decimal. -/
def addressPart? (cs : List Char) : Option Nat :=
  match cs with
  | [] => none
  | ['0'] => some 0
  | '0' :: x :: digits =>
      if x = 'x' ∨ x = 'X' then readIn 16 digits else readIn 8 (x :: digits)
  | _ => readIn 10 cs
where
  readIn (base : Nat) (digits : List Char) : Option Nat :=
    digits.foldlM (fun n c => ((hexDigit? c).filter (· < base)).map (n * base + ·)) 0

def addressParts (cs : List Char) : List (List Char) :=
  let parts := cs.splitOn '.'
  if 1 < parts.length && parts.getLast? == some [] then parts.dropLast else parts

def endsInNumber (cs : List Char) : Bool :=
  match (addressParts cs).getLast? with
  | none => false
  | some last => (!last.isEmpty && last.all Char.isDigit) || (addressPart? last).isSome

/-- Up to four numbers: each but the last fills one octet, the last one all octets that remain. -/
def ipv4? (cs : List Char) : Option Ipv4 := do
  let numbers ← (addressParts cs).mapM addressPart?
  let last ← numbers.getLast?
  let octets := numbers.dropLast
  if 3 < octets.length || octets.any (255 < ·) || Nat.pow 256 (4 - octets.length) ≤ last then none
  pure (Ipv4.ofNat
    (octets.foldl (fun n o => n * 256 + o) 0 * Nat.pow 256 (4 - octets.length) + last))

def bracketed (cs : List Char) : Except ParseError Host :=
  if cs.getLast? = some ']' then
    match Ipv6.ofChars? (cs.drop 1).dropLast with
    | some a => .ok (ipv6 a)
    | none => .error .ipv6Address
  else .error .ipv6Address

def parse (cs : List Char) : Except ParseError Host :=
  if cs.head? = some '[' then bracketed cs
  else
    match (decodeStrict? (percentDecode cs)).bind (Idna.toAscii? Idna.isForbiddenInHost) with
    | none => .error .internationalName
    | some [] => .error .emptyHost
    | some ascii =>
        if endsInNumber ascii then
          match ipv4? ascii with
          | some a => .ok (ipv4 a)
          | none => .error .ipv4Address
        else .ok (name (String.ofList ascii))

def isForbidden (c : Char) : Bool := "\x00\t\n\r #/:<>?@[\\]^|".toList.contains c

def parseOther (cs : List Char) : Except ParseError (Option Host) :=
  if cs.head? = some '[' then (bracketed cs).map some
  else if cs.any isForbidden then .error .domainCharacter
  else if cs.isEmpty then .ok none
  else .ok (some (name (String.ofList (percentEncode isC0Control cs))))

end Host

end IssuanceCheck.Url
