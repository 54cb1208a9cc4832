import IssuanceCheck.Decimal
import IssuanceCheck.Text.Lines
import IssuanceCheck.Text.Quoted

namespace IssuanceCheck

open Text (joinWith hexDigits hexDigit? hexNat)

/-- An IPv4 address as one number, the first octet in the highest bits. -/
structure Ipv4 where
  bits : UInt32
deriving DecidableEq, Repr

structure Ipv6 where
  groups : Vector UInt16 8
deriving DecidableEq, Repr

inductive IpAddr where
  | v4 (address : Ipv4)
  | v6 (address : Ipv6)
deriving DecidableEq, Repr

namespace Ipv4

def ofNat (n : Nat) : Ipv4 := ⟨UInt32.ofNat n⟩

def ofOctets (octets : List Nat) : Ipv4 := ofNat (octets.foldl (fun n o => n * 256 + o) 0)

def octets (a : Ipv4) : List Nat :=
  let n := a.bits.toNat
  [n / 0x1000000, n / 0x10000 % 256, n / 0x100 % 256, n % 256]

def chars (a : Ipv4) : List Char := joinWith ['.'] (a.octets.map Decimal.digits)

def octet? (cs : List Char) : Option Nat :=
  if 1 < cs.length && cs.head? == some '0' || 3 < cs.length then none
  else (Decimal.readDigits? cs).filter (· < 256)

def ofChars? (cs : List Char) : Option Ipv4 :=
  let parts := cs.splitOn '.'
  if parts.length = 4 then (parts.mapM octet?).map ofOctets else none

end Ipv4

namespace Ipv6

def ofList (groups : List Nat) : Ipv6 :=
  ⟨Vector.ofFn fun i => UInt16.ofNat (groups.getD i 0)⟩

def toList (a : Ipv6) : List Nat := a.groups.toList.map UInt16.toNat

def ofOctets (octets : List Nat) : Ipv6 :=
  ofList ((List.range 8).map fun i => octets.getD (2 * i) 0 * 256 + octets.getD (2 * i + 1) 0)

def mapped? (a : Ipv6) : Option Ipv4 :=
  match a.toList with
  | [0, 0, 0, 0, 0, 0xFFFF, high, low] => some (Ipv4.ofNat (high * 65536 + low))
  | _ => none

def zeroRun (groups : List Nat) : Nat × Nat :=
  (List.range groups.length).foldl (fun best start =>
    let length := ((groups.drop start).takeWhile (· = 0)).length
    if best.2 < length then (start, length) else best) (0, 0)

def joinGroups (groups : List Nat) : List Char := joinWith [':'] (groups.map hexDigits)

/-- The groups in lower case, with the first longest run of at least two zeros left out. -/
def groupChars (a : Ipv6) : List Char :=
  let gs := a.toList
  let (start, length) := zeroRun gs
  if length < 2 then joinGroups gs
  else joinGroups (gs.take start) ++ [':', ':'] ++ joinGroups (gs.drop (start + length))

def chars (a : Ipv6) : List Char :=
  match a.mapped? with
  | some v4 => [':', ':', 'f', 'f', 'f', 'f', ':'] ++ v4.chars
  | none => a.groupChars

def group? (cs : List Char) : Option Nat :=
  if cs.isEmpty || 4 < cs.length || !cs.all (fun c => (hexDigit? c).isSome) then none
  else some (hexNat cs)

/-- Groups between colons. At the end of an address the last two may be written as an IPv4
address. -/
def groups? (atEnd : Bool) (cs : List Char) : Option (List Nat) :=
  if cs.isEmpty then some []
  else
    let parts := cs.splitOn ':'
    match if atEnd then (parts.getLast?.bind Ipv4.ofChars?) else none with
    | some v4 =>
        (parts.dropLast.mapM group?).map
          (· ++ [v4.bits.toNat / 65536, v4.bits.toNat % 65536])
    | none => parts.mapM group?

def splitGap? : List Char → Option (List Char × List Char)
  | ':' :: ':' :: rest => some ([], rest)
  | c :: rest => (splitGap? rest).map fun parts => (c :: parts.1, parts.2)
  | [] => none

def ofChars? (cs : List Char) : Option Ipv6 :=
  match splitGap? cs with
  | none => ((groups? true cs).filter (·.length = 8)).map ofList
  | some (before, after) => do
      let head ← groups? false before
      let tail ← groups? true after
      if head.length + tail.length ≤ 7 then
        some (ofList (head ++ List.replicate (8 - (head.length + tail.length)) 0 ++ tail))
      else none

end Ipv6

namespace IpAddr

/-- An IPv4 address in its IPv6 form counts as the IPv4 address. -/
def canonical : IpAddr → IpAddr
  | v4 a => v4 a
  | v6 a => match a.mapped? with
      | some b => v4 b
      | none => v6 a

def text : IpAddr → String
  | v4 a => String.ofList a.chars
  | v6 a => String.ofList a.chars

def ofString? (s : String) : Option IpAddr :=
  match Ipv4.ofChars? s.toList with
  | some a => some (v4 a)
  | none => (Ipv6.ofChars? s.toList).map v6

end IpAddr

instance : ToString IpAddr := ⟨IpAddr.text⟩

end IssuanceCheck
