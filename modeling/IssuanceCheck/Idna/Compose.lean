import IssuanceCheck.Idna.Composites
import IssuanceCheck.Text.Ranges

namespace IssuanceCheck.Idna

open Text

def composites : Array (Nat × Char × Char) :=
  (compositeTable.map fun (whole, first, second) =>
    (whole, Char.ofNat first, Char.ofNat second)).toArray

def pairKey (a b : Char) : Nat := a.toNat * 0x110000 + b.toNat

def compositesByPair : Array (Nat × Char) :=
  (composites.toList.map (fun e => (pairKey e.2.1 e.2.2, Char.ofNat e.1))
    |>.mergeSort fun a b => a.1 ≤ b.1).toArray

def combiningTable : Array (Nat × Nat × Nat) := combiningRanges.toArray

def combiningClass (c : Char) : Nat :=
  match lastAtMost (·.1) combiningTable c.toNat with
  | some (_, last, value) => if c.toNat ≤ last then value else 0
  | none => 0

def decomposeHangul? (c : Char) : Option (List Char) :=
  let n := c.toNat
  if 0xAC00 ≤ n && n < 0xAC00 + 11172 then
    let i := n - 0xAC00
    let lead := Char.ofNat (0x1100 + i / 588)
    let vowel := Char.ofNat (0x1161 + i % 588 / 28)
    some (if i % 28 = 0 then [lead, vowel] else [lead, vowel, Char.ofNat (0x11A7 + i % 28)])
  else none

/-- Takes a character apart, and the first of its parts again, as often as `depth` allows. No
composite is more than three steps deep. -/
def decomposeWithin : Nat → Char → List Char
  | 0, c => [c]
  | depth + 1, c =>
      match decomposeHangul? c with
      | some parts => parts
      | none =>
          match lastAtMost (·.1) composites c.toNat with
          | some (whole, first, second) =>
              if whole = c.toNat then decomposeWithin depth first ++ [second] else [c]
          | none => [c]

def orderMarks (cs : List Char) : List Char :=
  go [] cs
where
  sorted (marks : List (Nat × Char)) : List Char :=
    (marks.reverse.mergeSort fun a b => a.1 ≤ b.1).map (·.2)
  go (marks : List (Nat × Char)) : List Char → List Char
    | [] => sorted marks
    | c :: rest =>
        let value := combiningClass c
        if value = 0 then sorted marks ++ c :: go [] rest else go ((value, c) :: marks) rest

def composeHangul? (a b : Char) : Option Char :=
  let x := a.toNat
  let y := b.toNat
  if 0x1100 ≤ x && x < 0x1113 && 0x1161 ≤ y && y < 0x1176 then
    some (Char.ofNat (0xAC00 + (x - 0x1100) * 588 + (y - 0x1161) * 28))
  else if 0xAC00 ≤ x && x < 0xAC00 + 11172 && (x - 0xAC00) % 28 = 0 && 0x11A7 < y && y < 0x11C3 then
    some (Char.ofNat (x + (y - 0x11A7)))
  else none

def composePair? (a b : Char) : Option Char :=
  match composeHangul? a b with
  | some c => some c
  | none =>
      match lastAtMost (·.1) compositesByPair (pairKey a b) with
      | some (key, c) => if key = pairKey a b then some c else none
      | none => none

/-- Joins each character to the last starter where the two have a composite and nothing in between
blocks it. The marks behind the starter are kept in reverse; `last` is the class of the latest. -/
def composeFrom (starter : Char) (marks : List Char) (last : Nat) : List Char → List Char
  | [] => starter :: marks.reverse
  | c :: rest =>
      let value := combiningClass c
      match if marks.isEmpty || last < value then composePair? starter c else none with
      | some joined => composeFrom joined marks last rest
      | none =>
          if value = 0 then starter :: marks.reverse ++ composeFrom c [] 0 rest
          else composeFrom starter (c :: marks) value rest

def composeAll : List Char → List Char
  | [] => []
  | c :: rest =>
      if combiningClass c = 0 then composeFrom c [] 0 rest else c :: composeAll rest

/-- Normalization Form C, for characters that a host name may hold. Text of ASCII characters is in
that form already. -/
def compose (cs : List Char) : List Char :=
  if cs.all (·.toNat < 0x80) then cs
  else composeAll (orderMarks (cs.flatMap (decomposeWithin 4)))

end IssuanceCheck.Idna
