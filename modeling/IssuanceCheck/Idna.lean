import IssuanceCheck.Idna.Compose
import IssuanceCheck.Idna.Direction
import IssuanceCheck.Idna.Joining
import IssuanceCheck.Idna.Mapping
import IssuanceCheck.Idna.Marks
import IssuanceCheck.Idna.Punycode
import IssuanceCheck.Text.Lines

namespace IssuanceCheck.Idna

open Text

def mapAll? (cs : List Char) : Option (List Char) := do
  let mapped ← cs.mapM fun c =>
    match mapping c with
    | .valid => some [c]
    | .ignored => some []
    | .disallowed => none
    | .mapped image => some image
  pure (compose mapped.flatten)

def zeroWidthNonJoiner : Char := Char.ofNat 0x200C

def zeroWidthJoiner : Char := Char.ofNat 0x200D

def virama : Nat := 9

/-- Joiners may stand behind a virama; the non-joiner also where it parts two letters that would
otherwise join. The text before is given in reverse. -/
def joinersFit (before : List Char) : List Char → Bool
  | [] => true
  | c :: rest =>
      let afterVirama := before.head?.any fun b => combiningClass b = virama
      let parts :=
        (before.dropWhile joinTransparent.contains).head?.any joinsAhead.contains &&
          (rest.dropWhile joinTransparent.contains).head?.any joinsBack.contains
      (if c = zeroWidthNonJoiner then afterVirama || parts
        else if c = zeroWidthJoiner then afterVirama
        else true) && joinersFit (c :: before) rest

def labelFits (label : List Char) : Bool :=
  !label.head?.any marks.contains && joinersFit [] label

def isBidirectional (c : Char) : Bool :=
  !c.toNat < 0x80 && (rightToLeft.contains c || arabicNumbers.contains c)

/-- The rule for the labels of a bidirectional name. A label is as a whole written from right to
left or from left to right, as its first character says. -/
def directionFits (label : List Char) : Bool :=
  match label with
  | [] => true
  | first :: _ =>
      let last := (label.reverse.dropWhile nonspacing.contains).head?
      let isLeftToRight (c : Char) : Bool :=
        !(rightToLeft.contains c || arabicNumbers.contains c || europeanNumbers.contains c ||
          nonspacing.contains c || directionNeutral.contains c || directionForbidden.contains c)
      if rightToLeft.contains first then
        label.all (fun c => !isLeftToRight c && !directionForbidden.contains c) &&
          last.any (fun c =>
            rightToLeft.contains c || europeanNumbers.contains c || arabicNumbers.contains c) &&
          !(label.any europeanNumbers.contains && label.any arabicNumbers.contains)
      else if isLeftToRight first then
        label.all (fun c => !(rightToLeft.contains c || arabicNumbers.contains c ||
          directionForbidden.contains c)) &&
          last.any (fun c => isLeftToRight c || europeanNumbers.contains c)
      else false

def isAscii (cs : List Char) : Bool := cs.all (·.toNat < 0x80)

/-- The Unicode form and the ASCII form of a mapped label. A label that begins with `xn--` has to
decode to text that is its own mapping. -/
def label? (refused : Char → Bool) (label : List Char) : Option (List Char × List Char) :=
  match label with
  | 'x' :: 'n' :: '-' :: '-' :: encoded => do
      if !isAscii label then none
      let decoded ← Punycode.decode? encoded
      if isAscii decoded || mapAll? decoded != some decoded || decoded.any refused then none
      if labelFits decoded then some (decoded, label) else none
  | _ =>
      if isAscii label then some (label, label)
      else if labelFits label then
        some (label, ['x', 'n', '-', '-'] ++ Punycode.encode label)
      else none

/-- The ASCII form of a host name: the name is mapped and composed, its labels are checked, and
those with characters beyond ASCII are encoded. The ASCII characters that `refused` names are not
allowed, also where they come from the mapping. -/
def toAscii? (refused : Char → Bool) (name : List Char) : Option (List Char) := do
  let mapped ← mapAll? name
  if mapped.any refused then none
  let labels ← (mapped.splitOn '.').mapM (label? refused)
  if labels.any (·.1.any isBidirectional) && !labels.all (directionFits ·.1) then none
  pure (joinWith ['.'] (labels.map (·.2)))

def isForbiddenInHost (c : Char) : Bool :=
  c.toNat ≤ 0x20 || c.toNat == 0x7F || "%#/:<>?@[\\]^|".toList.contains c

def isForbiddenInHostname (c : Char) : Bool :=
  c.toNat < 0x80 && !(c.isAlphanum || c == '-' || c == '.')

end IssuanceCheck.Idna
