import IssuanceCheck.Text.Search

namespace IssuanceCheck.Idna.Punycode

/-- How far the digit at place `k` may go before it ends a number. -/
def threshold (bias k : Nat) : Nat := min 26 (max 1 (k - bias))

def shrink (delta k : Nat) : Nat × Nat :=
  if 455 < delta then shrink (delta / 35) (k + 36) else (delta, k)

def adapt (delta count : Nat) (isFirst : Bool) : Nat :=
  let delta := delta / (if isFirst then 700 else 2)
  let (delta, k) := shrink (delta + delta / count) 0
  k + 36 * delta / (delta + 38)

def digit (n : Nat) : Char := Char.ofNat (if n < 26 then 97 + n else 22 + n)

def digitValue? (c : Char) : Option Nat :=
  if c.isDigit then some (c.toNat - 22)
  else if c.isAlpha then some (c.toLower.toNat - 97)
  else none

theorem threshold_pos (bias k : Nat) : 1 ≤ threshold bias k := by
  simp only [threshold]
  omega

def number (bias k q : Nat) : List Char :=
  let t := threshold bias k
  if q < t then [digit q]
  else digit (t + (q - t) % (36 - t)) :: number bias (k + 36) ((q - t) / (36 - t))
termination_by q
decreasing_by
  have := threshold_pos bias k
  exact Nat.lt_of_le_of_lt (Nat.div_le_self _ _) (by omega)

/-- The state of encoding: what is written, the open distance, the bias, and how many characters
are in place. -/
structure Progress where
  out : List Char
  delta : Nat
  bias : Nat
  placed : Nat

def Progress.pass (basic m : Nat) (p : Progress) (c : Char) : Progress :=
  if c.toNat < m then { p with delta := p.delta + 1 }
  else if c.toNat = m then
    { out := p.out ++ number p.bias 36 p.delta
      delta := 0
      bias := adapt p.delta (p.placed + 1) (p.placed == basic)
      placed := p.placed + 1 }
  else p

def place (text : List Char) (basic n : Nat) (p : Progress) : List Nat → Progress
  | [] => p
  | m :: ms =>
      let p := { p with delta := p.delta + (m - n) * (p.placed + 1) }
      let p := text.foldl (Progress.pass basic m) p
      place text basic (m + 1) { p with delta := p.delta + 1 } ms

def encode (text : List Char) : List Char :=
  let basic := text.filter (·.toNat < 0x80)
  let others := ((text.map Char.toNat).filter (0x80 ≤ ·)).mergeSort.eraseDups
  let start := if basic.isEmpty then [] else basic ++ ['-']
  (place text basic.length 0x80 ⟨start, 0, 72, basic.length⟩ others).out

/-- Decodes the digits behind the last hyphen. `n` and `i` are the code point and the place that
the last number led to; the open number began at `start` and goes on at place `k` with `weight`. -/
def insertAll (out : List Char) (n bias : Nat) (start i weight k : Nat) :
    List Char → Option (List Char)
  | [] => if k = 36 then some out else none
  | c :: rest => do
      let d ← digitValue? c
      let i := i + d * weight
      let t := threshold bias k
      if d < t then
        let count := out.length + 1
        let n := n + i / count
        let at' := i % count
        if n.isValidChar then
          insertAll (out.take at' ++ Char.ofNat n :: out.drop at') n
            (adapt (i - start) count (start == 0)) (at' + 1) (at' + 1) 1 36 rest
        else none
      else insertAll out n bias start i (weight * (36 - t)) (k + 36) rest

def decode? (text : List Char) : Option (List Char) :=
  let (basic, digits) := (Text.splitLast? '-' text).getD ([], text)
  insertAll basic 0x80 72 0 0 1 36 digits

end IssuanceCheck.Idna.Punycode
