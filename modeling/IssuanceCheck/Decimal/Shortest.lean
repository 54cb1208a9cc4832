import IssuanceCheck.Decimal

namespace IssuanceCheck.Decimal

structure Ratio where
  num : Nat
  den : Nat

namespace Ratio

def le (a b : Ratio) : Bool := a.num * b.den ≤ b.num * a.den

def add (a b : Ratio) : Ratio := ⟨a.num * b.den + b.num * a.den, a.den * b.den⟩

def shift (a : Ratio) (k : Int) : Ratio :=
  if 0 ≤ k then ⟨a.num * Nat.pow 2 k.toNat, a.den⟩
  else ⟨a.num, a.den * Nat.pow 2 (-k).toNat⟩

def unitsOfTen (a : Ratio) (k : Int) : Nat :=
  if 0 ≤ k then a.num / (a.den * Nat.pow 10 k.toNat)
  else a.num * Nat.pow 10 (-k).toNat / a.den

def roundEven (a : Ratio) : Nat :=
  let q := a.num / a.den
  let r := a.num % a.den
  if 2 * r < a.den then q else if a.den < 2 * r then q + 1 else q + q % 2

end Ratio

structure Binary where
  mantissa : Nat
  exponent : Int

namespace Binary

def toRatio (b : Binary) : Ratio := Ratio.shift ⟨b.mantissa, 1⟩ b.exponent

def minMantissa : Nat := Nat.pow 2 52

/-- The nearest number with a mantissa of 53 bits, for fractions whose size is well inside the
range of the format. -/
def ofRatio (a : Ratio) : Binary :=
  if a.num = 0 then ⟨0, 0⟩
  else
    let guess : Int := (a.num.log2 : Int) - a.den.log2 - 52
    let exponent := if Ratio.le ⟨minMantissa, 1⟩ (a.shift (-guess)) then guess else guess - 1
    let mantissa := (a.shift (-exponent)).roundEven
    if mantissa = 2 * minMantissa then ⟨minMantissa, exponent + 1⟩ else ⟨mantissa, exponent⟩

def add (a b : Binary) : Binary := ofRatio (a.toRatio.add b.toRatio)

/-- The bounds of the fractions that round to this number, and whether the bounds do so too. Below
a power of two the numbers lie twice as close. -/
def bounds (b : Binary) : Ratio × Ratio × Bool :=
  let low : Binary :=
    if b.mantissa = minMantissa then ⟨4 * b.mantissa - 1, b.exponent - 2⟩
    else ⟨2 * b.mantissa - 1, b.exponent - 1⟩
  (low.toRatio, (⟨2 * b.mantissa + 1, b.exponent - 1⟩ : Binary).toRatio, b.mantissa % 2 == 0)

def reads (b : Binary) (a : Ratio) : Bool :=
  let (low, high, closed) := b.bounds
  if closed then low.le a && a.le high else !a.le low && !high.le a

def scaled (n : Nat) (k : Int) : Ratio :=
  if 0 ≤ k then ⟨n * Nat.pow 10 k.toNat, 1⟩ else ⟨n, Nat.pow 10 (-k).toNat⟩

/-- Looks on the grids of ever smaller powers of ten for a neighbour of the number that reads back
as it. Of two such neighbours the nearer one is taken, and on a tie the greater. -/
def search (b : Binary) : Nat → Int → Nat × Int
  | 0, k => (b.toRatio.unitsOfTen k, k)
  | fuel + 1, k =>
      let below := b.toRatio.unitsOfTen k
      let middle := scaled (10 * below + 5) (k - 1)
      match b.reads (scaled below k), b.reads (scaled (below + 1) k) with
      | false, false => search b fuel (k - 1)
      | true, false => (below, k)
      | false, true => (below + 1, k)
      | true, true => if middle.le b.toRatio then (below + 1, k) else (below, k)

def positional (n : Nat) (k : Int) : List Char :=
  if 0 ≤ k then digits n ++ List.replicate (if n = 0 then 0 else k.toNat) '0'
  else
    let places := (-k).toNat
    let ds := digits n
    let ds := List.replicate (places + 1 - ds.length) '0' ++ ds
    ds.take (ds.length - places) ++ '.' :: ds.drop (ds.length - places)

/-- The fewest decimal digits that read back as this number, with no exponent. The search starts
above the leading digit, so every grid is tried; 18 digits always suffice. -/
def shortest (b : Binary) : List Char :=
  if b.mantissa = 0 then ['0']
  else
    let a := b.toRatio
    let start : Int := ((a.num.log2 : Int) - a.den.log2 + 1) * 1234 / 4096 + 2
    let found := search b 24 start
    positional found.1 found.2

theorem isDigit_or_point_of_mem_positional {n : Nat} {k : Int} {c : Char}
    (h : c ∈ positional n k) : c.isDigit = true ∨ c = '.' := by
  have hdigits (c : Char) (hc : c ∈ digits n) : c.isDigit = true :=
    isDigit_of_readDigits? (readDigits?_digits n) c hc
  have hzeros (m : Nat) (c : Char) (hc : c ∈ List.replicate m '0') : c.isDigit = true := by
    rw [List.eq_of_mem_replicate hc]
    rfl
  have hpadded (m : Nat) (c : Char) (hc : c ∈ List.replicate m '0' ++ digits n) :
      c.isDigit = true :=
    (List.mem_append.1 hc).elim (hzeros m c) (hdigits c)
  rw [positional] at h
  split at h
  · exact .inl ((List.mem_append.1 h).elim (hdigits c) (hzeros _ c))
  · rcases List.mem_append.1 h with h | h
    · exact .inl (hpadded _ c (List.mem_of_mem_take h))
    · rcases List.mem_cons.1 h with h | h
      · exact .inr h
      · exact .inl (hpadded _ c (List.mem_of_mem_drop h))

theorem isDigit_or_point_of_mem_shortest {b : Binary} {c : Char} (h : c ∈ b.shortest) :
    c.isDigit = true ∨ c = '.' := by
  rw [shortest] at h
  split at h
  · rw [List.mem_singleton.1 h]
    exact .inl rfl
  · exact isDigit_or_point_of_mem_positional h

end Binary

end IssuanceCheck.Decimal
