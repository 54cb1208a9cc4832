namespace IssuanceCheck.Text

/-- What a lead byte of a sequence of more than one byte asks for: its own bits, the least and
greatest second byte, and how many bytes come after the second. Overlong forms, surrogates and
values above the last code point are ruled out by the second byte. -/
def leadByte (b : UInt8) : Option (Nat × UInt8 × UInt8 × Nat) :=
  if 0xC2 ≤ b && b ≤ 0xDF then some (b.toNat % 0x20, 0x80, 0xBF, 0)
  else if b == 0xE0 then some (0, 0xA0, 0xBF, 1)
  else if b == 0xED then some (0xD, 0x80, 0x9F, 1)
  else if 0xE1 ≤ b && b ≤ 0xEF then some (b.toNat % 0x10, 0x80, 0xBF, 1)
  else if b == 0xF0 then some (0, 0x90, 0xBF, 2)
  else if 0xF1 ≤ b && b ≤ 0xF3 then some (b.toNat % 8, 0x80, 0xBF, 2)
  else if b == 0xF4 then some (4, 0x80, 0x8F, 2)
  else none

def isContinuation (b : UInt8) : Bool := 0x80 ≤ b && b ≤ 0xBF

def continuation : Nat → Nat → List UInt8 → Option Char × List UInt8
  | 0, acc, bs => (some (Char.ofNat acc), bs)
  | _ + 1, _, [] => (none, [])
  | n + 1, acc, b :: bs =>
      if isContinuation b then continuation n (acc * 0x40 + b.toNat % 0x40) bs else (none, b :: bs)

/-- The character that begins with byte `b`, or `none` after the longest start of a character
that the bytes hold, and the bytes that remain. -/
def decodeNext (b : UInt8) (bs : List UInt8) : Option Char × List UInt8 :=
  if b < 0x80 then (some (Char.ofNat b.toNat), bs)
  else
    match leadByte b, bs with
    | none, bs => (none, bs)
    | some _, [] => (none, [])
    | some (acc, lo, hi, n), b :: bs =>
        if lo ≤ b && b ≤ hi then continuation n (acc * 0x40 + b.toNat % 0x40) bs
        else (none, b :: bs)

theorem continuation_length (n acc : Nat) (bs : List UInt8) :
    (continuation n acc bs).2.length ≤ bs.length := by
  induction n generalizing acc bs with
  | zero => simp [continuation]
  | succ n ih =>
      cases bs with
      | nil => simp [continuation]
      | cons b bs =>
          unfold continuation
          split
          · exact Nat.le_succ_of_le (ih _ _)
          · exact Nat.le_refl _

theorem decodeNext_length (b : UInt8) (bs : List UInt8) :
    (decodeNext b bs).2.length ≤ bs.length := by
  unfold decodeNext
  split
  · exact Nat.le_refl _
  · split
    · exact Nat.le_refl _
    · exact Nat.le_refl _
    · split
      · exact Nat.le_succ_of_le (continuation_length _ _ _)
      · exact Nat.le_refl _

def decodeUtf8 : List UInt8 → List (Option Char)
  | [] => []
  | b :: bs =>
      let next := decodeNext b bs
      next.1 :: decodeUtf8 next.2
termination_by bs => bs.length
decreasing_by
  have := decodeNext_length b bs
  simp only [List.length_cons]
  omega

def decodeLossy (bs : List UInt8) : List Char :=
  (decodeUtf8 bs).map (·.getD (Char.ofNat 0xFFFD))

def decodeStrict? (bs : List UInt8) : Option (List Char) :=
  (decodeUtf8 bs).mapM id

def encodeUtf8 (cs : List Char) : List UInt8 := cs.flatMap String.utf8EncodeChar

end IssuanceCheck.Text
