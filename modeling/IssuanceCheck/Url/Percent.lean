import IssuanceCheck.Text.Ranges
import IssuanceCheck.Text.Utf8

namespace IssuanceCheck.Url

open Text

def upperHexDigit (n : Nat) : Char := Char.ofNat (if n < 10 then 48 + n else 55 + n)

def percentByte (b : UInt8) : List Char :=
  ['%', upperHexDigit (b.toNat / 16), upperHexDigit (b.toNat % 16)]

def percentEncode (escaped : Char → Bool) (cs : List Char) : List Char :=
  cs.flatMap fun c =>
    if 0x80 ≤ c.toNat || escaped c then (String.utf8EncodeChar c).flatMap percentByte else [c]

def isC0Control (c : Char) : Bool := c.toNat < 0x20 || c.toNat == 0x7F

def isFragmentEscaped (c : Char) : Bool := isC0Control c || " \"<>`".toList.contains c

def isPathEscaped (c : Char) : Bool := isFragmentEscaped c || "#?\x7b\x7d".toList.contains c

def isUserinfoEscaped (c : Char) : Bool := isPathEscaped c || "/:;=@[\\]^|".toList.contains c

def isQueryEscaped (c : Char) : Bool := isC0Control c || " \"#<>".toList.contains c

def isSpecialQueryEscaped (c : Char) : Bool := isQueryEscaped c || c == '\x27'

/-- The bytes that a text stands for. A percent sign without two hexadecimal digits stands for
itself. -/
def percentDecode : List Char → List UInt8
  | [] => []
  | '%' :: a :: b :: rest =>
      match hexDigit? a, hexDigit? b with
      | some high, some low => UInt8.ofNat (high * 16 + low) :: percentDecode rest
      | _, _ => 0x25 :: percentDecode (a :: b :: rest)
  | c :: rest => String.utf8EncodeChar c ++ percentDecode rest

end IssuanceCheck.Url
