import IssuanceCheck.Decimal
import IssuanceCheck.Text.Lines
import IssuanceCheck.Text.Quoted

namespace IssuanceCheck

open Text

inductive Json where
  | null
  | bool (b : Bool)
  | number (n : Nat)
  | string (s : String)
  | array (items : List Json)
  | object (fields : List (String × Json))

namespace Json

/-- Quotes, back slashes and control characters are escaped, the latter by letter where there is
one; nothing else is. -/
def escapeChar (c : Char) : List Char :=
  if c = '"' then ['\\', '"']
  else if c = '\\' then ['\\', '\\']
  else if c.toNat = 8 then ['\\', 'b']
  else if c.toNat = 9 then ['\\', 't']
  else if c.toNat = 10 then ['\\', 'n']
  else if c.toNat = 12 then ['\\', 'f']
  else if c.toNat = 13 then ['\\', 'r']
  else if c.toNat < 0x20 then
    ['\\', 'u', '0', '0', hexDigit (c.toNat / 16), hexDigit (c.toNat % 16)]
  else [c]

def stringChars (s : String) : List Char := '"' :: s.toList.flatMap escapeChar ++ ['"']

def newline (depth : Nat) : List Char := '\n' :: List.replicate (2 * depth) ' '

mutual

def chars (depth : Nat) : Json → List Char
  | null => "null".toList
  | bool b => (if b then "true" else "false").toList
  | number n => Decimal.digits n
  | string s => stringChars s
  | array items =>
      if items.isEmpty then ['[', ']']
      else '[' :: itemChars (depth + 1) true items ++ newline depth ++ [']']
  | object fields =>
      if fields.isEmpty then ['\x7b', '\x7d']
      else '\x7b' :: fieldChars (depth + 1) true fields ++ newline depth ++ ['\x7d']

def itemChars (depth : Nat) (isFirst : Bool) : List Json → List Char
  | [] => []
  | item :: rest =>
      (if isFirst then [] else [',']) ++ newline depth ++ chars depth item ++
        itemChars depth false rest

def fieldChars (depth : Nat) (isFirst : Bool) : List (String × Json) → List Char
  | [] => []
  | (key, value) :: rest =>
      (if isFirst then [] else [',']) ++ newline depth ++ stringChars key ++ [':', ' '] ++
        chars depth value ++ fieldChars depth false rest

end

def pretty (j : Json) : String := String.ofList (chars 0 j)

def ofOption {α : Type} (f : α → Json) : Option α → Json
  | some a => f a
  | none => null

end Json

end IssuanceCheck
