import IssuanceCheck.Text.Numeric
import IssuanceCheck.Text.Blank
import IssuanceCheck.Text.Utf8

namespace IssuanceCheck.Name

open Text

inductive SyntaxError where
  | unrecognizedChar (c : Char)
  | illegalChar (c : Char)
  | malformedLabel (label : String)
  | notInternational
  | labelTooLong (bytes : Nat)
  | nameTooLong (bytes : Nat)
deriving DecidableEq, Repr

def SyntaxError.message : SyntaxError → String
  | unrecognizedChar c => s!"unrecognized char: {c}"
  | illegalChar c => s!"illegal char: {c}"
  | malformedLabel label => s!"Malformed label: {label}"
  | notInternational => "Label contains invalid characters: Err(Errors)"
  | labelTooLong bytes => s!"label bytes exceed 63: {bytes}"
  | nameTooLong bytes => s!"name label data exceed 255: {bytes}"

def isControl (c : Char) : Bool := c.toNat < 0x20 || (0x7F ≤ c.toNat && c.toNat ≤ 0x9F)

def octalDigit (c : Char) : Except SyntaxError Nat :=
  if '0' ≤ c && c ≤ '7' then .ok (c.toNat - 48) else .error (.illegalChar c)

inductive Escape where
  | outside
  | opened
  | one (high : Nat)
  | two (high middle : Nat)

/-- What a character of a written name adds: the end of a label, a character of one, or nothing
yet. A backslash takes the next character as it is, or begins three octal digits. -/
def step (state : Escape) (c : Char) : Except SyntaxError (Escape × Option (Option Char)) :=
  match state with
  | .outside =>
      if c = '.' then .ok (.outside, some none)
      else if c = '\\' then .ok (.opened, none)
      else if isControl c || isBlank c then .error (.unrecognizedChar c)
      else .ok (.outside, some (some c))
  | .opened =>
      if numeric.contains c then do pure (.one (← octalDigit c), none)
      else .ok (.outside, some (some c))
  | .one high =>
      if numeric.contains c then do pure (.two high (← octalDigit c), none)
      else .error (.unrecognizedChar c)
  | .two high middle =>
      if numeric.contains c then do
        pure (.outside, some (some (Char.ofNat (high * 64 + middle * 8 + (← octalDigit c)))))
      else .error (.unrecognizedChar c)

/-- Whether a character may stand in a label: letters and digits, `_` and dots anywhere, `-` behind
the first place and `*` only there. -/
def isLabelChar (isFirst : Bool) (c : Char) : Bool :=
  c.isAlphanum || c == '_' || c == '.' || (c == '-' && !isFirst) || (c == '*' && isFirst)

def asciiLabel (label : List Char) : Except SyntaxError (List Char) :=
  match label with
  | [] => .error (.malformedLabel "")
  | c :: rest =>
      if isLabelChar true c && rest.all (isLabelChar false) then
        if 63 < label.length then .error (.labelTooLong label.length) else .ok label
      else .error (.malformedLabel (String.ofList label))

def internationalLabel (toAscii : List Char → Option (List Char)) (label : List Char) :
    Except SyntaxError (List Char) :=
  if label = ['*'] || label.head? == some '_' then asciiLabel label
  else
    match toAscii label with
    | some ascii => asciiLabel ascii
    | none => .error .notInternational

def appendLabel (name : List (List Char)) (label : List Char) :
    Except SyntaxError (List (List Char)) :=
  let name := name ++ [label]
  let size := name.flatten.length + name.length
  if 255 < size then .error (.nameTooLong size) else .ok name

/-- Reads the labels of a written name. Labels are checked as their ends are met, and a label that
the end of the text leaves open counts unless it is empty. -/
def labels? (check : List Char → Except SyntaxError (List Char)) (name : String) :
    Except SyntaxError (List (List Char)) :=
  if name = "." then .ok [] else go .outside [] [] name.toList
where
  go (state : Escape) (done : List (List Char)) (label : List Char) :
      List Char → Except SyntaxError (List (List Char))
    | [] =>
        if label.isEmpty then .ok done
        else do appendLabel done (← check label.reverse)
    | c :: rest => do
        match ← step state c with
        | (state, none) => go state done label rest
        | (state, some (some c)) => go state done (c :: label) rest
        | (state, some none) => go state (← appendLabel done (← check label.reverse)) [] rest

end IssuanceCheck.Name
