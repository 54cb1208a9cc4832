import IssuanceCheck.Fetch.Redirect

namespace IssuanceCheck.Fetch

open Text

structure Header where
  name : String
  value : List UInt8
deriving DecidableEq, Repr

structure Response where
  status : Nat
  headers : List Header
deriving DecidableEq, Repr

def isTextByte (b : UInt8) : Bool := (0x20 ≤ b && b ≤ 0x7E) || b == 9

namespace Header

def text? (h : Header) : Option String :=
  if h.value.all isTextByte then
    some (String.ofList (h.value.map fun b => Char.ofNat b.toNat))
  else none

def find? (headers : List Header) (name : String) : Option Header :=
  headers.find? fun h => toAsciiLower h.name.toList = toAsciiLower name.toList

end Header

def redirectStatuses : List Nat := [301, 302, 303, 307, 308]

/-- Where a response redirects to. Only some statuses redirect, and only with a location; a
location that is no text or cannot be resolved is an error. -/
def Response.target? (current : Url) (r : Response) : Except FetchError (Option Target) :=
  if r.status ∉ redirectStatuses then .ok none
  else
    match Header.find? r.headers "location" with
    | none => .ok none
    | some location =>
        match location.text? with
        | none => .error (.invalidLocation (String.ofList (decodeLossy location.value))
            "failed to convert header to a str")
        | some text =>
            match Target.resolve current text with
            | .ok target => .ok (some target)
            | .error e => .error (.invalidLocation text e.message)

def Response.server? (r : Response) : Option String :=
  (Header.find? r.headers "server").bind Header.text?

end IssuanceCheck.Fetch
