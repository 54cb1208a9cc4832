import IssuanceCheck.Fetch.Error
import IssuanceCheck.Url.Parser

namespace IssuanceCheck.Fetch

open Text

structure Target where
  url : Url
  /-- The port that is written in the reference, even if the scheme has it as its default. -/
  explicitPort : Option Nat
deriving DecidableEq, Repr

def splitSchemeMark? : List Char → Option (List Char × List Char)
  | ':' :: '/' :: '/' :: rest => some ([], rest)
  | c :: rest => (splitSchemeMark? rest).map fun parts => (c :: parts.1, parts.2)
  | [] => none

def afterSlashes? (cs : List Char) : Option (List Char) :=
  let schemeLess := match cs with
    | '/' :: '/' :: rest => some rest
    | _ => none
  match splitSchemeMark? cs with
  | some (scheme, rest) =>
      if !scheme.isEmpty && scheme.all Url.isSchemeChar then some rest else schemeLess
  | none => schemeLess

def writtenPort? (reference : List Char) : Option Nat := do
  let rest ← afterSlashes? reference
  let authority := rest.takeWhile fun c => !(c == '/' || c == '?' || c == '#')
  let hostPort := match splitLast? '@' authority with
    | some (_, hostPort) => hostPort
    | none => authority
  let (_, port) ← splitLast? ':' hostPort
  if port.contains ']' then none else Decimal.readUpTo? 65535 port

namespace Target

def ofUrl (url : Url) : Target := ⟨url, url.port?⟩

def resolve (current : Url) (location : String) : Except Url.ParseError Target := do
  let url ← current.join location
  pure ⟨url, url.port? <|> writtenPort? (trim location.toList)⟩

end Target

def allowedPorts : List Nat := [80, 443]

def wellKnown : String := ".well-known"

def endsInWellKnown (url : Url) : Bool :=
  url.hostText?.any fun host => wellKnown.toList.isSuffixOf host.toList

/-- The first rule that redirect number `hop` to a target breaks, if there is one. -/
def violation? (target : Target) (hop max : Nat) : Option Violation :=
  let url := target.url.text
  if max < hop then some (.tooManyRedirects (hop - 1) url)
  else
    match target.explicitPort.filter (· ∉ allowedPorts) with
    | some port => some (.badPort url port)
    | none =>
        if target.url.scheme ≠ "http" ∧ target.url.scheme ≠ "https" then
          some (.badScheme url target.url.scheme)
        else if endsInWellKnown target.url then some (.missingTrailingSlash url)
        else none

theorem violation?_eq_some_of_lt {target : Target} {hop max : Nat} (h : max < hop) :
    violation? target hop max = some (.tooManyRedirects (hop - 1) target.url.text) := by
  simp [violation?, h]

theorem le_of_violation?_eq_none {target : Target} {hop max : Nat}
    (h : violation? target hop max = none) : hop ≤ max := by
  refine Nat.le_of_not_lt fun hlt => ?_
  simp [violation?_eq_some_of_lt hlt] at h

end IssuanceCheck.Fetch
