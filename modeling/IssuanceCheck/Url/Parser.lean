import IssuanceCheck.Text.Lowercase
import IssuanceCheck.Url.Host
import IssuanceCheck.Url.Segments

namespace IssuanceCheck.Url

open Text

/-- Control characters and spaces around a URL are dropped, tabs and line breaks everywhere. -/
def clean (cs : List Char) : List Char :=
  (trimWhile (fun c => c.toNat ≤ 0x20) cs).filter fun c => !(c == '\t' || c == '\n' || c == '\r')

def isSchemeChar (c : Char) : Bool := c.isAlphanum || c == '+' || c == '-' || c == '.'

def splitScheme? (cs : List Char) : Option (String × List Char) :=
  match cs with
  | c :: _ =>
      if c.isAlpha then
        match cs.dropWhile isSchemeChar with
        | ':' :: rest => some (String.ofList (toAsciiLower (cs.takeWhile isSchemeChar)), rest)
        | _ => none
      else none
  | [] => none

def isAuthorityEnd (special : Bool) (c : Char) : Bool := isSlash special c || isQueryOrFragment c

def readUserinfo (special : Bool) (cs : List Char) :
    Except ParseError (String × String × List Char) :=
  let region := cs.takeWhile fun c => !isAuthorityEnd special c
  let rest := cs.dropWhile fun c => !isAuthorityEnd special c
  match splitLast? '@' region with
  | none => .ok ("", "", cs)
  | some (userinfo, host) =>
      if userinfo.isEmpty && host.isEmpty && !rest.isEmpty then .error .emptyHost
      else
        let (username, password) := (splitFirst? ':' userinfo).getD (userinfo, [])
        .ok (String.ofList (percentEncode isUserinfoEscaped username),
          String.ofList (percentEncode isUserinfoEscaped password), host ++ rest)

def splitHost (special inBrackets : Bool) : List Char → List Char × List Char
  | [] => ([], [])
  | c :: rest =>
      if (c == ':' && !inBrackets) || isAuthorityEnd special c then ([], c :: rest)
      else
        let inBrackets := if c = '[' then true else if c = ']' then false else inBrackets
        let parts := splitHost special inBrackets rest
        (c :: parts.1, parts.2)

/-- Reads the digits of a port up to the end of the authority. No digits are no port, and neither is
the default of the scheme. -/
def readPort (scheme : String) (cs : List Char) : Except ParseError (Option Nat × List Char) :=
  let digits := cs.takeWhile Char.isDigit
  let rest := cs.dropWhile Char.isDigit
  if rest.head?.any (fun c => !isAuthorityEnd true c) then .error .portNumber
  else
    match Decimal.readDigits? digits with
    | none => .ok (none, rest)
    | some port =>
        if 65535 < port then .error .portNumber
        else .ok (if defaultPort? scheme = some port then none else some port, rest)

def readHost (special : Bool) (cs : List Char) : Except ParseError (Option Host) :=
  if special then
    if cs.isEmpty then .error .emptyHost else (Host.parse cs).map some
  else Host.parseOther cs

def readPortBehind (scheme : String) (host : Option Host) (cs : List Char) :
    Except ParseError (Option Nat × List Char) :=
  match cs with
  | ':' :: rest => if host.isNone then .error .emptyHost else readPort scheme rest
  | _ => .ok (none, cs)

def readAuthority (scheme : String) (cs : List Char) :
    Except ParseError (Authority × List Char) := do
  let special := (Kind.ofScheme scheme).isSpecial
  let (username, password, cs) ← readUserinfo special cs
  let (hostChars, rest) := splitHost special false cs
  let host ← readHost special hostChars
  let (port, rest) ← readPortBehind scheme host rest
  if host.isNone && !(username = "" && password = "") then .error .emptyHost
  else pure (⟨username, password, host, port⟩, rest)

def readPathStart (kind : Kind) (cs : List Char) : Path × List Char :=
  match cs with
  | c :: rest =>
      if isSlash kind.isSpecial c then readPath kind [] rest
      else if !kind.isSpecial && isQueryOrFragment c then (.rooted [], cs)
      else readPath kind [] cs
  | [] => if kind.isSpecial then readPath kind [] [] else (.rooted [], [])

def readQueryFragment (kind : Kind) (cs : List Char) : Option String × Option String :=
  match cs with
  | '?' :: rest =>
      let escaped := if kind.isSpecial then isSpecialQueryEscaped else isQueryEscaped
      let (query, fragment) := match splitFirst? '#' rest with
        | some (query, fragment) => (query, some fragment)
        | none => (rest, none)
      (some (String.ofList (percentEncode escaped query)), fragment.map fragmentText)
  | '#' :: rest => (none, some (fragmentText rest))
  | _ => (none, none)
where
  fragmentText (cs : List Char) : String := String.ofList (percentEncode isFragmentEscaped cs)

def assemble (scheme : String) (authority : Option Authority) (parts : Path × List Char) : Url :=
  let (query, fragment) := readQueryFragment (Kind.ofScheme scheme) parts.2
  ⟨scheme, authority, parts.1, query, fragment⟩

def afterDoubleSlash (scheme : String) (cs : List Char) : Except ParseError Url := do
  let (authority, rest) ← readAuthority scheme cs
  pure (assemble scheme (some authority) (readPathStart (Kind.ofScheme scheme) rest))

def baseSegments (base : Url) : List (List Char) :=
  match base.path with
  | .rooted segments => segments.map String.toList
  | .rootless _ => []

def withFragment (base : Url) (cs : List Char) : Url :=
  { base with fragment := some (readQueryFragment.fragmentText cs) }

def parseRelative (base : Url) (cs : List Char) : Except ParseError Url :=
  let kind := Kind.ofScheme base.scheme
  let slashes := cs.takeWhile (isSlash true)
  match cs with
  | [] => .ok { base with fragment := none }
  | '?' :: _ => .ok (assemble base.scheme base.authority (base.path, cs))
  | '#' :: rest => .ok (withFragment base rest)
  | c :: rest =>
      if 2 ≤ slashes.length then
        match cs with
        | '/' :: '/' :: rest => afterDoubleSlash base.scheme rest
        | _ => afterDoubleSlash base.scheme (cs.dropWhile (isSlash true))
      else if isSlash true c then
        .ok (assemble base.scheme base.authority (readPath kind [] rest))
      else
        .ok (assemble base.scheme base.authority
          (readPath kind (baseSegments base).dropLast cs))

/-- The host of a file URL, up to the next slash. A drive letter there belongs to the path, and the
local host is none. -/
def readFileHost (cs : List Char) : Except ParseError (Option Host × List Char) :=
  let host := cs.takeWhile fun c => !isAuthorityEnd true c
  let rest := cs.dropWhile fun c => !isAuthorityEnd true c
  if isDriveLetter host then .ok (none, cs)
  else if host.isEmpty then .ok (none, rest)
  else do
    let host ← Host.parse host
    pure (if host = .name "localhost" then none else some host, rest)

/-- Reads a file URL, or a reference against one. The base gives its host to a path that begins
with one slash, and its drive letter, if it has one. -/
def parseFile (base : Option Url) (cs : List Char) : Except ParseError Url :=
  let file (host : Option Host) (parts : Path × List Char) : Url :=
    assemble "file" (some { host := host }) parts
  match cs with
  | a :: b :: rest =>
      if isSlash true a && isSlash true b then do
        let (host, rest) ← readFileHost rest
        let rest := match rest with
          | c :: tail => if isSlash true c then tail else rest
          | [] => []
        let parts := readPath .file [] rest
        pure (file (if startsWithDriveLetter rest then none else host) parts)
      else if isSlash true a then .ok (oneSlash file (b :: rest))
      else relative file cs
  | [a] => if isSlash true a then .ok (oneSlash file []) else relative file cs
  | [] => relative file cs
where
  oneSlash (file : Option Host → Path × List Char → Url) (rest : List Char) : Url :=
    if startsWithDriveLetter rest then file none (readPath .file [] rest)
    else
      match base with
      | none => file none (readPath .file [] rest)
      | some base =>
          match (baseSegments base).head?.filter isNormalDriveLetter with
          | some drive => file none (readPath .file [drive] rest)
          | none => file base.host? (readPath .file [] rest)
  relative (file : Option Host → Path × List Char → Url) (cs : List Char) :
      Except ParseError Url :=
    match base with
    | none => .ok (file none (readPath .file [] cs))
    | some base =>
        match cs with
        | [] => .ok { base with fragment := none }
        | '?' :: _ => .ok (file base.host? (base.path, cs))
        | '#' :: rest => .ok (withFragment base rest)
        | _ =>
            if startsWithDriveLetter cs then .ok (file none (readPath .file [] cs))
            else .ok (file base.host? (readPath .file (shorten (baseSegments base)) cs))

/-- Reads what follows a scheme. With fewer than two slashes behind it, a special scheme that is
also the base's leaves a relative reference. -/
def parseWithScheme (base : Option Url) (scheme : String) (cs : List Char) :
    Except ParseError Url :=
  match Kind.ofScheme scheme with
  | .file => parseFile (base.filter (·.scheme = "file")) cs
  | .web =>
      let slashes := cs.takeWhile (isSlash true)
      match base.filter fun b => slashes.length < 2 && b.scheme = scheme with
      | some base => parseRelative base cs
      | none => afterDoubleSlash scheme (cs.dropWhile (isSlash true))
  | .other =>
      match cs with
      | '/' :: '/' :: rest => afterDoubleSlash scheme rest
      | '/' :: rest => .ok (assemble scheme none (readPath .other [] rest))
      | _ =>
          let text := cs.takeWhile fun c => !isQueryOrFragment c
          .ok (assemble scheme none
            (.rootless (String.ofList (percentEncode isC0Control text)),
              cs.dropWhile fun c => !isQueryOrFragment c))

def parseChars (base : Option Url) (cs : List Char) : Except ParseError Url :=
  let cs := clean cs
  match splitScheme? cs with
  | some (scheme, rest) => parseWithScheme base scheme rest
  | none =>
      match base with
      | none => .error .withoutBase
      | some base =>
          match base.path, cs with
          | _, '#' :: rest => .ok (withFragment base rest)
          | .rootless _, _ => .error .rootlessBase
          | .rooted _, _ =>
              if base.scheme = "file" then parseFile (some base) cs else parseRelative base cs

def parse (text : String) : Except ParseError Url := parseChars none text.toList

def join (base : Url) (reference : String) : Except ParseError Url :=
  parseChars (some base) reference.toList

end IssuanceCheck.Url
