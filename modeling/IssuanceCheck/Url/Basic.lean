import IssuanceCheck.Ip

namespace IssuanceCheck

open Text (joinWith)

inductive Url.Host where
  | name (name : String)
  | ipv4 (address : Ipv4)
  | ipv6 (address : Ipv6)
deriving DecidableEq, Repr

/-- What stands between `//` and the path. Username and password are percent-encoded, and an empty
password is none. A port that is the default of the scheme is left out. -/
structure Url.Authority where
  username : String := ""
  password : String := ""
  host : Option Url.Host := none
  port : Option Nat := none
deriving DecidableEq, Repr

inductive Url.Path where
  | rootless (text : String)
  | rooted (segments : List String)
deriving DecidableEq, Repr

structure Url where
  scheme : String
  authority : Option Url.Authority
  path : Url.Path
  query : Option String := none
  fragment : Option String := none
deriving DecidableEq, Repr

namespace Url

inductive Kind where
  | file
  | web
  | other
deriving DecidableEq, Repr

namespace Kind

def ofScheme (scheme : String) : Kind :=
  if scheme = "file" then file
  else if scheme ∈ ["http", "https", "ws", "wss", "ftp"] then web
  else other

def isSpecial : Kind → Bool
  | other => false
  | _ => true

end Kind

def defaultPort? (scheme : String) : Option Nat :=
  if scheme = "http" ∨ scheme = "ws" then some 80
  else if scheme = "https" ∨ scheme = "wss" then some 443
  else if scheme = "ftp" then some 21
  else none

def Host.chars : Host → List Char
  | name n => n.toList
  | ipv4 a => a.chars
  | ipv6 a => '[' :: a.groupChars ++ [']']

def Host.ofAddress : IpAddr → Host
  | .v4 a => ipv4 a
  | .v6 a => ipv6 a

def Host.text (h : Host) : String := String.ofList h.chars

def Authority.chars (a : Authority) : List Char :=
  let password := if a.password = "" then [] else ':' :: a.password.toList
  let userinfo := a.username.toList ++ password
  (if userinfo.isEmpty then [] else userinfo ++ ['@']) ++
    (match a.host with | some h => h.chars | none => []) ++
    (match a.port with | some p => ':' :: Decimal.digits p | none => [])

def Path.chars : Path → List Char
  | rootless text => text.toList
  | rooted segments => segments.flatMap fun s => '/' :: s.toList

/-- The URL as it is written. Without an authority, a path that begins with two slashes gets a `/.`
in front, so that it is not taken for one. -/
def chars (u : Url) : List Char :=
  u.scheme.toList ++ ':' ::
    (match u.authority with
      | some a => '/' :: '/' :: a.chars
      | none => if ['/', '/'].isPrefixOf u.path.chars then ['/', '.'] else []) ++
    u.path.chars ++
    (match u.query with | some q => '?' :: q.toList | none => []) ++
    (match u.fragment with | some f => '#' :: f.toList | none => [])

def text (u : Url) : String := String.ofList u.chars

def host? (u : Url) : Option Host := u.authority.bind (·.host)

def hostText? (u : Url) : Option String := u.host?.map Host.text

def port? (u : Url) : Option Nat := u.authority.bind (·.port)

def effectivePort? (u : Url) : Option Nat := u.port? <|> defaultPort? u.scheme

def withHost (u : Url) (host : Host) : Url :=
  { u with authority := u.authority.map fun a => { a with host := some host } }

/-- A port can be given to a URL with a host that is no file; the default port of the scheme is not
written. -/
def withPort (u : Url) (port : Nat) : Url :=
  if u.host?.isSome && u.scheme != "file" then
    let port := if defaultPort? u.scheme = some port then none else some port
    { u with authority := u.authority.map fun a => { a with port := port } }
  else u

def withoutUserinfo (u : Url) : Url :=
  { u with authority := u.authority.map fun a => { a with username := "", password := "" } }

end Url

instance : ToString Url := ⟨Url.text⟩

end IssuanceCheck
