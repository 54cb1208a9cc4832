import IssuanceCheck.Format
import IssuanceCheck.Json
import IssuanceCheck.Text.Style

namespace IssuanceCheck.Log

open Text

inductive Level where
  | error
  | warn
  | info
  | debug
  | trace
deriving DecidableEq, Repr

namespace Level

def all : List Level := [error, warn, info, debug, trace]

def rank : Level → Nat
  | error => 0
  | warn => 1
  | info => 2
  | debug => 3
  | trace => 4

def text : Level → String
  | error => "error"
  | warn => "warn"
  | info => "info"
  | debug => "debug"
  | trace => "trace"

def ofText? (s : String) : Option Level := all.find? (·.text = s)

def caption (l : Level) : String := l.text.map Char.toUpper

def color : Level → Color
  | error => .red
  | warn => .yellow
  | info => .green
  | debug => .blue
  | trace => .purple

theorem ofText?_text (l : Level) : ofText? l.text = some l := by
  cases l <;> decide

end Level

structure Message where
  level : Level
  target : String
  text : String
deriving DecidableEq, Repr

structure Logger where
  level : Level
  format : Format
  colors : Bool
deriving DecidableEq, Repr

namespace Logger

def plainLine (logger : Logger) (m : Message) : String :=
  let style (color : Color) (text : String) : String :=
    ({ color := some color } : Style).apply logger.colors text
  s!"{style .cyan m.target} [{style m.level.color m.level.caption}] {m.text}"

def jsonLine (time : Nat) (m : Message) : String :=
  "\x7b\"ts\":" ++ Decimal.text time ++ ",\"level\":\"" ++ m.level.caption ++
    "\",\"target\":\"" ++ m.target ++ "\",\"msg\":" ++ String.ofList (Json.stringChars m.text) ++
    "\x7d"

def write (logger : Logger) (time : Nat) (m : Message) : String :=
  if m.level.rank ≤ logger.level.rank then
    match logger.format with
    | .plain => logger.plainLine m ++ "\n"
    | .json => jsonLine time m ++ "\n"
  else ""

inductive InstallError where
  | alreadyInstalled
deriving DecidableEq, Repr

def InstallError.message : InstallError → String
  | alreadyInstalled => "Logger initialization error: attempted to set a logger after the " ++
      "logging system was already initialized"

def install (current : Option Logger) (logger : Logger) : Except InstallError Logger :=
  match current with
  | none => .ok logger
  | some _ => .error .alreadyInstalled

end Logger

end IssuanceCheck.Log
