import IssuanceCheck.Diagnosis
import IssuanceCheck.Log

namespace IssuanceCheck

structure Options where
  domain : String
  method : Method := .http01
  issuer : String := defaultIssuer
  userAgent : String := Fetch.defaultUserAgent
  timeoutSeconds : Nat := 10
  logLevel : Log.Level := .warn
  logFormat : Format := .plain
  output : Format := .plain
deriving DecidableEq, Repr

namespace Options

def request (o : Options) : Request := ⟨o.domain, o.method, o.issuer⟩

def fetchSettings (o : Options) : Fetch.Settings :=
  { userAgent := o.userAgent, timeout := ⟨o.timeoutSeconds, 0⟩ }

inductive Key where
  | method
  | issuer
  | userAgent
  | timeoutSeconds
  | logLevel
  | logFormat
  | output
deriving DecidableEq, Repr

namespace Key

def all : List Key := [method, issuer, userAgent, timeoutSeconds, logLevel, logFormat, output]

def name : Key → String
  | method => "method"
  | issuer => "issuer"
  | userAgent => "user-agent"
  | timeoutSeconds => "timeout-seconds"
  | logLevel => "log-level"
  | logFormat => "log-format"
  | output => "output"

def ofName? (s : String) : Option Key := all.find? (·.name = s)

theorem ofName?_name (k : Key) : ofName? k.name = some k := by
  cases k <;> decide

end Key

/-- Why the arguments do not make up options. The first fault met counts; but an option has its
value checked only when the next option or a domain follows, or the arguments end. -/
inductive UsageError where
  | missingDomain
  | unknownArgument (argument : String)
  | missingValue (key : Key)
  | unknownChoice (key : Key) (value : String)
  | notNumber (key : Key) (value : String)
  | repeated (key : Key)
  | superfluousValue (argument : String)
deriving DecidableEq, Repr

namespace UsageError

def message : UsageError → String
  | missingDomain => "the domain to check is missing"
  | unknownArgument argument => s!"unexpected argument {Text.quoted argument}"
  | missingValue key => s!"option --{key.name} needs a value"
  | unknownChoice key value => s!"value {Text.quoted value} is not known to --{key.name}"
  | notNumber key value => s!"value {Text.quoted value} of --{key.name} is not a number"
  | repeated key => s!"option --{key.name} is given twice"
  | superfluousValue argument => s!"{Text.quoted argument} takes no value"

end UsageError

inductive Stop where
  | help
  | version
  | usage (error : UsageError)
deriving DecidableEq, Repr

inductive Argument where
  | terminator
  | long (name : String) (value : Option String)
  | short (letters : List Char)
  | plain
deriving DecidableEq, Repr

def Argument.ofChars : List Char → Argument
  | ['-', '-'] => terminator
  | '-' :: '-' :: cs =>
      match Text.splitFirst? '=' cs with
      | some (name, value) => long (String.ofList name) (some (String.ofList value))
      | none => long (String.ofList cs) none
  | '-' :: c :: cs => short (c :: cs)
  | _ => plain

structure Reading where
  options : Options := { domain := "" }
  hasDomain : Bool := false
  given : List Key := []
  /-- An option that waits for its value, or for its value to be checked. -/
  pending : Option (Key × Option String) := none
  hasTerminator : Bool := false

def maxSeconds : Nat := 0xFFFFFFFFFFFFFFFF

def choice {α : Type} (key : Key) (value : String) (chosen : Option α) : Except UsageError α :=
  chosen.elim (.error (.unknownChoice key value)) .ok

def set (o : Options) (key : Key) (value : String) : Except UsageError Options :=
  match key with
  | .method => (choice key value (Method.ofText? value)).map ({ o with method := · })
  | .issuer => .ok { o with issuer := value }
  | .userAgent => .ok { o with userAgent := value }
  | .timeoutSeconds =>
      match Decimal.readUpTo? maxSeconds value.toList with
      | some n => .ok { o with timeoutSeconds := n }
      | none => .error (.notNumber key value)
  | .logLevel => (choice key value (Log.Level.ofText? value)).map ({ o with logLevel := · })
  | .logFormat => (choice key value (Format.ofText? value)).map ({ o with logFormat := · })
  | .output => (choice key value (Format.ofText? value)).map ({ o with output := · })

namespace Reading

def assign (r : Reading) (key : Key) (value : String) : Except UsageError Reading :=
  if key ∈ r.given then .error (.repeated key)
  else (r.options.set key value).map fun o => { r with options := o, given := key :: r.given }

def settle (r : Reading) : Except UsageError Reading :=
  match r.pending with
  | none => .ok r
  | some (key, none) => .error (.missingValue key)
  | some (key, some value) => { r with pending := none }.assign key value

def readDomain (r : Reading) (argument : String) : Except UsageError Reading :=
  if r.hasDomain then .error (.unknownArgument argument)
  else r.settle.map fun r =>
    { r with options := { r.options with domain := argument }, hasDomain := true }

def stop (r : Reading) (stop : Stop) : Except Stop Reading :=
  match r.settle with
  | .ok _ => .error stop
  | .error e => .error (.usage e)

def readLong (r : Reading) (argument name : String) (value : Option String) :
    Except Stop Reading :=
  match Key.ofName? name, value with
  | some key, some value => (r.settle.bind (·.assign key value)).mapError .usage
  | some key, none => (r.settle.map ({ · with pending := some (key, none) })).mapError .usage
  | none, value =>
      if name = "help" ∨ name = "version" then
        match value with
        | some _ => .error (.usage (.superfluousValue argument))
        | none => r.stop (if name = "help" then .help else .version)
      else .error (.usage (.unknownArgument argument))

/-- Only the first letter counts, as either known one stops the reading. -/
def readShort (r : Reading) (argument : String) (letters : List Char) : Except Stop Reading :=
  match letters.head? with
  | some 'h' => r.stop .help
  | some 'V' => r.stop .version
  | _ => .error (.usage (.unknownArgument argument))

def read (r : Reading) (argument : String) : Except Stop Reading :=
  if r.hasTerminator then (r.readDomain argument).mapError .usage
  else
    match Argument.ofChars argument.toList with
    | .terminator => .ok { r with hasTerminator := true }
    | .long name value => r.readLong argument name value
    | .short letters => r.readShort argument letters
    | .plain =>
        match r.pending with
        | some (key, none) => .ok { r with pending := some (key, some argument) }
        | _ => (r.readDomain argument).mapError .usage

def finish (r : Reading) : Except UsageError Options :=
  r.settle.bind fun r => if r.hasDomain then .ok r.options else .error .missingDomain

end Reading

def parse (arguments : List String) : Except Stop Options :=
  (arguments.foldlM Reading.read {}).bind fun r => r.finish.mapError .usage

end Options

end IssuanceCheck
