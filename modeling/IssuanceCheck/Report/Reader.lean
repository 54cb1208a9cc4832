import IssuanceCheck.Json.Reader
import IssuanceCheck.Report

namespace IssuanceCheck

namespace Json

variable {α : Type}

def field? (name : String) : Json → Option Json
  | object fields => fields.lookup name
  | _ => none

def bool? : Json → Option Bool
  | bool b => some b
  | _ => none

def number? : Json → Option Nat
  | number n => some n
  | _ => none

def string? : Json → Option String
  | string s => some s
  | _ => none

def list? (read : Json → Option α) : Json → Option (List α)
  | array items => items.mapM read
  | _ => none

def option? (read : Json → Option α) : Json → Option (Option α)
  | null => some none
  | j => (read j).map some

end Json

namespace Severity

def all : List Severity := [debug, warning, error, fatal]

def ofText? (s : String) : Option Severity := all.find? (·.text = s)

theorem ofText?_text (s : Severity) : ofText? s.text = some s := by
  cases s <;> decide

def ofJson? (j : Json) : Option Severity := j.string?.bind ofText?

end Severity

def Finding.ofJson? (j : Json) : Option Finding := do
  some {
    name := ← (← j.field? "name").string?
    explanation := ← (← j.field? "explanation").string?
    detail := ← (← j.field? "detail").string?
    severity := ← Severity.ofJson? (← j.field? "severity") }

def Fetch.Observation.ofJson? (j : Json) : Option Fetch.Observation := do
  some {
    status := ← (← j.field? "status_code").option? Json.number?
    server := ← (← j.field? "server_header").option? Json.string?
    ip := ← IpAddr.ofString? (← (← j.field? "ip").string?) }

namespace Report

structure Contents where
  domain : String
  method : Method
  blocking : Bool
  worst : Option Severity
  findings : List Finding
  observations : List Fetch.Observation
deriving DecidableEq, Repr

/-- Looks up every part by its name, wherever it stands. -/
def Contents.ofJson? (j : Json) : Option Contents := do
  some {
    domain := ← (← j.field? "domain").string?
    method := ← Method.ofText? (← (← j.field? "method").string?)
    blocking := ← (← j.field? "blocking").bool?
    worst := ← (← j.field? "worst_severity").option? Severity.ofJson?
    findings := ← (← j.field? "problems").list? Finding.ofJson?
    observations := ← (← j.field? "http_results").list? Fetch.Observation.ofJson? }

end Report

end IssuanceCheck
