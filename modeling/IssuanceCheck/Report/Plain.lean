import IssuanceCheck.Report
import IssuanceCheck.Text.Lines
import IssuanceCheck.Text.Style

namespace IssuanceCheck

open Text

def Severity.style : Severity → Style
  | debug => { color := some .blue }
  | warning => { color := some .yellow }
  | error => { color := some .red }
  | fatal => { bold := true, color := some .red }

namespace Report

def headline (r : Report) : String :=
  match r.findings with
  | [] => s!"✅ No problems found for {r.domain} ({r.method})"
  | [_] => s!"Found 1 problem for {r.domain} ({r.method})"
  | findings => s!"Found {findings.length} problems for {r.domain} ({r.method})"

def findingLines (colors : Bool) (f : Finding) : List String :=
  let severity := f.severity.style.apply colors f.severity.text
  let name := ({ bold := true } : Style).apply colors f.name
  let detail :=
    if f.detail = "" then []
    else "  Detail:" :: (lines f.detail.toList).map fun l => "    " ++ String.ofList l
  ["", s!"[{severity}] {name}", "  " ++ f.explanation] ++ detail

def observationLines (r : Report) : List String :=
  if r.observations.isEmpty then []
  else ["", "Validation fetches:"] ++ r.observations.map fun o => s!"  {o.ip} {o.text}"

def plainLines (colors : Bool) (r : Report) : List String :=
  r.headline :: r.findings.flatMap (findingLines colors) ++ r.observationLines

def renderPlain (colors : Bool) (r : Report) : String :=
  String.ofList ((plainLines colors r).flatMap fun l => l.toList ++ ['\n'])

end Report

end IssuanceCheck
