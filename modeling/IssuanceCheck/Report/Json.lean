import IssuanceCheck.Json
import IssuanceCheck.Report

namespace IssuanceCheck

/-- The fields of every object stand in the order of their names. -/
def Finding.json (f : Finding) : Json :=
  .object [("detail", .string f.detail), ("explanation", .string f.explanation),
    ("name", .string f.name), ("severity", .string f.severity.text)]

def Fetch.Observation.json (o : Fetch.Observation) : Json :=
  .object [("ip", .string o.ip.text), ("server_header", .ofOption .string o.server),
    ("status_code", .ofOption .number o.status)]

namespace Report

def json (r : Report) : Json :=
  .object [("blocking", .bool r.isBlocking), ("domain", .string r.domain),
    ("http_results", .array (r.observations.map (·.json))), ("method", .string r.method.text),
    ("problems", .array (r.findings.map (·.json))),
    ("worst_severity", .ofOption (fun s => .string s.text) r.worst)]

def renderJson (r : Report) : String := r.json.pretty

end Report

end IssuanceCheck
