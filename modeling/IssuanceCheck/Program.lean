import IssuanceCheck.Options
import IssuanceCheck.Report.Json
import IssuanceCheck.Report.Plain

namespace IssuanceCheck.Program

open Dns

def name : String := "acme_preflight"

def version : String := "0.1.0"

structure Outcome where
  code : UInt32 := 0
  stdout : String := ""
  stderr : String := ""
deriving DecidableEq, Repr

structure Environment where
  suffix : String → Option String
  lookup : Lookup
  fetch : Fetch.Settings → Fetcher
  colors : Bool
  time : Nat

def usage : String :=
  s!"Usage: {name} [OPTIONS] <DOMAIN>\n\nOptions:\n" ++
    String.join (Options.Key.all.map fun key => s!"  --{key.name} <VALUE>\n") ++
    "  -h, --help\n  -V, --version\n"

def announcement (request : Request) : Log.Message :=
  ⟨.info, name ++ "::run", s!"Checking {Name.normalize request.domain} for {request.method}"⟩

def render (format : Format) (colors : Bool) (report : Report) : String :=
  match format with
  | .plain => report.renderPlain colors
  | .json => report.renderJson ++ "\n"

/-- Runs the checks that options ask for. Findings that stand against issuance show in the exit
code, and so does a check that could not be made. -/
def diagnose (env : Environment) (options : Options) : Outcome :=
  let logger : Log.Logger := ⟨options.logLevel, options.logFormat, env.colors⟩
  let log := logger.write env.time (announcement options.request)
  match (IssuanceCheck.diagnose env.suffix env.lookup (env.fetch options.fetchSettings)
      options.request).value with
  | .error e =>
      { code := 1, stderr := log ++ s!"{name} error: " ++ ": ".intercalate e.layers ++ "\n" }
  | .ok diagnosis =>
      { code := if diagnosis.report.isBlocking then 2 else 0
        stdout := render options.output env.colors diagnosis.report
        stderr := log }

def run (env : Environment) (arguments : List String) : Outcome :=
  match Options.parse arguments with
  | .ok options => diagnose env options
  | .error .help => { stdout := usage }
  | .error .version => { stdout := s!"{name} {version}\n" }
  | .error (.usage e) => { code := 2, stderr := s!"error: {e.message}\n\n{usage}" }

end IssuanceCheck.Program
