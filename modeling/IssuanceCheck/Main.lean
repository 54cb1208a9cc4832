import IssuanceCheck.Dns.Resolver
import IssuanceCheck.Fetch.Testbed
import IssuanceCheck.Program
import IssuanceCheck.Suffix.Public

namespace IssuanceCheck

/-- A run without a network: every query and every fetch fails. -/
def Program.offline (colors : Bool) (time : Nat) : Program.Environment where
  suffix := Suffix.publicSuffix
  lookup := Dns.Resolver.lookup (Dns.Transport.ofServer .isolated (.v4 (.ofOctets [127, 0, 0, 1]))
    (Dns.Responses.respond []))
  fetch := Fetch.checkWith ⟨.isolated, [], 0⟩
  colors := colors
  time := time

end IssuanceCheck

def main (arguments : List String) : IO UInt32 := do
  let time ← IO.monoMsNow
  let colors := (← IO.getEnv "CLICOLOR_FORCE").any (· ≠ "0")
  let outcome := IssuanceCheck.Program.run (IssuanceCheck.Program.offline colors time) arguments
  IO.print outcome.stdout
  IO.eprint outcome.stderr
  pure outcome.code
