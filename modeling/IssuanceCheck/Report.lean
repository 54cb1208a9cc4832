import IssuanceCheck.Fetch.Follow
import IssuanceCheck.Finding
import IssuanceCheck.Method

namespace IssuanceCheck

structure Report where
  domain : String
  method : Method
  findings : List Finding
  observations : List Fetch.Observation
deriving DecidableEq, Repr

namespace Report

def isBlocking (r : Report) : Bool := r.findings.any Finding.isBlocking

def worst (r : Report) : Option Severity := Finding.worst r.findings

end Report

end IssuanceCheck
