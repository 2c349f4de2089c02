/-! # Calls to other services -/

namespace VideoAnalysis.Foundation

/-- How a call ends. One that raises may have taken effect all the same. -/
inductive CallOutcome where
  | ok
  | raises (arrived : Bool)
deriving DecidableEq

def CallOutcome.arrived : CallOutcome → Bool
  | .ok => true
  | .raises arrived => arrived

end VideoAnalysis.Foundation
