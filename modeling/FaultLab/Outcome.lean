/-! # Outcomes of commands -/

namespace FaultLab

/-- What a finished command leaves. -/
structure Outcome where
  stdout : String
  stderr : String
  exit : Int
deriving DecidableEq

/-- A command succeeds with the exit code zero. -/
def Outcome.success (o : Outcome) : Bool := o.exit = 0

end FaultLab
