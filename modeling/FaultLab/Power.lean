/-! # Whether a machine has power -/

namespace FaultLab

/-- The power of a machine. -/
inductive PowerState where
  | on
  | off
  | suspended
deriving DecidableEq

namespace PowerState

/-- The names that a hypervisor uses. -/
def names : List (String × PowerState) :=
  [("POWERED_ON", on), ("POWERED_OFF", off), ("SUSPENDED", suspended)]

/-- The state that a hypervisor names. -/
def ofName? (text : String) : Option PowerState :=
  (names.find? fun (n, _) => n = text).map Prod.snd

/-- A state as values of a program are shown. -/
def inspect : PowerState → String
  | on => "On"
  | off => "Off"
  | suspended => "Suspended"

end PowerState

end FaultLab
