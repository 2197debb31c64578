import FaultLab.Failure

/-! # The life of a deployed cluster

A cluster goes from being deployed over being bootstrapped to being ready, and then it is torn down.
The two phases of a deployment may also go straight to the tear-down. -/

namespace FaultLab

/-- A phase in the life of a cluster. -/
inductive Phase where
  | undeployed
  | deploying
  | bootstrapping
  | ready
  | tearingDown
  | destroyed
deriving DecidableEq

namespace Phase

/-- The names of the phases. -/
def names : List (String × Phase) :=
  [("UNDEPLOYED", undeployed), ("DEPLOYING", deploying), ("BOOTSTRAPPING", bootstrapping),
    ("READY", ready), ("TEARING_DOWN", tearingDown), ("DESTROYED", destroyed)]

/-- The name of a phase. -/
def name : Phase → String
  | undeployed => "UNDEPLOYED"
  | deploying => "DEPLOYING"
  | bootstrapping => "BOOTSTRAPPING"
  | ready => "READY"
  | tearingDown => "TEARING_DOWN"
  | destroyed => "DESTROYED"

/-- A phase as values of a program are shown. -/
def inspect : Phase → String
  | undeployed => "Undeployed"
  | deploying => "Deploying"
  | bootstrapping => "Bootstrapping"
  | ready => "Ready"
  | tearingDown => "TearingDown"
  | destroyed => "Destroyed"

/-- The phase with a name. -/
def ofName? (text : String) : Option Phase :=
  (names.find? fun (n, _) => n = text).map Prod.snd

/-- Whether one phase may follow another. -/
def mayPrecede : Phase → Phase → Bool
  | undeployed, deploying => true
  | deploying, bootstrapping => true
  | bootstrapping, ready => true
  | ready, tearingDown => true
  | tearingDown, destroyed => true
  | deploying, tearingDown => true
  | bootstrapping, tearingDown => true
  | _, _ => false

/-- The phase after this one, if it may follow. -/
def advance (now next : Phase) : Except Failure Phase :=
  if now.mayPrecede next then .ok next
  else .error (.invalidState s!"a state that may precede {next.name}" now.name)

/-- The event that one phase follows another. -/
def advanced (now next : Phase) : Event :=
  .debug "cluster state" [("from", .fixed now.name), ("to", .fixed next.name)]

/-- Make sure of a phase. -/
def require (now expected : Phase) : Except Failure Unit :=
  if now = expected then .ok () else .error (.invalidState expected.name now.name)

end Phase

end FaultLab
