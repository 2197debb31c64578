import FaultLab.Injector

/-! # Faults for many members at once

A batch does the same thing to several members at once, each under the same deadline.  One call that
fails or takes too long does not keep the others from finishing, and every outcome is reported, in
the order in which the members were named. -/

namespace FaultLab

/-- What became of the call for one member. -/
structure NodeOutcome where
  index : Nat
  node : Endpoint
  result : Except Failure Unit
  elapsed : Nat

/-- What became of a batch. -/
structure BatchReport where
  fault : Fault
  outcomes : List NodeOutcome

/-- The call succeeded. -/
def NodeOutcome.succeeded (o : NodeOutcome) : Bool :=
  match o.result with
  | .ok () => true
  | .error _ => false

namespace BatchReport

/-- The outcomes that succeeded. -/
def succeeded (r : BatchReport) : List NodeOutcome := r.outcomes.filter NodeOutcome.succeeded

/-- The outcomes that failed. -/
def failed (r : BatchReport) : List NodeOutcome := r.outcomes.filter fun o => !o.succeeded

/-- Whether every call succeeded. -/
def allSucceeded (r : BatchReport) : Bool := r.outcomes.all NodeOutcome.succeeded

/-- The first failure, if there is one. -/
def result (r : BatchReport) : Except Failure Unit := r.outcomes.forM NodeOutcome.result

end BatchReport

/-- The first item of a list that came up before; `seen` came before the list. -/
def firstRepeated : List Nat → List Nat → Option Nat
  | _, [] => none
  | seen, i :: is => if seen.contains i then some i else firstRepeated (i :: seen) is

namespace Injector

variable {σ : Type}

/-- One call of a batch. -/
def batchCall (inj : Injector σ) (f : Fault) (target : Nat × Node σ) : Call σ NodeOutcome := do
  let (index, node) := target
  let (answer, elapsed) ←
    Call.timed (Call.limit inj.callTimeout (f.apply inj.stopGrace node).toCall)
  let result := answer.getD
    (.error (.ofNode node.id f.name (.noResponse inj.callTimeout)))
  return ⟨index, node.id, result, elapsed⟩

/-- The event that one call of a batch failed. -/
def failedEvent? (f : Fault) (o : NodeOutcome) : Option Event :=
  match o.result with
  | .ok () => none
  | .error e => some (.warn "batch call failed"
      [("node", .fixed o.node.text), ("op", .fixed f.name), ("error", e.field)])

/-- The members of a batch: every index has to be there, and none twice. -/
def targets (inj : Injector σ) (indices : List Nat) : Except Failure (List (Nat × Node σ)) := do
  let targets ← indices.mapM fun i => (inj.node i).map fun node => (i, node)
  match firstRepeated [] indices with
  | some i => .error (.invalidState "distinct node indices in a batch"
      s!"index {i} listed more than once")
  | none => return targets

/-- Do something to several members at once. -/
def batch (inj : Injector σ) (f : Fault) (indices : List Nat) :
    Attempt σ Failure BatchReport := do
  let targets ← Attempt.give (inj.targets indices)
  Attempt.log (.info "parallel batch" [("op", .fixed f.name), ("nodes", .ofNat targets.length)])
  let outcomes ← Attempt.lift (Call.together (targets.map (inj.batchCall f)))
  Attempt.lift (Call.logAll (outcomes.filterMap (failedEvent? f)))
  return ⟨f, outcomes⟩

/-- Do something to all members at once. -/
def batchAll (inj : Injector σ) (f : Fault) : Attempt σ Failure BatchReport := inj.batch f inj.all

end Injector

end FaultLab
