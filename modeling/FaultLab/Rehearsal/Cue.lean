import FaultLab.Orchestrator
import FaultLab.Rehearsal.Queue
import FaultLab.Simulation.Lab

/-! # Cues for an orchestrator

A `Stage` is a lab with a list of cues.  The backend, the connector and the clients that an
orchestrator gets on a stage look for a cue before each of their calls: they fail without acting,
act and fail all the same, wait before they act, or answer without acting. -/

namespace FaultLab.Rehearsal

open Simulation (Flavor Lab)

/-- A call that waits for a cue. -/
inductive CuedCall where
  | prepare
  | release
  | connect
  | getLayout
  | getStatus
  | bootstrap
  | add
  | remove
  | reset
deriving DecidableEq

namespace CuedCall

/-- The names of the calls. -/
def names : List (String × CuedCall) :=
  [("prepare", prepare), ("release", release), ("connect", connect), ("get_layout", getLayout),
    ("get_status", getStatus), ("bootstrap", bootstrap), ("add", add), ("remove", remove),
    ("reset", reset)]

/-- The call with a name. -/
def ofName? (text : String) : Option CuedCall :=
  (names.find? fun (n, _) => n = text).map Prod.snd

end CuedCall

/-- What a cue has a call do. -/
inductive Effect where
  /-- Fail without acting. -/
  | fail (kind : ManagementTrouble) (text : String)
  /-- Act, and fail all the same. -/
  | failAfter (kind : ManagementTrouble) (text : String)
  /-- Wait, and act then. -/
  | delay (span : Nat)
  /-- Answer without acting, where there is an answer to give. -/
  | pretend

namespace Effect

/-- The names of the effects, for a kind of trouble with a text and for a span. -/
def ofName (kind : ManagementTrouble) (text : String) (span : Nat) : String → Effect
  | "fail_after" => failAfter kind text
  | "delay" => delay span
  | "lie" => pretend
  | _ => fail kind text

/-- The text of an effect. -/
def text : Effect → String
  | fail _ text => text
  | failAfter _ text => text
  | _ => ""

/-- The error of an effect for a caller who cannot be told more. -/
def error : Effect → ManagementError
  | fail kind text => .other kind text
  | failAfter kind text => .other kind text
  | _ => .other .rejected ""

end Effect

/-- A lab with a list of cues. -/
structure Stage where
  lab : Lab
  cues : List (CuedCall × Effect)

namespace Stage

/-- The lab of a stage. -/
def labPart : Part Stage Lab := ⟨lab, fun l s => { s with lab := l }⟩

/-- Add the same cue some times. -/
def cue (call : CuedCall) (effect : Effect) (count : Nat) (s : Stage) : Stage :=
  { s with cues := s.cues ++ List.replicate count (call, effect) }

/-- Take the cue of a call. -/
def takeCue (call : CuedCall) : Call Stage (Option Effect) :=
  Call.atomically fun s =>
    match takeFirst? (fun (c, _) => c = call) s.cues with
    | some ((_, effect), left) => (some effect, { s with cues := left })
    | none => (none, s)

variable {α : Type}

/-- Act as the cue says; `pretence` is the answer of a call that does not act. -/
def cued (call : CuedCall) (pretence : Option α) (act : Attempt Stage ManagementError α) :
    Attempt Stage ManagementError α := do
  match ← Attempt.lift (takeCue call) with
  | none => act
  | some (.fail kind text) => Attempt.give (.error (.other kind text))
  | some (.failAfter kind text) =>
    let _ ← act.outcome
    Attempt.give (.error (.other kind text))
  | some (.delay span) =>
    Attempt.lift (Call.sleep span)
    act
  | some .pretend =>
    match pretence with
    | some a => return a
    | none => act

/-- A client that takes cues. -/
def client (c : ManagementClient Lab) : ManagementClient Stage :=
  let real := c.focus labPart
  { getLayout := cued .getLayout none real.getLayout
    getStatus := cued .getStatus none real.getStatus
    invalidate := real.invalidate
    bootstrap := fun layout => cued .bootstrap (some ()) (real.bootstrap layout)
    add := fun e patience => cued .add (some ()) (real.add e patience)
    remove := fun e patience => cued .remove (some ()) (real.remove e patience)
    reset := fun e => cued .reset (some ()) (real.reset e) }

/-- Fail for all members together if there is a cue. -/
def unlessCued (call : CuedCall) (name : String) (act : Attempt Stage Failure Unit) :
    Attempt Stage Failure Unit := do
  match ← Attempt.lift (takeCue call) with
  | none => act
  | some effect => Attempt.give (.error (.ofFleet name (.other effect.text)))

/-- The lab as a backend that takes no cues. -/
def plainBackend (flavor : Flavor) : Backend Stage := (Lab.backend flavor).focus labPart

/-- The lab as a backend that takes cues. -/
def backend (flavor : Flavor) : Backend Stage :=
  let real := plainBackend flavor
  { real with
    prepare := fun fixture => unlessCued .prepare "prepare" (real.prepare fixture)
    release := unlessCued .release "release" real.release }

/-- Makes clients that take cues, and takes cues itself. -/
def connector : Connector Stage := fun _ => do
  match ← Attempt.lift (takeCue .connect) with
  | some effect => Attempt.give (.error effect.error)
  | none => Attempt.lift (client <$> Lab.connect.focus labPart)

/-- The orchestrator on a stage. -/
def orchestrator (flavor : Flavor) : Orchestrator Stage := ⟨backend flavor, connector⟩

end Stage

end FaultLab.Rehearsal
