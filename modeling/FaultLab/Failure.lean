import FaultLab.Commanded
import FaultLab.Machine.Hypervisor
import FaultLab.Machine.Shell
import FaultLab.Management

/-! # What can go wrong in a test of a cluster

A `Failure` says what was attempted and why it did not work out.  Where a control plane is to blame,
a `Setback` says what happened there. -/

namespace FaultLab

/-- What is wrong with a description of a cluster. -/
inductive DataError where
  | badEndpoint (text : String)
  | layout (cause : LayoutError)
deriving DecidableEq

namespace DataError

/-- The words for an error. -/
def message : DataError → String
  | badEndpoint text => "invalid endpoint " ++ Text.quote text ++ ": expected host:port"
  | layout cause => cause.message

end DataError

/-- The endpoint of a text, or the complaint that the text is none. -/
def Endpoint.check (text : String) : Except DataError Endpoint :=
  match parse? text with
  | some e => .ok e
  | none => .error (.badEndpoint text)

/-- What is wrong with a fixture. -/
inductive FixtureError where
  /-- There is nothing to read. -/
  | unreadable
  /-- The text cannot be read as a fixture. -/
  | unparsable (problem : Problem)
  /-- The fixture is not usable. -/
  | invalid (reason : String)

namespace FixtureError

/-- The words for an error; some are known by their kind alone. -/
def message? : FixtureError → Option String
  | unreadable => none
  | unparsable .illFormed => none
  | unparsable (.mismatch cause) => cause.message? Binary64.plainWithPoint
  | invalid reason => some ("invalid fixture: " ++ reason)

/-- The words for an error on its own. -/
def message (e : FixtureError) : String :=
  match e with
  | unreadable => "failed to read fixture"
  | unparsable _ => "failed to parse fixture"
  | invalid reason => "invalid fixture: " ++ reason

end FixtureError

/-- What happened at a control plane. -/
inductive Setback where
  /-- A failure that the test asked for. -/
  | injected
  /-- A failure to provision that the test asked for. -/
  | injectedProvisioning
  /-- There was no answer in time. -/
  | noResponse (limit : Nat)
  /-- The daemon of containers refused. -/
  | daemon (status : Nat) (reason : String)
  /-- A script in a container failed. -/
  | script (exit : Int) (stderr : String)
  /-- A remote command failed. -/
  | shell (cause : Machine.ShellError)
  /-- The host cannot be logged in to in time. -/
  | noShell (limit : Nat)
  /-- The hypervisor refused. -/
  | hypervisor (cause : Machine.HypervisorError)
  /-- Anything else. -/
  | other (text : String)

namespace Setback

/-- The words for a setback. -/
def message : Setback → String
  | injected => "injected control-plane failure"
  | injectedProvisioning => "injected provisioning failure"
  | noResponse limit => "no response within " ++ Span.display limit
  | daemon status reason => s!"Docker responded with status code {status}: {reason}"
  | script exit stderr => s!"exit={exit}, stderr={stderr}"
  | shell cause => cause.message
  | noShell limit => "ssh not reachable within " ++ Span.display limit
  | hypervisor cause => cause.message
  | other text => text

/-- Whether the words come from a transport. -/
def varies : Setback → Bool
  | hypervisor cause => cause.varies
  | _ => false

end Setback

/-- What a program cannot go on after. -/
inductive Crash where
  /-- A deadline is later than any time that a clock shows. -/
  | deadline
  /-- There is no next number to count with. -/
  | count
deriving DecidableEq

/-- The words for a crash. -/
def Crash.message : Crash → String
  | deadline => "overflow when adding duration to instant"
  | count => "attempt to add with overflow"

/-- What was attempted and did not work out. -/
inductive Failure where
  /-- A control plane did not do as told. -/
  | unavailable (node operation : String) (cause : Setback)
  /-- A condition did not come about in time. -/
  | timedOut (condition : String) (elapsed attempts : Nat) (last : Option Snapshot)
      (lastError : Option String)
  /-- Waiting for a condition was called off. -/
  | cancelled (condition : String)
  /-- The first layout could not be submitted. -/
  | bootstrap (attempts : UInt32) (lastError : String)
  /-- A change of the members did not show. -/
  | membership (operation : String) (node : Endpoint) (observed : Option Layout) (detail : String)
  /-- Something has to be so and is not. -/
  | invalidState (expected actual : String)
  /-- A member cannot do this. -/
  | unsupported (node : Endpoint) (capability : String)
  /-- There are fewer members. -/
  | noNode (index size : Nat)
  /-- The management did not do as told. -/
  | management (cause : ManagementError)
  /-- The fixture is not usable. -/
  | fixture (cause : FixtureError)
  /-- A description of a cluster is wrong. -/
  | data (cause : DataError)
  /-- The program ends on the spot.  This is handed on like a failure, so that it can be told what was done
  by then; but nobody is left to clean up or to report. -/
  | crashed (cause : Crash)

namespace Failure

/-- A setback for a member. -/
def ofNode (node : Endpoint) (operation : String) (cause : Setback) : Failure :=
  unavailable node.text operation cause

/-- A setback for all members together. -/
def ofFleet (operation : String) (cause : Setback) : Failure :=
  unavailable "fleet" operation cause

/-- A fixture that is not usable. -/
def unusable (reason : String) : Failure := fixture (.invalid reason)

/-- What was seen last, in words: an error is later than a snapshot. -/
def lastSeen (last : Option Snapshot) (lastError : Option String) : String :=
  match lastError, last with
  | some e, _ => "fetch error: " ++ e
  | none, some s => s.summary
  | none, none => "no snapshot"

/-- The words for a failure. -/
def message : Failure → String
  | unavailable node operation cause =>
    s!"backend unavailable during {operation} on {node}: {cause.message}"
  | timedOut condition elapsed attempts last lastError =>
    s!"timed out after {Span.display elapsed} ({attempts} attempts) waiting for {condition}" ++
      "; last: " ++ lastSeen last lastError
  | cancelled condition => s!"wait for {condition} cancelled"
  | bootstrap attempts lastError =>
    s!"bootstrap failed after {attempts.toNat} attempts: {lastError}"
  | membership operation node _ detail => s!"{operation} of {node} did not converge: {detail}"
  | invalidState expected actual =>
    s!"invalid cluster state: expected {expected}, found {actual}"
  | unsupported node capability => s!"{node} does not support {capability}"
  | noNode index size => s!"no node at index {index} (cluster has {size})"
  | management cause => "management error: " ++ cause.message
  | fixture cause => "configuration error: " ++ cause.message
  | data cause => "invalid cluster data: " ++ cause.message
  | crashed cause => cause.message

/-- Whether the words come from a transport. -/
def varies : Failure → Bool
  | unavailable _ _ cause => cause.varies
  | management cause => cause.varies
  | _ => false

/-- A field of an event with the words for a failure. -/
def field (e : Failure) : FieldText := .unless e.varies e.message

/-- The last snapshot before a deadline. -/
def lastSnapshot? : Failure → Option Snapshot
  | timedOut _ _ _ last _ => last
  | _ => none

end Failure

/-! ### Deadlines -/

namespace Deadline

/-- A clock that shows `now` will show the end of a span. -/
def Shown (now span : Nat) : Prop := now + span < Span.horizon

instance (now span : Nat) : Decidable (Shown now span) := inferInstanceAs (Decidable (_ < _))

/-- Whenever it is set, a deadline at the end of a span is one that the clock will show. -/
def Feasible {σ : Type} (clock : σ → Nat) (span : Nat) : Prop := ∀ s, Shown (clock s) span

/-- Set a deadline at the end of a span. -/
def set (now span : Nat) : Except Failure Unit :=
  if Shown now span then .ok () else .error (.crashed .deadline)

variable {now span : Nat}

@[simp] theorem set_of_shown (shown : Shown now span) : set now span = .ok () := if_pos shown

@[simp] theorem set_of_not_shown (late : ¬ Shown now span) :
    set now span = .error (.crashed .deadline) := if_neg late

end Deadline

end FaultLab
