import FaultLab.Backend
import FaultLab.Injector
import FaultLab.Lifecycle
import FaultLab.Poller

/-! # A deployed cluster

A `Group` holds the members of a deployment, the client for their management, and the phase that
the deployment is in.  A change of the layout counts only when a fresh layout shows it. -/

namespace FaultLab

/-- A deployed cluster. -/
structure Group (σ : Type) where
  fixture : Fixture
  nodes : List (Node σ)
  management : ManagementClient σ
  phase : Phase

namespace Group

variable {σ : Type}

/-- The member at an index. -/
def node (g : Group σ) (index : Nat) : Except Failure (Node σ) :=
  match g.nodes[index]? with
  | some node => .ok node
  | none => .error (.noNode index g.nodes.length)

/-- The endpoints of the members. -/
def endpoints (g : Group σ) : List Endpoint := g.nodes.map Node.id

/-- The number of members. -/
def size (g : Group σ) : Nat := g.nodes.length

/-- Whether there are no members. -/
def isEmpty (g : Group σ) : Bool := g.nodes.isEmpty

/-- An injector of faults into the members. -/
def injector (g : Group σ) : Injector σ := .ofNodes g.nodes g.fixture.faults

/-- A poller with the patience of the fixture. -/
def poller (g : Group σ) : Poller σ := ⟨g.management, g.fixture.poll⟩

/-- A fresh layout. -/
def layout (g : Group σ) : Attempt σ Failure Layout := do
  Attempt.lift g.management.invalidate
  g.management.getLayout.mapError .management

/-- The present report. -/
def status (g : Group σ) : Attempt σ Failure StatusReport :=
  g.management.getStatus.mapError .management

/-- A fresh layout with the report after it. -/
def snapshot (g : Group σ) : Attempt σ Failure Snapshot :=
  g.management.snapshot.mapError .management

/-- A change of who is a server. -/
inductive MembershipChange where
  | add
  | remove
deriving DecidableEq

namespace MembershipChange

/-- The name of a change. -/
def name : MembershipChange → String
  | add => "add"
  | remove => "remove"

/-- The event that a change begins. -/
def event (e : Endpoint) : MembershipChange → Event
  | add => .info "adding node to layout" [("node", .fixed e.text)]
  | remove => .info "removing node from layout" [("node", .fixed e.text)]

/-- Whether a layout shows a change. -/
def shows (e : Endpoint) (l : Layout) : MembershipChange → Bool
  | add => l.contains e
  | remove => !l.contains e

/-- Ask the management for a change. -/
def request (client : ManagementClient σ) (e : Endpoint) (patience : Patience) :
    MembershipChange → Attempt σ ManagementError Unit
  | add => client.add e patience
  | remove => client.remove e patience

end MembershipChange

/-- Why a change is in doubt. -/
inductive Doubt where
  /-- The management did not do as told. -/
  | refused (cause : ManagementError)
  /-- The layout cannot be read. -/
  | unseen (cause : ManagementError)
  /-- The layout does not show the change. -/
  | notShown (epoch : UInt64)

namespace Doubt

/-- The words for a doubt. -/
def message : Doubt → String
  | refused cause => cause.message
  | unseen cause => "layout re-fetch failed: " ++ cause.message
  | notShown epoch => s!"call succeeded but layout epoch {epoch.toNat} does not reflect it"

/-- Whether the words come from a transport. -/
def varies : Doubt → Bool
  | refused cause => cause.varies
  | unseen cause => cause.varies
  | notShown _ => false

end Doubt

/-- What to make of a change: the answer to the request comes first, then whether the layout can be
read, then whether it shows the change. -/
def verdict (change : MembershipChange) (e : Endpoint) (answer : Except ManagementError Unit)
    (observed : Except ManagementError Layout) : Except Doubt Layout :=
  match answer, observed with
  | .error cause, _ => .error (.refused cause)
  | .ok (), .error cause => .error (.unseen cause)
  | .ok (), .ok layout =>
    if change.shows e layout then .ok layout else .error (.notShown layout.epoch)

/-- Make sure that a change shows. -/
def verify (g : Group σ) (change : MembershipChange) (e : Endpoint)
    (answer : Except ManagementError Unit) : Attempt σ Failure Layout := do
  Attempt.lift g.management.invalidate
  let observed ← Attempt.lift g.management.getLayout.toCall
  match verdict change e answer observed with
  | .ok layout =>
    Attempt.log (.info "membership change verified" [("node", .fixed e.text),
      ("operation", .fixed change.name), ("epoch", .ofNat layout.epoch.toNat)])
    return layout
  | .error doubt =>
    Attempt.log (.warn "membership change failed" [("node", .fixed e.text),
      ("operation", .fixed change.name), ("detail", .unless doubt.varies doubt.message)])
    Attempt.give (.error (.membership change.name e observed.toOption doubt.message))

/-- The endpoint of a member of a cluster that is ready. -/
def readyEndpoint (g : Group σ) (index : Nat) : Except Failure Endpoint := do
  g.phase.require .ready
  let node ← g.node index
  return node.id

/-- Change whether a member is a server, and make sure of it. -/
def changeMembership (g : Group σ) (change : MembershipChange) (index : Nat) :
    Attempt σ Failure Layout := do
  let e ← Attempt.give (g.readyEndpoint index)
  Attempt.log (change.event e)
  let answer ← Attempt.lift (change.request g.management e g.fixture.membership).toCall
  g.verify change e answer

/-- Make a member a server. -/
def addNode (g : Group σ) : Nat → Attempt σ Failure Layout := g.changeMembership .add

/-- Make a member no server any more. -/
def removeNode (g : Group σ) : Nat → Attempt σ Failure Layout := g.changeMembership .remove

/-- Have a member forget its state. -/
def resetNode (g : Group σ) (index : Nat) : Attempt σ Failure Unit := do
  let e ← Attempt.give (g.readyEndpoint index)
  Attempt.log (.info "resetting node" [("node", .fixed e.text)])
  (g.management.reset e).mapError .management

end Group

end FaultLab
