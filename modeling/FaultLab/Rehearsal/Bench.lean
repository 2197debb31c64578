import FaultLab.Injector.Batch
import FaultLab.Injector.Rotation
import FaultLab.Rehearsal.Cue

/-! # A bench for scripts against the simulation

A `Bench` holds a stage and what a script has at hand: at most one deployed cluster, members and
clients made on their own, a rotation of links, and a deadline for the calls of batches.  Every act
of a script lets one call run on the stage and reports its answer, the time it took and the events
it noted, as a `Scene`.

Faults go to the members of the deployed cluster; without one they go to the members made on their
own. -/

namespace FaultLab.Rehearsal

open Simulation (Flavor Handle Lab Member endpointAt)

/-- What a script has at hand. -/
structure Bench where
  fixture : Fixture
  flavor : Flavor
  stage : Stage
  group : Option (Group Stage)
  manual : List (Node Stage)
  clients : List (ManagementClient Stage)
  rotation : Rotation
  /-- A deadline for the calls of batches other than the fixture's. -/
  callTimeout : Option Nat
  /-- Deployments so far. -/
  deployments : Nat
  /-- The endpoints to report on. -/
  known : EndpointSet

/-- What came of an act. -/
structure Scene (α : Type) where
  bench : Bench
  answer : α
  elapsed : Nat
  events : List Event

/-- What can be seen of a bench. -/
structure View where
  phase : Option Phase
  handles : List (Endpoint × Commanded)
  members : List (Endpoint × Option Member)
  layout : Option Layout
  prepared : Nat
  released : Nat
  bootstrapAttempts : Nat
  brokenLink : Option (Nat × Nat)
deriving DecidableEq

namespace Bench

variable {α : Type}

/-- How many endpoints of a fixture are reported on from the start. -/
def reportLimit : Nat := 100

/-- The endpoints of a fixture that are reported on from the start. -/
def expected (f : Fixture) : List Endpoint :=
  (List.range (min f.nodeCount reportLimit)).map fun i => endpointAt i f.backend.memberPort

/-- The client with a number, of those that take no cues. -/
def plainClient (number : Nat) : ManagementClient Stage := (Lab.client number).focus Stage.labPart

/-- A bench with one client and nothing else. -/
def ofFixture (f : Fixture) (flavor : Flavor) : Bench where
  fixture := f
  flavor := flavor
  stage := ⟨(Lab.connect.run .empty).state, []⟩
  group := none
  manual := []
  clients := [plainClient 0]
  rotation := .ofPairs []
  callTimeout := none
  deployments := 0
  known := .ofList (expected f)

/-- What can be seen. -/
def view (b : Bench) : View :=
  let fabric := b.stage.lab.fabric
  let nodes := match b.group with
    | some g => g.nodes
    | none => b.manual
  { phase := b.group.map Group.phase
    handles := nodes.map fun n => (n.id, n.commanded b.stage)
    members := b.known.toList.map fun e => (e, fabric.members.get? e)
    layout := fabric.layout
    prepared := fabric.prepared
    released := fabric.released
    bootstrapAttempts := fabric.bootstrapAttempts
    brokenLink := b.rotation.active }

/-- Let a call run on the stage. -/
def play (b : Bench) (c : Call Stage α) : Scene α :=
  let r := c.run b.stage
  ⟨{ b with stage := r.state }, r.value, r.elapsed, r.events⟩

/-- Report on one more endpoint. -/
def know (e : Endpoint) (b : Bench) : Bench := { b with known := b.known.insert e }

/-- The injector of faults. -/
def injector (b : Bench) : Injector Stage :=
  let inj := match b.group with
    | some g => g.injector
    | none => .ofNodes b.manual b.fixture.faults
  { inj with callTimeout := b.callTimeout.getD inj.callTimeout }

/-- The client with a number; without one the deployed cluster's, or the first. -/
def client (b : Bench) : Option Nat → ManagementClient Stage
  | some number => b.clients[number]?.getD (plainClient number)
  | none => match b.group with
    | some g => g.management
    | none => plainClient 0

/-! ### Deployed clusters -/

/-- The number from which the identities of clusters are counted. -/
def firstIdentity : Nat := 0x9e3779b97f4a7c15f39cc0605cedc834

/-- Deploy a cluster, perhaps of another size than the fixture's; a failure leaves the old one. -/
def deploy (b : Bench) (nodeCount : Option Nat) : Scene (Except Failure (Group Stage)) :=
  let fixture := { b.fixture with nodeCount := nodeCount.getD b.fixture.nodeCount }
  let identity := Uuid.ofRandom (firstIdentity + b.deployments)
  let s := b.play ((Stage.orchestrator b.flavor).deploy fixture identity).toCall
  let bench := { s.bench with deployments := b.deployments + 1 }
  match s.answer with
  | .ok g => { s with bench := g.endpoints.foldr know { bench with group := some g } }
  | .error _ => { s with bench := bench }

/-- Tear a cluster down. -/
def teardown (b : Bench) (g : Group Stage) : Scene (Except Failure Unit) :=
  let s := b.play ((Stage.orchestrator b.flavor).teardown g)
  ⟨{ s.bench with group := some s.answer.2 }, s.answer.1, s.elapsed, s.events⟩

/-- Forget the deployed cluster. -/
def dropGroup (b : Bench) : Bench := { b with group := none }

/-! ### Members and clients made on their own -/

/-- Make a member. -/
def provision (b : Bench) (index : Nat) : Scene (Except Failure Endpoint) :=
  let s := b.play ((Stage.plainBackend b.flavor).provision index b.fixture).toCall
  match s.answer with
  | .ok node =>
    ⟨know node.id { s.bench with manual := b.manual ++ [node] }, .ok node.id, s.elapsed, s.events⟩
  | .error e => ⟨s.bench, .error e, s.elapsed, s.events⟩

/-- Make a handle on a member, which need not exist. -/
def attach (b : Bench) (e : Endpoint) : Scene Unit :=
  let s := b.play ((Lab.attach ⟨e, b.flavor⟩).focus Stage.labPart)
  let node := s.answer.focus Stage.labPart
  ⟨know e { s.bench with manual := b.manual ++ [node] }, (), s.elapsed, s.events⟩

/-- Make a client; gives its number. -/
def connect (b : Bench) : Scene Nat :=
  let s := b.play (Lab.connect.focus Stage.labPart)
  let client := s.answer.focus Stage.labPart
  ⟨{ s.bench with clients := b.clients ++ [client] }, b.clients.length, s.elapsed, s.events⟩

/-! ### Rotations -/

/-- Take other links into the rotation. -/
def setRotation (r : Rotation) (b : Bench) : Bench := { b with rotation := r }

/-- Break the next link of the rotation. -/
def rotate (b : Bench) : Scene (Except Failure (Option (Nat × Nat))) :=
  let s := b.play (b.rotation.step b.injector)
  ⟨s.bench.setRotation s.answer.2, s.answer.1, s.elapsed, s.events⟩

/-- Break no further link. -/
def finish (b : Bench) : Scene (Except Failure Unit) :=
  let s := b.play (b.rotation.finish b.injector)
  ⟨s.bench.setRotation s.answer.2, s.answer.1, s.elapsed, s.events⟩

end Bench

/-! ### Deeds -/

/-- Something that a script may do by itself or while it waits. -/
inductive Deed where
  | setLag (readings : Nat)
  | failBootstraps (count : Nat)
  | managementDown (down : Bool)
  | failProvision (index : Nat)
  /-- Operations that do not exist cannot fail. -/
  | failNext (node : Endpoint) (operation : Option Operation)
  | latency (node : Endpoint) (span : Nat)
  | fault (fault : Fault) (index : Nat)
  | disconnect (index : Nat) (peers : List Nat) (symmetry : Symmetry)
  | reconnect (index : Nat) (peers : List Nat) (symmetry : Symmetry)
  | partition (index : Nat)
  | heal (index : Nat)
  | linkFailure (a b : Nat)
  | healLink (a b : Nat)

namespace Deed

/-- Change the fabric. -/
def onFabric (change : Simulation.Fabric → Simulation.Fabric) : Attempt Stage Failure Unit :=
  Attempt.lift (Call.focus Stage.labPart (Call.modify (Lab.onFabric change)))

/-- Do it. -/
def attempt (b : Bench) : Deed → Attempt Stage Failure Unit
  | setLag readings => onFabric (.setDetectionLag readings)
  | failBootstraps count => onFabric (.failBootstraps count)
  | managementDown down => onFabric (.setManagementDown down)
  | failProvision index => onFabric (.failProvisioning index)
  | failNext node (some operation) => onFabric (.failOnce node operation)
  | failNext _ none => return ()
  | latency node span => onFabric (.setLatency node span)
  | fault f index => b.injector.inject f index
  | disconnect index peers symmetry => b.injector.disconnect index peers symmetry
  | reconnect index peers symmetry => b.injector.reconnect index peers symmetry
  | partition index => b.injector.partition index
  | heal index => b.injector.heal index
  | linkFailure x y => b.injector.linkFailure x y
  | healLink x y => b.injector.healLink x y

/-- Do it when a span has passed, whatever comes of it. -/
def after (b : Bench) (span : Nat) (d : Deed) : Call Stage Unit := do
  Call.sleep span
  let _ ← (d.attempt b).toCall
  return ()

end Deed

/-! ### Waiting -/

/-- What a script waits for. -/
inductive Goal where
  | condition (c : Condition)
  /-- A later layout than the present one. -/
  | nextEpoch

namespace Bench

/-- The poller of the deployed cluster, or one over a client. -/
def poller (b : Bench) (client : Option Nat) : Poller Stage :=
  match b.group with
  | some g => g.poller
  | none => ⟨b.client client, b.fixture.poll⟩

/-- Wait with a poller while deeds are done, each at its time; what is not done when the wait ends
is left undone. -/
def wait (b : Bench) (p : Poller Stage) (goal : Goal) (signal : Option Nat)
    (deeds : List (Nat × Deed)) : Scene (Except Failure PollSuccess) :=
  let waiting := match goal with
    | .condition c => p.wait 0 signal c
    | .nextEpoch => p.waitForNextEpoch 0 signal
  let others := Call.together (deeds.map fun (span, d) => d.after b span)
  b.play (Prod.fst <$> Call.beside waiting.toCall others)

end Bench

end FaultLab.Rehearsal
