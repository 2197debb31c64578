import FaultLab.Fixture
import FaultLab.Node

/-! # Injecting faults

An `Injector` breaks and mends the members of a cluster by their index.  Cutting a member off is
blocking it from every other member and every other member from it; breaking a link is one block on
one side.  Nothing is ever tried twice. -/

namespace FaultLab

/-- Whether a block is put up on the peers as well. -/
inductive Symmetry where
  | symmetric
  | oneWay
deriving DecidableEq

/-- A symmetry as values of a program are shown. -/
def Symmetry.inspect : Symmetry → String
  | symmetric => "Symmetric"
  | oneWay => "OneWay"

/-- Members, and how patient to be with them. -/
structure Injector (σ : Type) where
  nodes : List (Node σ)
  /-- How long a member may take to stop. -/
  stopGrace : Nat
  /-- How long each call of a batch may take. -/
  callTimeout : Nat

namespace Injector

variable {σ : Type}

/-- An injector with the patience of a fixture. -/
def ofNodes (nodes : List (Node σ)) (faults : FaultPolicy) : Injector σ :=
  ⟨nodes, faults.stopGrace, faults.callTimeout⟩

/-- The member at an index. -/
def node (inj : Injector σ) (index : Nat) : Except Failure (Node σ) :=
  match inj.nodes[index]? with
  | some node => .ok node
  | none => .error (.noNode index inj.nodes.length)

/-- The endpoints of the members at some indices. -/
def ids (inj : Injector σ) (indices : List Nat) : Except Failure (List Endpoint) :=
  indices.mapM fun i => (inj.node i).map Node.id

/-- All indices. -/
def all (inj : Injector σ) : List Nat := List.range inj.nodes.length

/-- All indices but one. -/
def others (inj : Injector σ) (index : Nat) : List Nat := inj.all.filter fun i => i ≠ index

/-- The event that blocks are put up or taken down. -/
def linkEvent (message : String) (node : Node σ) (peers : List Nat) (symmetry : Symmetry) : Event :=
  .info message [("node", .fixed node.id.text), ("peers", .ofNat peers.length),
    ("symmetry", .fixed symmetry.inspect)]

/-- Do something to a member and some peers, and perhaps to each peer and the member. -/
def link (inj : Injector σ) (message : String)
    (change : Node σ → List Endpoint → Attempt σ Failure Unit) (index : Nat) (peers : List Nat)
    (symmetry : Symmetry) : Attempt σ Failure Unit := do
  let node ← Attempt.give (inj.node index)
  let ids ← Attempt.give (inj.ids peers)
  Attempt.log (linkEvent message node peers symmetry)
  change node ids
  if symmetry = .symmetric then
    peers.forM fun i => do
      let peer ← Attempt.give (inj.node i)
      change peer [node.id]

/-- Block a member from some peers. -/
def disconnect (inj : Injector σ) : Nat → List Nat → Symmetry → Attempt σ Failure Unit :=
  inj.link "disconnect" Node.disconnect

/-- Let the traffic between a member and some peers through. -/
def reconnect (inj : Injector σ) : Nat → List Nat → Symmetry → Attempt σ Failure Unit :=
  inj.link "reconnect" Node.reconnect

/-- Cut a member off. -/
def partition (inj : Injector σ) (index : Nat) : Attempt σ Failure Unit :=
  inj.disconnect index (inj.others index) .symmetric

/-- Undo `partition`. -/
def heal (inj : Injector σ) (index : Nat) : Attempt σ Failure Unit :=
  inj.reconnect index (inj.others index) .symmetric

/-- Break one link. -/
def linkFailure (inj : Injector σ) (a b : Nat) : Attempt σ Failure Unit :=
  inj.disconnect a [b] .oneWay

/-- Mend one link. -/
def healLink (inj : Injector σ) (a b : Nat) : Attempt σ Failure Unit :=
  inj.reconnect a [b] .oneWay

end Injector

/-- Something that can be done to a member on its own. -/
inductive Fault where
  | start
  | stop
  | kill
  | pause
  | resume
  | restart
  | powerOff
  | powerOn
  | reboot
deriving DecidableEq

namespace Fault

/-- The operation that a fault is. -/
def operation : Fault → Operation
  | start => .start
  | stop => .stop
  | kill => .kill
  | pause => .pause
  | resume => .resume
  | restart => .restart
  | powerOff => .powerOff
  | powerOn => .powerOn
  | reboot => .reboot

/-- The name of a fault. -/
def name (f : Fault) : String := f.operation.name

/-- All faults. -/
def all : List Fault :=
  [start, stop, kill, pause, resume, restart, powerOff, powerOn, reboot]

/-- The fault with a name. -/
def ofName? (text : String) : Option Fault := all.find? fun f => f.name = text

/-- A fault as values of a program are shown. -/
def inspect : Fault → String
  | start => "Start"
  | stop => "Stop"
  | kill => "Kill"
  | pause => "Pause"
  | resume => "Resume"
  | restart => "Restart"
  | powerOff => "PowerOff"
  | powerOn => "PowerOn"
  | reboot => "Reboot"

variable {σ : Type}

/-- Do it to a member. -/
def apply (grace : Nat) (node : Node σ) : Fault → Attempt σ Failure Unit
  | start => node.start
  | stop => node.stop grace
  | kill => node.kill
  | pause => node.pause
  | resume => node.resume
  | restart => node.restart
  | powerOff => do (← Attempt.give node.requirePower).off
  | powerOn => do (← Attempt.give node.requirePower).on
  | reboot => do (← Attempt.give node.requirePower).reboot

end Fault

/-- Do something to one member. -/
def Injector.inject {σ : Type} (inj : Injector σ) (f : Fault) (index : Nat) :
    Attempt σ Failure Unit := do
  let node ← Attempt.give (inj.node index)
  f.apply inj.stopGrace node

end FaultLab
