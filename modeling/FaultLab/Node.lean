import FaultLab.Failure

/-! # Members as they are handled

A `Node σ` is a handle on one member of a cluster.  Its operations are attempts on the shared state
`σ`; they return when the control plane has taken the command, not when the cluster has noticed.
Every operation may be repeated: what is already so stays so. -/

namespace FaultLab

/-- What a member runs on. -/
inductive NodeKind where
  | container
  | machine
  | simulated
deriving DecidableEq

namespace NodeKind

/-- A kind in a message. -/
def display : NodeKind → String
  | container => "container"
  | machine => "vm"
  | simulated => "simulated"

end NodeKind

/-- An operation on a member. -/
inductive Operation where
  | start
  | stop
  | kill
  | pause
  | resume
  | disconnect
  | reconnect
  | restart
  | destroy
  | powerOff
  | powerOn
  | reboot
  | powerState
  | provision
deriving DecidableEq

namespace Operation

/-- All operations. -/
def all : List Operation :=
  [start, stop, kill, pause, resume, disconnect, reconnect, restart, destroy, powerOff, powerOn,
    reboot, powerState, provision]

/-- The name of an operation. -/
def name : Operation → String
  | start => "start"
  | stop => "stop"
  | kill => "kill"
  | pause => "pause"
  | resume => "resume"
  | disconnect => "disconnect"
  | reconnect => "reconnect"
  | restart => "restart"
  | destroy => "destroy"
  | powerOff => "power_off"
  | powerOn => "power_on"
  | reboot => "reboot"
  | powerState => "power_state"
  | provision => "provision"

/-- The operation with a name. -/
def ofName? (text : String) : Option Operation := all.find? fun o => o.name = text

end Operation

/-- Control over the power of the machine that a member runs on. -/
structure Power (σ : Type) where
  /-- Take the power away, at once. -/
  off : Attempt σ Failure Unit
  /-- Give power; the member's process is not started. -/
  on : Attempt σ Failure Unit
  /-- Have the system start anew. -/
  reboot : Attempt σ Failure Unit
  /-- Whether there is power. -/
  state : Attempt σ Failure PowerState

/-- A handle on a member. -/
structure Node (σ : Type) where
  id : Endpoint
  kind : NodeKind
  /-- What was commanded last. -/
  commanded : σ → Commanded
  /-- Have the member run. -/
  start : Attempt σ Failure Unit
  /-- Have the member end, by force if it takes longer than some span. -/
  stop : Nat → Attempt σ Failure Unit
  /-- End the member at once. -/
  kill : Attempt σ Failure Unit
  /-- Freeze the member. -/
  pause : Attempt σ Failure Unit
  /-- Unfreeze the member. -/
  resume : Attempt σ Failure Unit
  /-- Block the traffic with some peers. -/
  disconnect : List Endpoint → Attempt σ Failure Unit
  /-- Let the traffic with some peers through. -/
  reconnect : List Endpoint → Attempt σ Failure Unit
  /-- Stop the member, then start it. -/
  restart : Attempt σ Failure Unit
  /-- Give back what the member uses. -/
  destroy : Attempt σ Failure Unit
  /-- Control over its machine, where there is any. -/
  power : Option (Power σ)

/-- How long a member may take to end where nobody says otherwise. -/
def defaultGrace : Nat := Span.ofSeconds 10

namespace Power

/-- Power control in a part of the state. -/
def focus {σ τ : Type} (p : Part σ τ) (power : Power τ) : Power σ where
  off := power.off.focus p
  on := power.on.focus p
  reboot := power.reboot.focus p
  state := power.state.focus p

end Power

namespace Node

variable {σ : Type}

/-- A handle in a part of the state. -/
def focus {τ : Type} (p : Part σ τ) (node : Node τ) : Node σ where
  id := node.id
  kind := node.kind
  commanded s := node.commanded (p.get s)
  start := node.start.focus p
  stop grace := (node.stop grace).focus p
  kill := node.kill.focus p
  pause := node.pause.focus p
  resume := node.resume.focus p
  disconnect peers := (node.disconnect peers).focus p
  reconnect peers := (node.reconnect peers).focus p
  restart := node.restart.focus p
  destroy := node.destroy.focus p
  power := node.power.map (Power.focus p)

/-- Control over the power of a member's machine, which not every member has. -/
def requirePower (node : Node σ) : Except Failure (Power σ) :=
  match node.power with
  | some power => .ok power
  | none => .error (.unsupported node.id "power control")

end Node

end FaultLab
