import FaultLab.Simulation.Fabric

/-! # Handles on simulated members

A handle works on a `Seat`: the fabric and what this handle has commanded.  Each operation is a pure
change of the seat; as a call it first takes the member's latency, then fails if the test asked for
that, and only then makes the change, all in one step. -/

namespace FaultLab.Simulation

/-- What kind of real member a simulated one stands for. -/
inductive Flavor where
  /-- A process that starts anew has lost its blocks, and there is no power control. -/
  | container
  /-- Blocks outlive the process and go with the power. -/
  | machine
deriving DecidableEq

/-- A handle on a member of the simulation. -/
structure Handle where
  id : Endpoint
  flavor : Flavor

/-- The fabric as one handle sees it, and what the handle has commanded. -/
structure Seat where
  fabric : Fabric
  commanded : Commanded

/-- The endpoint of the member at an index. -/
def endpointAt (index : Nat) (port : UInt16) : Endpoint :=
  Endpoint.ofParts s!"10.0.0.{10 + index}" port

namespace Handle

/-! ### What an operation changes -/

/-- The status of the process; a member that does not exist has stopped. -/
def physical (h : Handle) (s : Seat) : NodeStatus := (s.fabric.status? h.id).getD .stopped

/-- Whether the power is off. -/
def poweredOff (h : Handle) (s : Seat) : Bool := s.fabric.poweredOff h.id

/-- Change the member. -/
def update (h : Handle) (change : Member → Member) (s : Seat) : Seat :=
  { s with fabric := s.fabric.update h.id change }

/-- Change the member's process, and record the command. -/
def settle (h : Handle) (status : NodeStatus) (s : Seat) : Seat where
  fabric := s.fabric.update h.id fun m => { m with status := status }
  commanded := s.commanded.setStatus status

/-- Record a command. -/
def record (status : NodeStatus) (s : Seat) : Seat :=
  { s with commanded := s.commanded.setStatus status }

/-- Take all blocks down. -/
def clearBlocks (h : Handle) (s : Seat) : Seat where
  fabric := s.fabric.update h.id fun m => { m with blocked := .empty }
  commanded := s.commanded.clearPeers

/-- Give power to a member that has none. -/
def energize (h : Handle) (s : Seat) : Seat :=
  if h.poweredOff s then h.update (fun m => { m with power := .on }) s else s

/-- Whether starting the process loses its blocks. -/
def startsAnew (h : Handle) (s : Seat) : Bool :=
  h.flavor = .container && !(h.physical s).isLive && h.physical s ≠ .paused

/-- Have the process run, with power. -/
def started (h : Handle) (s : Seat) : Seat :=
  let s := if h.poweredOff s then h.clearBlocks (h.energize s) else s
  let s := if h.startsAnew s then h.clearBlocks s else s
  h.settle .running s

/-- Have the process end; one that was killed stays so, and a member without power stays without. -/
def stopped (h : Handle) (s : Seat) : Seat :=
  if h.physical s = .killed then s
  else if s.commanded.status = .poweredOff then
    h.update (fun m => { m with status := .stopped }) s
  else h.settle .stopped s

/-- End a process that is there. -/
def killed (h : Handle) (s : Seat) : Seat :=
  if (h.physical s).isLive ∨ h.physical s = .paused then h.settle .killed s else s

/-- Freeze a process that runs. -/
def paused (h : Handle) (s : Seat) : Except Failure Unit × Seat :=
  if h.physical s = .paused then (.ok (), s)
  else if !(h.physical s).isLive || h.poweredOff s then
    (.error (.invalidState "running node" s.commanded.status.display), s)
  else (.ok (), h.settle .paused s)

/-- Unfreeze a process that is frozen. -/
def resumed (h : Handle) (s : Seat) : Seat :=
  if h.physical s = .paused then h.settle .running s else s

/-- Block a peer. -/
def block (h : Handle) (s : Seat) (peer : Endpoint) : Seat where
  fabric := s.fabric.update h.id fun m => { m with blocked := m.blocked.insert peer }
  commanded := s.commanded.addPeer peer

/-- Let a peer through. -/
def unblock (h : Handle) (s : Seat) (peer : Endpoint) : Seat where
  fabric := s.fabric.update h.id fun m => { m with blocked := m.blocked.erase peer }
  commanded := s.commanded.removePeer peer

/-- Block those of some peers that are not blocked; nobody blocks itself. -/
def disconnected (h : Handle) (peers : List Endpoint) (s : Seat) : Seat :=
  ((s.commanded.notBlocked peers).filter fun e => e ≠ h.id).foldl h.block s

/-- Let some peers through. -/
def reconnected (h : Handle) (peers : List Endpoint) (s : Seat) : Seat := peers.foldl h.unblock s

/-- Give the member back. -/
def destroyed (h : Handle) (s : Seat) : Seat where
  fabric := s.fabric.update h.id fun m => { m with destroyed := true, blocked := .empty }
  commanded := s.commanded.clearPeers.setStatus .stopped

/-- Take the power away, or have the system start anew: nothing of the process is left. -/
def powerCycled (h : Handle) (power : PowerState) (status : NodeStatus) (s : Seat) : Seat :=
  record status
    (h.clearBlocks (h.update (fun m => { m with power := power, status := .stopped }) s))

/-- Give power; the process is not started. -/
def poweredOn (h : Handle) (s : Seat) : Seat :=
  let s := h.energize s
  if s.commanded.status = .poweredOff then record .stopped s else s

/-! ### Operations as calls -/

variable {α : Type}

/-- Act on a seat unless the operation is to fail. -/
def guarded (h : Handle) (op : Operation) (act : Seat → Except Failure α × Seat) (s : Seat) :
    Except Failure α × Seat :=
  if s.fabric.failNext.contains (h.id, op) then
    (.error (.ofNode h.id op.name .injected),
      { s with fabric := s.fabric.spendFailure h.id op })
  else act s

/-- Act on a seat after the member's latency. -/
def perform (h : Handle) (op : Operation) (act : Seat → Except Failure α × Seat) :
    Attempt Seat Failure α := do
  let latency ← Attempt.lift (Call.read fun s => s.fabric.latencyOf h.id)
  Attempt.lift (Call.sleepIfAny latency)
  Attempt.ofCall (Call.atomically (h.guarded op act))

/-- Make a change that cannot fail of itself. -/
def change (h : Handle) (op : Operation) (f : Seat → Seat) : Attempt Seat Failure Unit :=
  h.perform op fun s => (.ok (), f s)

/-- Have the member run. -/
def start (h : Handle) : Attempt Seat Failure Unit := h.change .start h.started

/-- Have the member end. -/
def stop (h : Handle) : Attempt Seat Failure Unit := h.change .stop h.stopped

/-- The power control of a handle. -/
def power (h : Handle) : Power Seat where
  off := h.change .powerOff (h.powerCycled .off .poweredOff)
  on := h.change .powerOn h.poweredOn
  reboot := h.change .reboot (h.powerCycled .on .stopped)
  state := h.perform .powerState fun s => (.ok (if h.poweredOff s then .off else .on), s)

/-- The handle as a member of a cluster. -/
def node (h : Handle) : Node Seat where
  id := h.id
  kind := .simulated
  commanded := Seat.commanded
  start := h.start
  stop _ := h.stop
  kill := h.change .kill h.killed
  pause := h.perform .pause h.paused
  resume := h.change .resume h.resumed
  disconnect peers := h.change .disconnect (h.disconnected peers)
  reconnect peers := h.change .reconnect (h.reconnected peers)
  restart := do
    h.stop
    h.start
  destroy := h.change .destroy h.destroyed
  power := if h.flavor = .machine then some h.power else none

end Handle

end FaultLab.Simulation
