import FaultLab.Container.Daemon
import FaultLab.Node
import FaultLab.Text.Blank

/-! # Members in containers

A member that runs in a container is handled through the daemon.  What the daemon says about the
container decides what there is to do; what was commanded is recorded once the daemon has done it.
A container that is started has a new network, so all blocks are gone. -/

namespace FaultLab.Container

/-- How a container does. -/
inductive Condition where
  | running
  | paused
  | idle
deriving DecidableEq

/-- How a container in a state does. -/
def Condition.ofState : Option RunState → Condition
  | some .paused => paused
  | some .running => running
  | some .restarting => running
  | _ => idle

/-- A handle on a member in a container. -/
structure Handle (σ : Type) where
  id : Endpoint
  container : String
  /-- How long the member may take to end before it is started again. -/
  restartGrace : Nat
  daemon : Daemon σ
  commanded : Part σ Commanded

/-- The seconds that the daemon gives a member to stop, in sixty-four bits. -/
def stopSeconds (grace : Nat) : Int := (Int64.ofNat (Span.seconds grace)).toInt

/-- The seconds that the daemon gives a member to stop before it is started again; where they do not
fit in sixty-four bits, as many as do. -/
def restartSeconds (grace : Nat) : Int := min (Span.seconds grace : Int) 0x7fffffffffffffff

namespace Handle

variable {σ α : Type}

/-- Ask the daemon on behalf of an operation. -/
def ask (h : Handle σ) (operation : String) (c : Attempt σ DaemonError α) :
    Attempt σ Failure α :=
  c.mapError fun e => .ofNode h.id operation (.daemon e.status e.reason)

/-- Record a change. -/
def record (h : Handle σ) (f : Commanded → Commanded) : Attempt σ Failure Unit :=
  Attempt.lift (h.commanded.change f)

/-- What was commanded last. -/
def present (h : Handle σ) : Attempt σ Failure Commanded := Attempt.lift h.commanded.read

/-- Report that an operation was carried out. -/
def report (h : Handle σ) (message : String) (fields : List (String × FieldText)) :
    Attempt σ Failure Unit :=
  Attempt.log (.info message (("node", .fixed h.id.text) :: fields))

/-- How the container does. -/
def condition (h : Handle σ) (operation : String) : Attempt σ Failure Condition := do
  let state ← h.ask operation (h.daemon.inspect h.container)
  return .ofState state

/-- Unfreeze the container if it is frozen, and say how it does then. -/
def unfreeze (h : Handle σ) (operation : String) : Attempt σ Failure Condition := do
  let condition ← h.condition operation
  if condition = .paused then
    h.ask operation (h.daemon.unpause h.container)
    return .running
  else return condition

/-- Run a command in the container. -/
def execute (h : Handle σ) (operation : String) (c : Command) : Attempt σ Failure Outcome :=
  h.ask operation (h.daemon.execute h.container c)

/-- Run a script that has to succeed. -/
def runScript (h : Handle σ) (operation : String) (task : Firewall.Task) :
    Attempt σ Failure Unit := do
  let o ← h.execute operation (.firewall task)
  Attempt.give (if o.success then .ok ()
    else .error (.ofNode h.id operation (.script o.exit (Text.trim o.stderr))))

/-- Have the member run. -/
def start (h : Handle σ) : Attempt σ Failure Unit := do
  if (← h.unfreeze "start") ≠ .running then
    h.ask "start" (h.daemon.start h.container)
    h.record Commanded.clearPeers
  h.record (Commanded.setStatus .running)
  h.report "started" []

/-- Have the member end. -/
def stop (h : Handle σ) (grace : Nat) : Attempt σ Failure Unit := do
  if (← h.unfreeze "stop") = .idle then
    let c ← h.present
    if c.status.isLive ∨ c.status = .paused then h.record (Commanded.setStatus .stopped)
  else
    h.ask "stop" (h.daemon.stop h.container (stopSeconds grace))
    h.record (Commanded.setStatus .stopped)
    h.report "stopped" [("grace", .fixed (Span.display grace))]

/-- End the member at once. -/
def kill (h : Handle σ) : Attempt σ Failure Unit := do
  if (← h.unfreeze "kill") = .idle then h.record (Commanded.setStatus .killed)
  else
    h.ask "kill" (h.daemon.kill h.container)
    h.record (Commanded.setStatus .killed)
    h.report "killed" []

/-- Freeze the member. -/
def pause (h : Handle σ) : Attempt σ Failure Unit := do
  match ← h.condition "pause" with
  | .paused => h.record (Commanded.setStatus .paused)
  | .running =>
    h.ask "pause" (h.daemon.pause h.container)
    h.report "paused" []
    h.record (Commanded.setStatus .paused)
  | .idle =>
    let c ← h.present
    Attempt.give (.error (.invalidState "running container" c.status.display))

/-- Unfreeze the member. -/
def resume (h : Handle σ) : Attempt σ Failure Unit := do
  if (← h.condition "resume") = .paused then
    h.ask "resume" (h.daemon.unpause h.container)
    h.report "resumed" []
  if (← h.present).status = .paused then h.record (Commanded.setStatus .running)

/-- Block a peer. -/
def block (h : Handle σ) (peer : Endpoint) : Attempt σ Failure Unit := do
  h.runScript "disconnect" ⟨.block, peer.host, false⟩
  h.report "blocked peer" [("peer", .fixed peer.text)]
  h.record (Commanded.addPeer peer)

/-- Let a peer through. -/
def unblock (h : Handle σ) (peer : Endpoint) : Attempt σ Failure Unit := do
  h.runScript "reconnect" ⟨.unblock, peer.host, false⟩
  h.report "unblocked peer" [("peer", .fixed peer.text)]
  h.record (Commanded.removePeer peer)

/-- Block those of some peers that are not blocked; nobody blocks itself. -/
def disconnect (h : Handle σ) (peers : List Endpoint) : Attempt σ Failure Unit := do
  let c ← h.present
  ((c.notBlocked peers).filter fun e => e ≠ h.id).forM h.block

/-- Let those of some peers through that are blocked. -/
def reconnect (h : Handle σ) (peers : List Endpoint) : Attempt σ Failure Unit := do
  let c ← h.present
  (peers.filter c.peers.contains).forM h.unblock

/-- Stop the member and start it. -/
def restart (h : Handle σ) : Attempt σ Failure Unit := do
  let _ ← h.unfreeze "restart"
  h.ask "restart" (h.daemon.restart h.container (restartSeconds h.restartGrace))
  h.record Commanded.clearPeers
  h.record (Commanded.setStatus .running)
  h.report "restarted" []

/-- Remove the container. -/
def destroy (h : Handle σ) : Attempt σ Failure Unit := do
  h.ask "destroy" (h.daemon.remove h.container)
  h.record (Commanded.setStatus .stopped)
  h.report "removed container" [("container", .fixed h.container)]

/-- The handle as a member of a cluster. -/
def node (h : Handle σ) : Node σ where
  id := h.id
  kind := .container
  commanded := h.commanded.get
  start := h.start
  stop := h.stop
  kill := h.kill
  pause := h.pause
  resume := h.resume
  disconnect := h.disconnect
  reconnect := h.reconnect
  restart := h.restart
  destroy := h.destroy
  power := none

end Handle

end FaultLab.Container
