import FaultLab.Fixture
import FaultLab.Node
import FaultLab.Machine.Hypervisor
import FaultLab.Machine.Shell

/-! # Members on virtual machines

A member that runs on a virtual machine is handled by commands on the machine, and the machine's
power by the hypervisor.  Before it does anything, an operation asks whether the member's process
runs; a frozen process is woken before it is asked to end.  The rules of the firewall go with the
power, so that all blocks are gone when the power was.

A process that is to end and a machine that starts are given a deadline, which has to be a time that the
clock will show.  It is set only when the process was asked to end and when the machine has power. -/

namespace FaultLab.Machine

/-- A handle on a member on a virtual machine. -/
structure Handle (σ : Type) where
  id : Endpoint
  vm : String
  host : Host
  process : ProcessSpec
  /-- How long the machine may take to start. -/
  bootTimeout : Nat
  hypervisor : Hypervisor σ
  shell : Shell σ
  /-- What the clock shows. -/
  clock : σ → Nat
  commanded : Part σ Commanded

/-- The time between two looks at a process that is to end. -/
def stopPeriod : Nat := Span.ofMillis 500

/-- The time between two attempts to log in to a machine that starts. -/
def bootPeriod : Nat := Span.ofSeconds 2

namespace Handle

variable {σ α : Type}

/-- Commands need the rights of another user unless the user is `root`. -/
def elevated (h : Handle σ) : Bool := h.host.user ≠ "root"

/-- The command that sends a signal to the member's process. -/
def signal (h : Handle σ) (s : Signal) : Command := .signal h.elevated s h.process.pattern

/-- Record a change. -/
def record (h : Handle σ) (f : Commanded → Commanded) : Attempt σ Failure Unit :=
  Attempt.lift (h.commanded.change f)

/-- What was commanded last. -/
def present (h : Handle σ) : Attempt σ Failure Commanded := Attempt.lift h.commanded.read

/-- Report that an operation was carried out. -/
def report (h : Handle σ) (message : String) (fields : List (String × FieldText)) :
    Attempt σ Failure Unit :=
  Attempt.log (.info message (("node", .fixed h.id.text) :: fields))

/-- The field with the machine's name. -/
def vmField (h : Handle σ) : String × FieldText := ("vm", .fixed h.vm)

/-- Run a command that has to succeed on behalf of an operation. -/
def run (h : Handle σ) (operation : String) (c : Command) : Attempt σ Failure Unit := do
  let _ ← (h.shell.runWell h.host c).mapError fun e => .ofNode h.id operation (.shell e)

/-- Whether the member's process runs. -/
def isRunning (h : Handle σ) (operation : String) : Attempt σ Failure Bool := do
  let o ← (h.shell.run h.host (.status h.process.status)).mapError fun e =>
    .ofNode h.id operation (.shell e)
  return o.success

/-- Set a deadline at the end of a span. -/
def setDeadline (h : Handle σ) (span : Nat) : Attempt σ Failure Unit := do
  let now ← Attempt.lift (Call.read h.clock)
  Attempt.give (Deadline.set now span)

/-- Ask the hypervisor on behalf of an operation. -/
def ask (h : Handle σ) (operation : String) (c : Attempt σ HypervisorError α) :
    Attempt σ Failure α :=
  c.mapError fun e => .ofNode h.id operation (.hypervisor e)

/-! ### Power -/

/-- Try to log in from the time `now` on, at most `left` times more. -/
def awaitShell (h : Handle σ) (operation : String) (now : Nat) : Nat → Attempt σ Failure Unit
  | 0 => Attempt.give (.error (.ofNode h.id operation (.noShell h.bootTimeout)))
  | left + 1 => do
    let (reachable, took) ← Attempt.lift (Call.timed (h.shell.isReachable h.host))
    if reachable then return ()
    else if h.bootTimeout ≤ now + took then
      Attempt.give (.error (.ofNode h.id operation (.noShell h.bootTimeout)))
    else
      Attempt.lift (Call.sleep bootPeriod)
      awaitShell h operation (now + took + bootPeriod) left

/-- Give power where there is none, and wait until one can log in. -/
def ensurePower (h : Handle σ) (operation : String) : Attempt σ Failure Unit := do
  if (← h.ask operation (h.hypervisor.powerState h.vm)) ≠ .on then
    h.ask operation (h.hypervisor.powerOn h.vm)
    h.record Commanded.clearPeers
  h.setDeadline h.bootTimeout
  h.awaitShell operation 0 (h.bootTimeout / bootPeriod + 2)

/-- Take the power away. -/
def powerOff (h : Handle σ) : Attempt σ Failure Unit := do
  h.ask "power_off" (h.hypervisor.powerOff h.vm)
  h.record Commanded.clearPeers
  h.record (Commanded.setStatus .poweredOff)
  h.report "powered off" [h.vmField]

/-- Give power. -/
def powerOn (h : Handle σ) : Attempt σ Failure Unit := do
  h.ensurePower "power_on"
  if (← h.present).status = .poweredOff then h.record (Commanded.setStatus .stopped)
  h.report "powered on" [h.vmField]

/-- Have the system start anew; where it does not listen, reset the machine. -/
def reboot (h : Handle σ) : Attempt σ Failure Unit := do
  match ← Attempt.lift (h.hypervisor.guestReboot h.vm).toCall with
  | .ok () => pure ()
  | .error e =>
    Attempt.log (.warn "guest reboot failed, resetting"
      [("node", .fixed h.id.text), ("error", .unless e.varies e.message)])
    h.ask "reboot" (h.hypervisor.reset h.vm)
  h.record Commanded.clearPeers
  h.record (Commanded.setStatus .stopped)
  h.report "rebooted" [h.vmField]

/-! ### The process -/

/-- Have the member run. -/
def start (h : Handle σ) : Attempt σ Failure Unit := do
  if (← h.present).status = .poweredOff then h.ensurePower "start"
  if (← h.present).status = .paused then h.run "start" (h.signal .cont)
  if !(← h.isRunning "start") then h.run "start" (.start h.process.start)
  h.record (Commanded.setStatus .running)
  h.report "started" []

/-- Wait from the time `now` on until the process has ended, and end it by force when the grace is
over; looks at most `left` times more. -/
def awaitEnd (h : Handle σ) (grace now : Nat) : Nat → Attempt σ Failure Unit
  | 0 => return ()
  | left + 1 => do
    let (running, took) ← Attempt.lift (Call.timed (h.isRunning "stop").toCall)
    if ← Attempt.give running then
      if grace ≤ now + took then
        Attempt.log (.warn "graceful stop timed out, killing"
          [("node", .fixed h.id.text), ("grace", .fixed (Span.display grace))])
        h.run "stop" (.kill h.process.kill)
      else
        Attempt.lift (Call.sleep stopPeriod)
        awaitEnd h grace (now + took + stopPeriod) left

/-- Have the member end. -/
def stop (h : Handle σ) (grace : Nat) : Attempt σ Failure Unit := do
  if ← h.isRunning "stop" then
    h.run "stop" (h.signal .cont)
    h.run "stop" (.stop h.process.stop)
    h.setDeadline grace
    h.awaitEnd grace 0 (grace / stopPeriod + 2)
    h.record (Commanded.setStatus .stopped)
    h.report "stopped" [("grace", .fixed (Span.display grace))]
  else if (← h.present).status ≠ .killed then h.record (Commanded.setStatus .stopped)

/-- End the member at once. -/
def kill (h : Handle σ) : Attempt σ Failure Unit := do
  if ← h.isRunning "kill" then
    h.run "kill" (h.signal .cont)
    h.run "kill" (.kill h.process.kill)
  h.record (Commanded.setStatus .killed)
  h.report "killed" []

/-- Freeze the member. -/
def pause (h : Handle σ) : Attempt σ Failure Unit := do
  let c ← h.present
  if c.status = .paused then return ()
  else if ← h.isRunning "pause" then
    h.run "pause" (h.signal .stop)
    h.record (Commanded.setStatus .paused)
    h.report "paused" []
  else Attempt.give (.error (.invalidState "running member process" c.status.display))

/-- Unfreeze the member. -/
def resume (h : Handle σ) : Attempt σ Failure Unit := do
  h.run "resume" (h.signal .cont)
  if (← h.present).status = .paused then
    h.record (Commanded.setStatus .running)
    h.report "resumed" []

/-! ### Peers -/

/-- Block a peer. -/
def block (h : Handle σ) (peer : Endpoint) : Attempt σ Failure Unit := do
  h.run "disconnect" (.firewall ⟨.block, peer.host, h.elevated⟩)
  h.report "blocked peer" [("peer", .fixed peer.text)]
  h.record (Commanded.addPeer peer)

/-- Let a peer through. -/
def unblock (h : Handle σ) (peer : Endpoint) : Attempt σ Failure Unit := do
  h.run "reconnect" (.firewall ⟨.unblock, peer.host, h.elevated⟩)
  h.report "unblocked peer" [("peer", .fixed peer.text)]
  h.record (Commanded.removePeer peer)

/-- Block those of some peers that are not blocked; nobody blocks itself. -/
def disconnect (h : Handle σ) (peers : List Endpoint) : Attempt σ Failure Unit := do
  let c ← h.present
  ((c.notBlocked peers).filter fun e => e ≠ h.id).forM h.block

/-- Let those of some peers through that are blocked. -/
def reconnect (h : Handle σ) (peers : List Endpoint) : Attempt σ Failure Unit := do
  let c ← h.present
  (peers.filter c.peers.contains).forM h.unblock

/-- Leave the machine as it was found: no blocks, and no process.  One without power has neither. -/
def destroy (h : Handle σ) : Attempt σ Failure Unit := do
  let c ← h.present
  if c.status = .poweredOff then return ()
  else
    h.reconnect c.peers.toList
    h.stop defaultGrace
    h.report "released vm node" [h.vmField]

/-- The power control of a handle. -/
def power (h : Handle σ) : Power σ where
  off := h.powerOff
  on := h.powerOn
  reboot := h.reboot
  state := h.ask "power_state" (h.hypervisor.powerState h.vm)

/-- The handle as a member of a cluster. -/
def node (h : Handle σ) : Node σ where
  id := h.id
  kind := .machine
  commanded := h.commanded.get
  start := h.start
  stop := h.stop
  kill := h.kill
  pause := h.pause
  resume := h.resume
  disconnect := h.disconnect
  reconnect := h.reconnect
  restart := do
    h.stop defaultGrace
    h.start
  destroy := h.destroy
  power := some h.power

end Handle

end FaultLab.Machine
