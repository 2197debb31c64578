import FaultLab.Call
import FaultLab.Firewall.Script
import FaultLab.Outcome

/-! # Commands on a remote host

A `Host` is reached through the `ssh` program, which has to log in without asking anyone.  `run`
tells apart a program that cannot be started, a host that cannot be reached, for which `ssh` has an
exit code of its own, and a command that was carried out with whatever exit code. -/

namespace FaultLab.Machine

/-- A host, and how to log in there. -/
structure Host where
  address : String
  user : String
  port : UInt16
  /-- How long to wait for a connection. -/
  patience : Nat
deriving DecidableEq

/-- A signal for the member's process. -/
inductive Signal where
  | stop
  | cont
deriving DecidableEq

/-- The name of a signal. -/
def Signal.name : Signal → String
  | stop => "STOP"
  | cont => "CONT"

/-- A command for a host. -/
inductive Command where
  /-- Do nothing, successfully. -/
  | probe
  /-- Succeed exactly while the member's process runs. -/
  | status (text : String)
  /-- Start the member's process. -/
  | start (text : String)
  /-- Ask the member's process to end. -/
  | stop (text : String)
  /-- End the member's process at once. -/
  | kill (text : String)
  /-- Send a signal to the processes that match a pattern, if there are any. -/
  | signal (elevated : Bool) (signal : Signal) (pattern : String)
  /-- Block or unblock a peer. -/
  | firewall (task : Firewall.Task)
  /-- Anything else. -/
  | other (text : String)

/-- The text of a command.  Finding no process to signal is no failure. -/
def Command.text : Command → String
  | probe => "true"
  | status t => t
  | start t => t
  | stop t => t
  | kill t => t
  | signal elevated s pattern =>
    (if elevated then "sudo " else "") ++ s!"pkill -{s.name} -f '{pattern}'; test $? -le 1"
  | firewall task => task.script.text
  | other t => t

/-- The arguments of `ssh` for a command; it waits for at least a second. -/
def Host.arguments (h : Host) (text : String) : List String :=
  ["-o", "StrictHostKeyChecking=no", "-o", s!"ConnectTimeout={max 1 (Span.seconds h.patience)}",
    "-o", "BatchMode=yes", "-p", toString h.port.toNat, s!"{h.user}@{h.address}", text]

/-- What becomes of a use of the `ssh` program. -/
inductive Launch where
  /-- The program cannot be started. -/
  | failed (reason : String)
  /-- The program ended, by itself with an exit code or by a signal without one. -/
  | ended (exit : Option Int) (stdout stderr : String)

/-- Uses the `ssh` program. -/
abbrev Shell (σ : Type) := Host → Command → Call σ Launch

/-- Why a command was not carried out, or not well. -/
inductive ShellError where
  | spawn (reason : String)
  | unreachable (host stderr : String)
  | failed (host : String) (exit : Int) (stderr : String)
deriving DecidableEq

namespace ShellError

/-- The words for a failed command. -/
def message : ShellError → String
  | spawn reason => "ssh spawn error: " ++ reason
  | unreachable host stderr => s!"ssh to {host} failed: {stderr}"
  | failed host exit stderr => s!"ssh command failed on {host}: exit={exit}, stderr={stderr}"

end ShellError

/-- The exit code of `ssh` where it cannot reach the host. -/
def connectionFailure : Int := 255

namespace Shell

variable {σ : Type}

/-- What a use of `ssh` says about the command. -/
def judge (h : Host) : Launch → Except ShellError Outcome
  | .failed reason => .error (.spawn reason)
  | .ended exit stdout stderr =>
    let code := exit.getD (-1)
    if code = connectionFailure then .error (.unreachable h.address stderr)
    else .ok ⟨stdout, stderr, code⟩

/-- Run a command, with whatever exit code. -/
def run (shell : Shell σ) (h : Host) (c : Command) : Attempt σ ShellError Outcome := do
  Attempt.log (.debug "ssh exec" [("host", .fixed h.address), ("cmd", .fixed c.text)])
  let launch ← Attempt.lift (shell h c)
  Attempt.give (judge h launch)

/-- Run a command that has to succeed. -/
def runWell (shell : Shell σ) (h : Host) (c : Command) : Attempt σ ShellError Outcome := do
  let o ← run shell h c
  if o.success then return o
  else Attempt.give (.error (.failed h.address o.exit o.stderr))

/-- Whether the host can be logged in to right now. -/
def isReachable (shell : Shell σ) (h : Host) : Call σ Bool := do
  let r ← (run shell h .probe).toCall
  return match r with
    | .ok o => o.success
    | .error _ => false

end Shell

end FaultLab.Machine
