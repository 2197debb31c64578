import FaultLab.Call
import FaultLab.Firewall.Script
import FaultLab.Outcome

/-! # The daemon that runs containers

A `Daemon σ` carries out calls about networks and containers.  A command in a container takes three
of them: it is set up, then started, which gives its output, and then asked for its exit code. -/

namespace FaultLab.Container

/-- Why the daemon did not do as told: a status and a reason. -/
structure DaemonError where
  status : Nat
  reason : String
deriving DecidableEq

/-- The state of a container as the daemon reports it. -/
inductive RunState where
  | blank
  | created
  | running
  | paused
  | restarting
  | removing
  | exited
  | dead
deriving DecidableEq

namespace RunState

/-- The names of the states. -/
def names : List (String × RunState) :=
  [("", blank), ("created", created), ("running", running), ("paused", paused),
    ("restarting", restarting), ("removing", removing), ("exited", exited), ("dead", dead)]

/-- The name of a state. -/
def name : RunState → String
  | blank => ""
  | created => "created"
  | running => "running"
  | paused => "paused"
  | restarting => "restarting"
  | removing => "removing"
  | exited => "exited"
  | dead => "dead"

/-- The state with a name. -/
def ofName? (text : String) : Option RunState :=
  (names.find? fun (n, _) => n = text).map Prod.snd

end RunState

/-- A network to be made. -/
structure NetworkPlan where
  name : String
  driver : String
  /-- Whether a second network of the same name is refused. -/
  checkDuplicate : Bool
  subnet : String
  gateway : Option String
  labels : List (String × String)

/-- A container to be made. -/
structure ContainerPlan where
  image : String
  hostname : String
  /-- The command to run instead of the image's own. -/
  command : Option (List String)
  environment : List String
  labels : List (String × String)
  capabilities : List String
  memory : Option Nat
  nanoCpus : Option Nat
  network : String
  address : String

/-- A command to be run in a container. -/
inductive Command where
  /-- Block or unblock a peer. -/
  | firewall (task : Firewall.Task)
  /-- Anything else. -/
  | words (words : List String)

/-- The words of a command. -/
def Command.toWords : Command → List String
  | firewall task => ["sh", "-c", task.script.text]
  | words ws => ws

/-- Runs containers. -/
structure Daemon (σ : Type) where
  makeNetwork : NetworkPlan → Attempt σ DaemonError Unit
  removeNetwork : String → Attempt σ DaemonError Unit
  make : String → ContainerPlan → Attempt σ DaemonError Unit
  /-- The state of a container, if it has any. -/
  inspect : String → Attempt σ DaemonError (Option RunState)
  start : String → Attempt σ DaemonError Unit
  /-- Stop a container, by force after some seconds. -/
  stop : String → Int → Attempt σ DaemonError Unit
  kill : String → Attempt σ DaemonError Unit
  pause : String → Attempt σ DaemonError Unit
  unpause : String → Attempt σ DaemonError Unit
  /-- Stop a container, by force after some seconds, and start it. -/
  restart : String → Int → Attempt σ DaemonError Unit
  /-- Remove a container, be it running or not, with its volumes. -/
  remove : String → Attempt σ DaemonError Unit
  /-- Set a command up; gives the number by which the daemon knows it. -/
  prepareCommand : String → Command → Attempt σ DaemonError Nat
  /-- Run a command; gives what it wrote to its output and for errors. -/
  runCommand : Nat → Attempt σ DaemonError (String × String)
  /-- The exit code of a command, if it has any. -/
  inspectCommand : Nat → Attempt σ DaemonError (Option Int)

/-- Run a command in a container; one without an exit code counts as `-1`. -/
def Daemon.execute {σ : Type} (d : Daemon σ) (container : String) (c : Command) :
    Attempt σ DaemonError Outcome := do
  let number ← d.prepareCommand container c
  let (stdout, stderr) ← d.runCommand number
  let exit ← d.inspectCommand number
  return ⟨stdout, stderr, exit.getD (-1)⟩

end FaultLab.Container
