import FaultLab.Container.Backend
import FaultLab.Rehearsal.Queue

/-! # A rehearsed daemon

The daemon knows containers by name with the name of their state.  It carries out every call at
once, unless the script has the next call of that kind fail, and it keeps a journal of the calls.
Commands in containers get the scripted outcomes, and succeed when there are none left. -/

namespace FaultLab.Rehearsal

open Container (DaemonError RunState NetworkPlan ContainerPlan Command Daemon Project)

/-- The kinds of calls to a daemon. -/
inductive DaemonVerb where
  | inspect
  | create
  | start
  | stop
  | kill
  | pause
  | unpause
  | restart
  | remove
  | exec
  | execStart
  | execInspect
  | networkCreate
  | networkRemove
deriving DecidableEq

namespace DaemonVerb

/-- The names of the kinds. -/
def names : List (String × DaemonVerb) :=
  [("inspect", inspect), ("create", create), ("start", start), ("stop", stop), ("kill", kill),
    ("pause", pause), ("unpause", unpause), ("restart", restart), ("remove", remove),
    ("exec", exec), ("exec_start", execStart), ("exec_inspect", execInspect),
    ("network_create", networkCreate), ("network_remove", networkRemove)]

/-- The kind with a name. -/
def ofName? (text : String) : Option DaemonVerb :=
  (names.find? fun (n, _) => n = text).map Prod.snd

end DaemonVerb

/-- A call in the journal of a daemon. -/
inductive DaemonCall where
  | inspect (container : String)
  | create (container : String) (plan : ContainerPlan)
  | start (container : String)
  | stop (container : String) (seconds : Int)
  | kill (container : String)
  | pause (container : String)
  | unpause (container : String)
  | restart (container : String) (seconds : Int)
  | remove (container : String)
  | exec (container : String) (words : List String)
  | networkCreate (plan : NetworkPlan)
  | networkRemove (name : String)

/-- A scripted outcome of a command. -/
structure ScriptedCommand where
  exit : Option Int
  stdout : String
  stderr : String

/-- A command without a script succeeds without a word. -/
def ScriptedCommand.quiet : ScriptedCommand := ⟨some 0, "", ""⟩

/-- A daemon with its containers, its script and its journal. -/
structure DaemonStage where
  /-- Containers and the names of their states. -/
  containers : List (String × String)
  failures : List (DaemonVerb × DaemonError)
  scripted : List ScriptedCommand
  /-- The commands that were set up, by their number. -/
  commands : List ScriptedCommand
  journal : List DaemonCall
  /-- What each handle has commanded. -/
  handles : List Commanded
  networkMade : Bool

namespace DaemonStage

/-- A daemon without containers. -/
def empty : DaemonStage := ⟨[], [], [], [], [], [], false⟩

/-- The name of the state of a container. -/
def stateOf? (s : DaemonStage) (container : String) : Option String :=
  (s.containers.find? fun (n, _) => n = container).map Prod.snd

/-- Put a container into a state. -/
def setState (container state : String) (s : DaemonStage) : DaemonStage :=
  { s with containers := s.containers.filter (fun (n, _) => n ≠ container) ++ [(container, state)] }

/-- Remove a container. -/
def drop (container : String) (s : DaemonStage) : DaemonStage :=
  { s with containers := s.containers.filter fun (n, _) => n ≠ container }

/-- Have the next call of a kind fail. -/
def failNext (verb : DaemonVerb) (e : DaemonError) (s : DaemonStage) : DaemonStage :=
  { s with failures := s.failures ++ [(verb, e)] }

/-- Script the outcome of a command. -/
def script (c : ScriptedCommand) (s : DaemonStage) : DaemonStage :=
  { s with scripted := s.scripted ++ [c] }

/-- Write a call into the journal. -/
def record (call : DaemonCall) (s : DaemonStage) : DaemonStage :=
  { s with journal := s.journal ++ [call] }

/-- The status of a daemon that has nothing to do. -/
def notModified : Nat := 304

/-- Whether a client takes a status for success. -/
def isBenign (status : Nat) : Bool := Http.isSuccess status || status = notModified

/-- Carry a call out unless it is scripted to fail; `quiet` is what a client makes of a scripted
status that says success, if it can make anything of it. -/
def unlessFailing {α : Type} (verb : DaemonVerb) (quiet : Option α)
    (act : DaemonStage → Except DaemonError α × DaemonStage) (s : DaemonStage) :
    Except DaemonError α × DaemonStage :=
  match takeFirst? (fun (v, _) => v = verb) s.failures with
  | some ((_, e), left) =>
    let s := { s with failures := left }
    match quiet with
    | some a => (if isBenign e.status then .ok a else .error e, s)
    | none => (.error e, s)
  | none => act s

/-- The daemon does not know a container. -/
def noContainer : DaemonError := ⟨Http.notFound, "No such container"⟩

/-- Do something with a container that has to be there. -/
def withContainer {α : Type} (container : String)
    (act : String → DaemonStage → α × DaemonStage) (s : DaemonStage) :
    Except DaemonError α × DaemonStage :=
  match s.stateOf? container with
  | some state => ((.ok (act state s).1), (act state s).2)
  | none => (.error noContainer, s)

/-- Carry a call out on the stage. -/
def perform {α : Type} (verb : DaemonVerb) (call : Option DaemonCall) (quiet : Option α)
    (act : DaemonStage → Except DaemonError α × DaemonStage) : Attempt DaemonStage DaemonError α :=
  Attempt.ofCall (Call.atomically fun s =>
    unlessFailing verb quiet act (match call with | some c => s.record c | none => s))

/-- Carry a call out whose answer says nothing. -/
def command (verb : DaemonVerb) (call : DaemonCall)
    (act : DaemonStage → Except DaemonError Unit × DaemonStage) :
    Attempt DaemonStage DaemonError Unit :=
  perform verb (some call) (some ()) act

/-- A call that puts a container into a state. -/
def moves (verb : DaemonVerb) (call : DaemonCall) (container state : String) :
    Attempt DaemonStage DaemonError Unit :=
  command verb call (withContainer container fun _ s => ((), s.setState container state))

/-- Set a command up: it takes the next scripted outcome. -/
def setUp (s : DaemonStage) : Nat × DaemonStage :=
  let (next, left) := pop .quiet s.scripted
  (s.commands.length, { s with scripted := left, commands := s.commands ++ [next] })

/-- The scripted command with a number. -/
def commandAt (s : DaemonStage) (number : Nat) : ScriptedCommand :=
  s.commands[number]?.getD .quiet

/-- The daemon on its stage. -/
def daemon : Daemon DaemonStage where
  makeNetwork plan := perform .networkCreate (some (.networkCreate plan)) none fun s => (.ok (), s)
  removeNetwork name := command .networkRemove (.networkRemove name) fun s => (.ok (), s)
  make name plan := perform .create (some (.create name plan)) none fun s =>
    (.ok (), s.setState name RunState.created.name)
  inspect name := perform .inspect (some (.inspect name)) none
    (withContainer name fun state s => (RunState.ofName? state, s))
  start name := moves .start (.start name) name RunState.running.name
  stop name seconds := moves .stop (.stop name seconds) name RunState.exited.name
  kill name := moves .kill (.kill name) name RunState.exited.name
  pause name := moves .pause (.pause name) name RunState.paused.name
  unpause name := moves .unpause (.unpause name) name RunState.running.name
  restart name seconds := moves .restart (.restart name seconds) name RunState.running.name
  remove name := command .remove (.remove name)
    (withContainer name fun _ s => ((), s.drop name))
  prepareCommand name c := perform .exec (some (.exec name c.toWords)) none
    (withContainer name fun _ s => s.setUp)
  runCommand number := perform .execStart none none fun s =>
    (.ok ((s.commandAt number).stdout, (s.commandAt number).stderr), s)
  inspectCommand number := perform .execInspect none none fun s =>
    (.ok (s.commandAt number).exit, s)

/-- What the handle with a number has commanded. -/
def commandedBy (number : Nat) : Part DaemonStage Commanded where
  get s := s.handles[number]?.getD (.ofStatus .stopped)
  set c s := { s with handles := s.handles.set number c }

/-- Make room for a handle. -/
def room (c : Commanded) : Call DaemonStage (Part DaemonStage Commanded) :=
  Call.atomically fun s => (commandedBy s.handles.length, { s with handles := s.handles ++ [c] })

/-- A project on the daemon. -/
def project (name : String) : Project DaemonStage where
  name := name
  daemon := daemon
  networkMade := ⟨networkMade, fun made s => { s with networkMade := made }⟩
  room := room

end DaemonStage

end FaultLab.Rehearsal
