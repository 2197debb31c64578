import FaultLab.Document.Fields
import FaultLab.Rehearsal.Bench
import FaultLab.Rehearsal.Containers
import FaultLab.Rehearsal.Gateways
import FaultLab.Rehearsal.Site

/-! # Scripts as documents

The steps of a script are tables with the name of what to do under `do`.  Fields are read leniently,
as `Document.Fields` says. -/

namespace FaultLab.Rehearsal

/-- What a step does. -/
def verb (s : Document) : String := s.textAt "do"

/-- A field with an endpoint. -/
def endpointAt (s : Document) (name : String) : Endpoint := ⟨s.textAt name⟩

/-- A field with some endpoints. -/
def endpointsAt (s : Document) (name : String) : List Endpoint := (s.textsAt name).map Endpoint.mk

/-- A field with a number of milliseconds. -/
def millisAt (s : Document) (name : String) : Nat := Span.ofMillis (s.natAt name)

/-- A field with a number of milliseconds, if it is there. -/
def millisAt? (s : Document) (name : String) : Option Nat := (s.natAt? name).map Span.ofMillis

/-- A field with the name of a status. -/
def statusAt (s : Document) (name : String) (default : NodeStatus) : NodeStatus :=
  match NodeStatus.decode (s.entry name) with
  | .ok status => status
  | .error _ => default

/-! ### The simulation -/

/-- The deed of a step, if it is one. -/
def Deed.read? (s : Document) : Option Deed :=
  let index := s.natAt "node"
  let symmetry : Symmetry := if s.boolAt "symmetric" then .symmetric else .oneWay
  match verb s with
  | "set_lag" => some (.setLag (s.natAt "reads"))
  | "fail_bootstraps" => some (.failBootstraps (s.natAt "count"))
  | "management_down" => some (.managementDown (s.boolAt "value"))
  | "fail_provision" => some (.failProvision (s.natAt "index"))
  | "fail_next" => some (.failNext (endpointAt s "node") (Operation.ofName? (s.textAt "op")))
  | "latency" => some (.latency (endpointAt s "node") (millisAt s "ms"))
  | "partition" => some (.partition index)
  | "heal" => some (.heal index)
  | "disconnect" => some (.disconnect index (s.natsAt "peers") symmetry)
  | "reconnect" => some (.reconnect index (s.natsAt "peers") symmetry)
  | "link_failure" => some (.linkFailure (s.natAt "a") (s.natAt "b"))
  | "heal_link" => some (.healLink (s.natAt "a") (s.natAt "b"))
  | name => (Fault.ofName? name).map fun f => .fault f index

/-- What a step waits for. -/
def Goal.read (s : Document) : Goal :=
  let target := endpointAt s "target"
  let n := s.natAt "n"
  match s.textAt "for" with
  | "stable" => .condition .stable
  | "degraded" => .condition .degraded
  | "unavailable" => .condition .unavailable
  | "count" => .condition (.unresponsiveCount n)
  | "unresponsive" => .condition (.unresponsive target)
  | "responsive" => .condition (.responsive target)
  | "layout_change" => .condition (.layoutChange (UInt64.ofNat n))
  | "epoch_at_least" => .condition (.epochAtLeast (UInt64.ofNat n))
  | "has_server" => .condition ⟨"has server", Snapshot.hasServer target⟩
  | "layout" => .condition (.ofLayout (s.textAt "description")
      fun l => l.unresponsiveExactly (endpointsAt s "targets"))
  | _ => .nextEpoch

/-- What is to happen while a script waits. -/
structure Meanwhile where
  /-- When the wait is called off, if it is. -/
  signal : Option Nat
  /-- What is done, each at its time. -/
  deeds : List (Nat × Deed)

/-- What a step has happen while it waits; the first signal counts. -/
def Meanwhile.read (s : Document) : Meanwhile :=
  let during := s.itemsAt "during"
  let signals := (during.filter fun a => verb a = "cancel").map fun a => millisAt a "at_ms"
  { signal := if s.boolAt "cancelled" then some 0 else signals.min?
    deeds := during.filterMap fun a => (Deed.read? a).map fun d => (millisAt a "at_ms", d) }

/-- The kind of trouble with a name; the management rejects where there is no such kind. -/
def troubleOf (name : String) : ManagementTrouble :=
  match [ManagementTrouble.unreachable, .http, .decode].find? fun k => k.name = name with
  | some kind => kind
  | none => .rejected

/-- Take the cues of a step. -/
def Stage.script (s : Document) (stage : Stage) : Stage :=
  match CuedCall.ofName? (s.textAt "call") with
  | some call =>
    let effect := Effect.ofName (troubleOf (s.textAt "kind")) (s.textAt "text") (millisAt s "ms")
      (s.textAt "effect")
    stage.cue call effect ((s.natAt? "count").getD 1)
  | none => stage

/-- Wait as a step says. -/
def Bench.await (b : Bench) (s : Document) : Scene (Except Failure PollSuccess) :=
  let p := b.poller (s.natAt? "client")
  let policy : PollPolicy := ⟨(millisAt? s "interval_ms").getD p.policy.interval,
    (millisAt? s "timeout_ms").getD p.policy.timeout⟩
  let meanwhile := Meanwhile.read s
  b.wait { p with policy := policy } (Goal.read s) meanwhile.signal meanwhile.deeds

/-- The links of a rotation. -/
def linksAt (s : Document) (name : String) : List (Nat × Nat) :=
  (s.itemsAt name).map fun p => match p.items with
    | [a, b] => (a.asNat?.getD 0, b.asNat?.getD 0)
    | _ => (0, 0)

/-! ### Services -/

/-- A scripted answer. -/
def ScriptedReply.read (s : Document) : ScriptedReply :=
  if s.boolAt "hangup" then .hangUp else .answer ((s.natAt? "status").getD 200) (s.textAt "body")

/-- A gateway with its script. -/
def GatewayScript.read (s : Document) : GatewayScript :=
  if s.boolAt "down" then .down else .up ((s.itemsAt "responses").map ScriptedReply.read)

/-- A scripted outcome of the `ssh` program. -/
def launchOf (s : Document) : Machine.Launch :=
  .ended (if s.boolAt "signal" then none else some (Site.reportedExit (s.integerAt "code")))
    (s.textAt "stdout") (s.textAt "stderr")

/-- The power of some machines. -/
def powerOf (s : Document) : List (String × String) :=
  s.entries.map fun (vm, state) => (vm, state.asText?.getD "")

/-- The site after a step that only writes its script. -/
def Site.script? (s : Document) (site : Site) : Option Site :=
  match verb s with
  | "respond" =>
    some (match PowerCall.ofName? (s.textAt "for") with
      | some call => site.respond call (.read s)
      | none => site)
  | "expire" => some site.expire
  | "set_power" => some (site.setPower (s.textAt "vm") (s.textAt "state"))
  | "ssh" =>
    some { site with launches := site.launches ++ (s.itemsAt "responses").map launchOf }
  | "ssh_missing" => some { site with sshMissing := s.boolAt "value" }
  | "status_code" => some { site with statusCode := s.integerAt "code" }
  | _ => none

/-- The exit code of a scripted command: none if it is `null`, and zero where nothing is said. -/
def exitOf (s : Document) : Option Int :=
  if s.has "code" then
    match s.entry "code" with
    | .integer n => some n
    | _ => none
  else some 0

/-- The daemon after a step that only writes its script. -/
def DaemonStage.script? (s : Document) (stage : DaemonStage) : Option DaemonStage :=
  match verb s with
  | "set_state" => some (stage.setState (s.textAt "container") (s.textAt "state"))
  | "fail" =>
    some (match DaemonVerb.ofName? (s.textAt "call") with
      | some verb => stage.failNext verb ⟨s.natAt "status", s.textAt "message"⟩
      | none => stage)
  | "exec_result" => some (stage.script ⟨exitOf s, s.textAt "stdout", s.textAt "stderr"⟩)
  | _ => none

/-! ### Handles -/

variable {σ : Type}

/-- Do to a member what a step says; gives the state of its power where the step asks for it. -/
def handle (n : Node σ) (s : Document) : Attempt σ Failure (Option PowerState) :=
  let quiet (c : Attempt σ Failure Unit) : Attempt σ Failure (Option PowerState) :=
    (fun _ => none) <$> c
  match verb s with
  | "start" => quiet n.start
  | "stop" => quiet (n.stop (millisAt s "grace_ms"))
  | "kill" => quiet n.kill
  | "pause" => quiet n.pause
  | "resume" => quiet n.resume
  | "restart" => quiet n.restart
  | "destroy" => quiet n.destroy
  | "disconnect" => quiet (n.disconnect (endpointsAt s "peers"))
  | "reconnect" => quiet (n.reconnect (endpointsAt s "peers"))
  | "power_off" => do quiet (← Attempt.give n.requirePower).off
  | "power_on" => do quiet (← Attempt.give n.requirePower).on
  | "reboot" => do quiet (← Attempt.give n.requirePower).reboot
  | _ => do some <$> (← Attempt.give n.requirePower).state

end FaultLab.Rehearsal
