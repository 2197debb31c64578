import FaultLab.Http.Url
import FaultLab.Json.Writer
import FaultLab.Machine.Backend
import FaultLab.Rehearsal.Queue

/-! # A rehearsed machine site

A `Site` has a hypervisor that holds the power of some machines and an `ssh` program; both answer
from scripts, and one journal has what reached them, in order.

The hypervisor gives out tokens of which only the latest is valid.  A scripted answer comes before
anything else and changes nothing; then the token has to be valid and the machine known.  The `ssh`
program gives the scripted outcomes, and when there are none left the site's exit code to the
command that asks for the member's status, and success to all others. -/

namespace FaultLab.Rehearsal

open Machine (Hypervisor Host Shell Launch)

/-- What a request wants from the hypervisor. -/
inductive PowerCall where
  | session
  | state
  | start
  | stop
  | reset
  | reboot
deriving DecidableEq

namespace PowerCall

/-- The names of the calls. -/
def names : List (String × PowerCall) :=
  [("session", session), ("state", state), ("start", start), ("stop", stop), ("reset", reset),
    ("reboot", reboot)]

/-- The call with a name. -/
def ofName? (text : String) : Option PowerCall :=
  (names.find? fun (n, _) => n = text).map Prod.snd

end PowerCall

/-- Something that reached a service of the site. -/
inductive PendingRequest where
  | http (method : Http.Method) (target : String) (credential : Option String)
  | ssh (arguments : List String)

/-- A site with its machines, its scripts and its journal. -/
structure Site where
  /-- The service that the hypervisor answers for. -/
  service : String
  hypervisorDown : Bool
  /-- Machines and the names of their power states. -/
  power : List (String × String)
  /-- Tokens given out so far. -/
  tokens : Nat
  valid : Option String
  scripted : List (PowerCall × ScriptedReply)
  sshMissing : Bool
  launches : List Launch
  /-- The command that asks for the member's status. -/
  statusCommand : Option String
  statusCode : Int
  journal : List PendingRequest
  /-- The token that the client holds. -/
  session : Option String
  /-- What each handle has commanded. -/
  handles : List Commanded

namespace Site

/-- A site without machines. -/
def empty : Site where
  service := "host"
  hypervisorDown := false
  power := []
  tokens := 0
  valid := none
  scripted := []
  sshMissing := false
  launches := []
  statusCommand := none
  statusCode := 0
  journal := []
  session := none
  handles := []

/-- The address of the hypervisor. -/
def baseUrl (s : Site) : String := "http://" ++ s.service

/-- Give a machine a power state. -/
def setPower (vm state : String) (s : Site) : Site :=
  { s with power := s.power.filter (fun (n, _) => n ≠ vm) ++ [(vm, state)] }

/-- Script the answer to a call. -/
def respond (call : PowerCall) (r : ScriptedReply) (s : Site) : Site :=
  { s with scripted := s.scripted ++ [(call, r)] }

/-- Have no token be valid. -/
def expire (s : Site) : Site := { s with valid := none }

/-! ### The hypervisor -/

/-- The part of a target before its query. -/
def pathOf (target : String) : List Char := target.toList.takeWhile fun c => c ≠ '?'

/-- The text after the first occurrence of another in it. -/
def after? (mark : List Char) : List Char → Option (List Char)
  | [] => if mark.isEmpty then some [] else none
  | c :: cs =>
    if mark.isPrefixOf (c :: cs) then some ((c :: cs).drop mark.length) else after? mark cs

/-- The machine that a target is about. -/
def machineOf? (target : String) : Option String :=
  (after? "/api/vcenter/vm/".toList (pathOf target)).map fun r =>
    String.ofList (r.takeWhile fun c => c ≠ '/')

/-- The call that a request makes. -/
def callOf? (method : Http.Method) (target : String) : Option PowerCall :=
  if method = .get then some .state
  else if "/api/session".toList.isSuffixOf (pathOf target) then some .session
  else (after? "?action=".toList target.toList).bind fun r => PowerCall.ofName? (String.ofList r)

/-- An answer without a body. -/
def bare (status : Nat) : Http.Reply := .answered ⟨status, ""⟩

/-- Log a client in. -/
def login (s : Site) : Http.Reply × Site :=
  let token := s!"tok-{s.tokens + 1}"
  (.answered ⟨201, Json.write (.text token)⟩,
    { s with tokens := s.tokens + 1, valid := some token })

/-- Answer a request about a machine that is known. -/
def serve (call : PowerCall) (vm state : String) (s : Site) : Http.Reply × Site :=
  match call with
  | .state =>
    (.answered ⟨200, Json.write (.ofEntries [("state", .text state)])⟩, s)
  | .start => (bare 204, s.setPower vm "POWERED_ON")
  | .stop => (bare 204, s.setPower vm "POWERED_OFF")
  | _ => (bare 204, s)

/-- Answer a request without a script. -/
def answerPlainly (call : PowerCall) (target : String) (credential : Option String) (s : Site) :
    Http.Reply × Site :=
  if call = .session then s.login
  else if s.valid.isNone ∨ credential ≠ s.valid then (bare Http.unauthorized, s)
  else
    match (machineOf? target).bind fun vm => s.power.find? fun (n, _) => n = vm with
    | some (vm, state) => s.serve call vm state
    | none => (bare Http.notFound, s)

/-- Answer a request that has reached the hypervisor. -/
def answer (method : Http.Method) (target : String) (credential : Option String) (s : Site) :
    Http.Reply × Site :=
  let s := { s with journal := s.journal ++ [PendingRequest.http method target credential] }
  match callOf? method target with
  | none => (bare Http.notFound, s)
  | some call =>
    match takeFirst? (fun (c, _) => c = call) s.scripted with
    | some ((_, r), left) => (r.reply, { s with scripted := left })
    | none => s.answerPlainly call target credential

/-- Whether a credential can be sent: it is on one line. -/
def sendable (credential : Option String) : Bool :=
  (credential.getD "").toList.all fun c => 0x20 ≤ c.toNat && c.toNat ≠ 0x7f || c = '\t'

/-- Carries requests to the hypervisor. -/
def carrier : Http.Carrier Site := fun request =>
  Call.atomically fun s =>
    match Http.Url.parse? request.url with
    | some url =>
      if url.service ≠ s.service ∨ !sendable request.credential then (.unusable, s)
      else if s.hypervisorDown then (.refused, s)
      else s.answer request.method url.target request.credential
    | none => (.unusable, s)

/-! ### The remote shell -/

/-- The exit code of a process as it is reported: eight bits. -/
def reportedExit (code : Int) : Int := code % 256

/-- What becomes of a command without a script. -/
def launchPlainly (s : Site) (text : String) : Launch :=
  .ended (some (reportedExit (if s.statusCommand = some text then s.statusCode else 0))) "" ""

/-- The `ssh` program. -/
def shell : Shell Site := fun host command =>
  Call.atomically fun s =>
    if s.sshMissing then (.failed "No such file or directory (os error 2)", s)
    else
      let s := { s with journal := s.journal ++ [PendingRequest.ssh (host.arguments command.text)] }
      let (launch, left) := pop (s.launchPlainly command.text) s.launches
      (launch, { s with launches := left })

/-! ### Clients of the site -/

/-- A client of the hypervisor; `url` is the address as it was given. -/
def hypervisor (url username password : String) : Hypervisor Site where
  baseUrl := Machine.trimSlashes url
  username := username
  password := password
  session := ⟨session, fun token s => { s with session := token }⟩
  carrier := carrier

/-- What the handle with a number has commanded. -/
def commandedBy (number : Nat) : Part Site Commanded where
  get s := s.handles[number]?.getD (.ofStatus .stopped)
  set c s := { s with handles := s.handles.set number c }

/-- Make room for a handle. -/
def room (c : Commanded) : Call Site (Part Site Commanded) :=
  Call.atomically fun s => (commandedBy s.handles.length, { s with handles := s.handles ++ [c] })

/-- The machines of a fixture on the site. -/
def lab (spec : MachineSpec) (password : String) : Machine.MachineLab Site where
  spec := spec
  hypervisor := hypervisor spec.hypervisor.url spec.hypervisor.username password
  shell := shell
  clock _ := 0
  room := room

end Site

end FaultLab.Rehearsal
