import FaultLab.Http
import FaultLab.Json.Reader
import FaultLab.Power
import FaultLab.Text.Base64

/-! # Power control through a hypervisor

A hypervisor wants a token with every request, and gives one to who logs in.  `Hypervisor.send`
gets a token where there is none, and once more if the hypervisor no longer knows it.  Powering on
and off look at the present state first, so that doing either twice does nothing the second time. -/

namespace FaultLab.Machine

/-- The kinds of trouble with a hypervisor. -/
inductive HypervisorTrouble where
  | http
  | connectionFailed
  | auth
  | vmNotFound
  | decode
deriving DecidableEq

namespace HypervisorTrouble

/-- The name of a kind. -/
def name : HypervisorTrouble → String
  | http => "Http"
  | connectionFailed => "ConnectionFailed"
  | auth => "Auth"
  | vmNotFound => "VmNotFound"
  | decode => "Decode"

/-- The words for a kind with a detail. -/
def message (kind : HypervisorTrouble) (detail : String) : String :=
  match kind with
  | http => "http error: " ++ detail
  | connectionFailed => "connection failed: " ++ detail
  | auth => "authentication failed: " ++ detail
  | vmNotFound => "vm not found: " ++ detail
  | decode => "unexpected response: " ++ detail

end HypervisorTrouble

/-- Why a hypervisor did not do as told. -/
inductive HypervisorError where
  /-- It cannot be reached. -/
  | unreachable
  /-- The request cannot be sent, or its answer got lost. -/
  | transport
  /-- It answered a login with an unexpected status. -/
  | loginFailed (body : String)
  /-- It answered with an unexpected status. -/
  | failed (response : Http.Response)
  /-- It does not know the user. -/
  | refused (user : String)
  /-- It does not know the machine. -/
  | unknownMachine (name : String)
  /-- Its answer does not say what it should. -/
  | badBody
  /-- It named a state that there is not. -/
  | unknownState (text : String)
deriving DecidableEq

namespace HypervisorError

/-- The kind of an error. -/
def kind : HypervisorError → HypervisorTrouble
  | unreachable => .connectionFailed
  | transport => .http
  | loginFailed _ => .http
  | failed _ => .http
  | refused _ => .auth
  | unknownMachine _ => .vmNotFound
  | badBody => .decode
  | unknownState _ => .decode

/-- What there is to say beyond the kind. -/
def detail : HypervisorError → String
  | unreachable => "no connection"
  | transport => "no answer"
  | loginFailed body => body
  | failed response => response.describe
  | refused user => user
  | unknownMachine name => name
  | badBody => "unexpected body"
  | unknownState text => "power state " ++ Text.quote text

/-- The words for an error. -/
def message (e : HypervisorError) : String := e.kind.message e.detail

/-- Whether the words come from the transport. -/
def varies : HypervisorError → Bool
  | unreachable => true
  | transport => true
  | badBody => true
  | _ => false

end HypervisorError

/-- The state that a hypervisor names. -/
def powerStateOf (text : String) : Except HypervisorError PowerState :=
  match PowerState.ofName? text with
  | some s => .ok s
  | none => .error (.unknownState text)

/-- An address without slashes at its end. -/
def trimSlashes (url : String) : String :=
  String.ofList (url.toList.reverse.dropWhile (· = '/')).reverse

/-- A hypervisor, the account to use there, and where its token is kept. -/
structure Hypervisor (σ : Type) where
  baseUrl : String
  username : String
  password : String
  session : Part σ (Option String)
  carrier : Http.Carrier σ

/-- The address of a machine's power. -/
def powerUrl (baseUrl vm : String) : String := s!"{baseUrl}/api/vcenter/vm/{vm}/power"

/-- The address of the power of the system on a machine. -/
def guestPowerUrl (baseUrl vm : String) : String := s!"{baseUrl}/api/vcenter/vm/{vm}/guest/power"

namespace Hypervisor

variable {σ : Type}

/-- What is wrong with a reply that is no answer. -/
def answerOf : Http.Reply → Except HypervisorError Http.Response
  | .answered r => .ok r
  | .refused => .error .unreachable
  | .brokenOff => .error .transport
  | .unusable => .error .transport

/-- Send a request as it is. -/
def ask (h : Hypervisor σ) (request : Http.Request) : Attempt σ HypervisorError Http.Response := do
  let reply ← Attempt.lift (h.carrier request)
  Attempt.give (answerOf reply)

/-- The request for a token. -/
def loginRequest (h : Hypervisor σ) : Http.Request :=
  ⟨.post, h.baseUrl ++ "/api/session",
    some ("Basic " ++ Text.Base64.encode s!"{h.username}:{h.password}"), none⟩

/-- The token in the answer to a login. -/
def tokenOf (h : Hypervisor σ) (r : Http.Response) : Except HypervisorError String :=
  if r.status = Http.unauthorized then .error (.refused h.username)
  else if !Http.isSuccess r.status then .error (.loginFailed r.body)
  else match Json.decode Decoder.text r.body with
    | .ok token => .ok token
    | .error _ => .error .badBody

/-- The token at hand, or a new one.  This is for calls that are made one after the other: no lock keeps a
second call from logging in while the first one does. -/
def token (h : Hypervisor σ) : Attempt σ HypervisorError String := do
  match ← Attempt.lift h.session.read with
  | some token => return token
  | none =>
    let r ← h.ask h.loginRequest
    let token ← Attempt.give (h.tokenOf r)
    Attempt.log (.debug "hypervisor session established" [("url", .varying h.baseUrl)])
    Attempt.lift (h.session.write (some token))
    return token

/-- What an answer says about a machine. -/
def judge (vm : String) (r : Http.Response) : Except HypervisorError Http.Response :=
  if r.status = Http.notFound then .error (.unknownMachine vm)
  else if !Http.isSuccess r.status then .error (.failed r)
  else .ok r

/-- Send a request about a machine with a token, and once more with a new one if the first is no
longer known. -/
def send (h : Hypervisor σ) (vm : String) (build : String → Http.Request) :
    Attempt σ HypervisorError Http.Response := do
  let token ← h.token
  let r ← h.ask (build token)
  if r.status = Http.unauthorized then
    Attempt.lift (h.session.write none)
    let token ← h.token
    let r ← h.ask (build token)
    Attempt.give (judge vm r)
  else Attempt.give (judge vm r)

/-- The state in an answer. -/
def stateOf (r : Http.Response) : Except HypervisorError PowerState :=
  let reader : RecordReader String := id <$> RecordReader.field "state" Decoder.text
  match Json.decode (reader.decode "PowerInfo" .direct) r.body with
  | .ok text => powerStateOf text
  | .error _ => .error .badBody

/-- The present state of a machine. -/
def powerState (h : Hypervisor σ) (vm : String) : Attempt σ HypervisorError PowerState := do
  let r ← h.send vm fun token => ⟨.get, powerUrl h.baseUrl vm, some token, none⟩
  Attempt.give (stateOf r)

/-- Have something done to a machine. -/
def powerAction (h : Hypervisor σ) (vm action : String) : Attempt σ HypervisorError Unit := do
  let _ ← h.send vm fun token =>
    ⟨.post, s!"{powerUrl h.baseUrl vm}?action={action}", some token, none⟩
  Attempt.log (.info "hypervisor power action" [("vm", .fixed vm), ("action", .fixed action)])

/-- Power a machine on unless it is. -/
def powerOn (h : Hypervisor σ) (vm : String) : Attempt σ HypervisorError Unit := do
  let state ← h.powerState vm
  if state = .on then return () else h.powerAction vm "start"

/-- Power a machine off unless it is. -/
def powerOff (h : Hypervisor σ) (vm : String) : Attempt σ HypervisorError Unit := do
  let state ← h.powerState vm
  if state = .off then return () else h.powerAction vm "stop"

/-- Reset a machine. -/
def reset (h : Hypervisor σ) (vm : String) : Attempt σ HypervisorError Unit :=
  h.powerAction vm "reset"

/-- Have the system on a machine reboot. -/
def guestReboot (h : Hypervisor σ) (vm : String) : Attempt σ HypervisorError Unit := do
  let _ ← h.send vm fun token =>
    ⟨.post, guestPowerUrl h.baseUrl vm ++ "?action=reboot", some token, none⟩
  Attempt.log (.info "guest reboot requested" [("vm", .fixed vm)])

end Hypervisor

end FaultLab.Machine
