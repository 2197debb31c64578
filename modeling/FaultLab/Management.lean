import FaultLab.Call
import FaultLab.Health
import FaultLab.Http

/-! # The management of a cluster

A `ManagementClient` talks to the management of a cluster: it reads the layout, perhaps from memory,
and the status, submits the first layout, and adds, removes and resets members. -/

namespace FaultLab

/-- The kinds of trouble with the management of a cluster. -/
inductive ManagementTrouble where
  | unreachable
  | http
  | rejected
  | decode
deriving DecidableEq

namespace ManagementTrouble

/-- The name of a kind. -/
def name : ManagementTrouble → String
  | unreachable => "Unreachable"
  | http => "Http"
  | rejected => "Rejected"
  | decode => "Decode"

/-- The words for a kind with a detail. -/
def message (kind : ManagementTrouble) (detail : String) : String :=
  match kind with
  | unreachable => "no management endpoint reachable: " ++ detail
  | http => "http error: " ++ detail
  | rejected => "request rejected: " ++ detail
  | decode => "decode error: " ++ detail

end ManagementTrouble

/-- Why the management of a cluster did not do as told. -/
inductive ManagementError where
  /-- There is nobody to ask. -/
  | noEndpoints
  /-- None of those who were asked, in this order, could be reached. -/
  | allRefused (tried : List Endpoint)
  /-- The gateway is down. -/
  | gatewayDown
  /-- The members are not ready for their first layout. -/
  | targetNotReady
  /-- The request cannot be sent, or its answer got lost. -/
  | transport
  /-- A status that blames the service. -/
  | failed (response : Http.Response)
  /-- A status that blames the request, or the moment. -/
  | rejected (response : Http.Response)
  /-- The answer does not say what it should. -/
  | badBody
  /-- There is no layout yet. -/
  | notBootstrapped
  /-- There is a layout of another cluster. -/
  | alreadyBootstrapped
  /-- The layout is not valid. -/
  | invalidLayout (cause : LayoutError)
  /-- Too few servers agree. -/
  | noQuorum
  /-- There is no such member. -/
  | unknownEndpoint (endpoint : Endpoint)
  /-- The member does not run. -/
  | notRunning (endpoint : Endpoint)
  /-- There would be no server left. -/
  | lastServer
  /-- There is no report yet. -/
  | noReport
  /-- Anything else. -/
  | other (kind : ManagementTrouble) (detail : String)

namespace ManagementError

/-- The kind of an error. -/
def kind : ManagementError → ManagementTrouble
  | noEndpoints => .unreachable
  | allRefused _ => .unreachable
  | gatewayDown => .unreachable
  | targetNotReady => .unreachable
  | transport => .http
  | failed _ => .http
  | badBody => .decode
  | other kind _ => kind
  | _ => .rejected

/-- What there is to say beyond the kind. -/
def detail : ManagementError → String
  | noEndpoints => "no endpoints"
  | allRefused tried =>
    String.intercalate "; " (tried.map fun e => s!"{e}: no connection")
  | gatewayDown => "management gateway down"
  | targetNotReady => "bootstrap target not ready"
  | transport => "no answer"
  | failed response => response.describe
  | rejected response => response.describe
  | badBody => "unexpected body"
  | notBootstrapped => "cluster not bootstrapped"
  | alreadyBootstrapped => "already bootstrapped"
  | invalidLayout cause => cause.message
  | noQuorum => "no quorum of layout servers"
  | unknownEndpoint e => s!"unknown endpoint {e}"
  | notRunning e => s!"{e} is not running"
  | lastServer => "cannot remove the last server"
  | noReport => "no status report"
  | other _ detail => detail

/-- The words for an error. -/
def message (e : ManagementError) : String := e.kind.message e.detail

/-- Whether the words come from the transport. -/
def varies : ManagementError → Bool
  | allRefused _ => true
  | transport => true
  | badBody => true
  | _ => false

end ManagementError

/-- How patient the management is to be with a change of the members. -/
structure Patience where
  retries : UInt32
  timeout : Nat
  pollPeriod : Nat
deriving DecidableEq

/-- Talks to the management of a cluster. -/
structure ManagementClient (σ : Type) where
  /-- The layout, perhaps as it was at an earlier reading. -/
  getLayout : Attempt σ ManagementError Layout
  /-- The present report. -/
  getStatus : Attempt σ ManagementError StatusReport
  /-- Have the next layout read anew. -/
  invalidate : Call σ Unit
  /-- Submit the first layout. -/
  bootstrap : Layout → Attempt σ ManagementError Unit
  /-- Make an endpoint a server. -/
  add : Endpoint → Patience → Attempt σ ManagementError Unit
  /-- Make an endpoint no server any more. -/
  remove : Endpoint → Patience → Attempt σ ManagementError Unit
  /-- Have a member forget its state. -/
  reset : Endpoint → Attempt σ ManagementError Unit

namespace ManagementClient

variable {σ : Type}

/-- A fresh layout, and the report after it. -/
def snapshot (client : ManagementClient σ) : Attempt σ ManagementError Snapshot := do
  Attempt.lift client.invalidate
  let layout ← client.getLayout
  let status ← client.getStatus
  return ⟨layout, status⟩

/-- A client for a part of the state. -/
def focus {τ : Type} (p : Part σ τ) (client : ManagementClient τ) : ManagementClient σ where
  getLayout := client.getLayout.focus p
  getStatus := client.getStatus.focus p
  invalidate := client.invalidate.focus p
  bootstrap layout := (client.bootstrap layout).focus p
  add e patience := (client.add e patience).focus p
  remove e patience := (client.remove e patience).focus p
  reset e := (client.reset e).focus p

end ManagementClient

/-- Makes a client for the cluster of some endpoints. -/
abbrev Connector (σ : Type) := List Endpoint → Attempt σ ManagementError (ManagementClient σ)

end FaultLab
