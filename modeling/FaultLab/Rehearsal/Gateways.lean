import FaultLab.Management.Gateway
import FaultLab.Http.Url
import FaultLab.Rehearsal.Queue

/-! # Rehearsed gateways

Some members of a cluster have gateways that answer from scripts, one answer to each request; the
others cannot be reached.  A journal has the requests that were received. -/

namespace FaultLab.Rehearsal

/-- The gateway of a member. -/
inductive GatewayScript where
  | down
  | up (replies : List ScriptedReply)

/-- A request that the gateway of a member received. -/
structure GatewayVisit where
  member : Nat
  method : Http.Method
  target : String
  body : Option Document

/-- Gateways with their journal, and what the client remembers. -/
structure Gateways where
  scripts : List GatewayScript
  journal : List GatewayVisit
  memory : Gateway.Memory

namespace Gateways

/-- Gateways before the first request. -/
def ofScripts (scripts : List GatewayScript) : Gateways := ⟨scripts, [], .start⟩

/-- The endpoint of the member at an index. -/
def endpointOf (index : Nat) : Endpoint :=
  Endpoint.ofParts "127.0.0.1" (UInt16.ofNat (20000 + index))

/-- The endpoints of the members. -/
def endpoints (g : Gateways) : List Endpoint := (List.range g.scripts.length).map endpointOf

/-- The index of the member with an endpoint. -/
def indexOf? (g : Gateways) (e : Endpoint) : Option Nat := g.endpoints.idxOf? e

/-- The answer of a gateway whose script has come to its end. -/
def exhausted : ScriptedReply := .answer 500 "script exhausted"

/-- Answer a request to a member. -/
def answer (member : Nat) (request : Http.Request) (target : String) (g : Gateways) :
    Http.Reply × Gateways :=
  match g.scripts[member]? with
  | some (.up replies) =>
    let (reply, left) := pop exhausted replies
    (reply.reply,
      { g with
        scripts := g.scripts.set member (.up left)
        journal := g.journal ++ [⟨member, request.method, target, request.body⟩] })
  | _ => (.refused, g)

/-- Carries requests to the gateways. -/
def carrier : Http.Carrier Gateways := fun request =>
  Call.atomically fun g =>
    match Http.Url.parse? request.url with
    | none => (.unusable, g)
    | some url =>
      match g.indexOf? ⟨url.service⟩ with
      | some member => answer member request url.target g
      | none => (.refused, g)

/-- Where the client keeps its memory. -/
def memoryPart : Part Gateways Gateway.Memory := ⟨memory, fun m g => { g with memory := m }⟩

/-- A client for some gateways. -/
def client (g : Gateways) : Except ManagementError (ManagementClient Gateways) :=
  Gateway.connect memoryPart carrier g.endpoints

end Gateways

end FaultLab.Rehearsal
