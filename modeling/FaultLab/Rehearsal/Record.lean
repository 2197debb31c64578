import FaultLab.Fixture.Writer
import FaultLab.Rehearsal.Bench
import FaultLab.Rehearsal.Containers
import FaultLab.Rehearsal.Gateways
import FaultLab.Rehearsal.Site

/-! # Records of rehearsals as documents

What a rehearsal has shown is written down as documents: events, batches, what can be seen of a
bench, and the calls and requests that reached the services. -/

namespace FaultLab

/-- The document of some endpoints. -/
def encodeEndpoints (es : List Endpoint) : Document := .ofList (es.map Endpoint.encode)

/-- The document of a field of an event; what varies is not shown. -/
def FieldText.encode : FieldText → Document
  | fixed text => .text text
  | varying _ => .text "*"

/-- The document of an event. -/
def Event.encode (e : Event) : Document :=
  .ofList [.text e.level.name, .text e.message,
    .ofEntries (e.fields.map fun (name, text) => (name, text.encode))]

/-- The document of an outcome. -/
def Outcome.encode (o : Outcome) : Document :=
  .ofEntries [("stdout", .text o.stdout), ("stderr", .text o.stderr), ("code", .integer o.exit),
    ("success", .bool o.success)]

/-- The document of a layout without the identity of its cluster. -/
def Layout.encodeAnonymous (l : Layout) : Document :=
  .ofEntries (l.encode.entries.filter fun (name, _) => name ≠ "clusterId")

/-- The fields of what was commanded. -/
def Commanded.items (c : Commanded) : List Document :=
  [.text c.status.display, encodeEndpoints c.peers.toList]

/-- The document of a handle: its endpoint, its kind, and whether it has power control. -/
def Node.encode {σ : Type} (n : Node σ) : Document :=
  .ofList [n.id.encode, .text n.kind.display, .bool n.power.isSome]

/-- The document of a condition that came about. -/
def PollSuccess.encode (p : PollSuccess) : Document :=
  .ofEntries [("attempts", encodeNat p.attempts), ("elapsed_ms", encodeNat (Span.millis p.elapsed)),
    ("summary", .text p.snapshot.summary)]

/-- The document of what became of one call of a batch. -/
def NodeOutcome.encode (o : NodeOutcome) : Document :=
  let error : Document := match o.result with
    | .ok () => .null
    | .error e => .text e.message
  .ofList [encodeNat o.index, o.node.encode, error, encodeNat (Span.millis o.elapsed)]

/-- The fields of a batch. -/
def BatchReport.entries (r : BatchReport) : List (String × Document) :=
  [("op", .text r.fault.name), ("outcomes", .ofList (r.outcomes.map NodeOutcome.encode)),
    ("succeeded", .ofList (r.succeeded.map (encodeNat ∘ NodeOutcome.index))),
    ("failed", .ofList (r.failed.map (encodeNat ∘ NodeOutcome.index))),
    ("all", .bool r.allSucceeded)]

/-- The names of the kinds of some members, each once and in the order of the alphabet. -/
def kindNames {σ : Type} (nodes : List (Node σ)) : List String :=
  ([NodeKind.container, .simulated, .machine].filter fun k => nodes.any fun n => n.kind = k).map
    NodeKind.display

/-- The document of a deployed cluster. -/
def Group.encode {σ : Type} (g : Group σ) : Document :=
  .ofEntries [("len", encodeNat g.size), ("empty", .bool g.isEmpty),
    ("endpoints", encodeEndpoints g.endpoints), ("name", .text g.fixture.name),
    ("kinds", encodeTexts (kindNames g.nodes))]

namespace Rehearsal

/-- The document of a pair of numbers. -/
def encodePair (p : Nat × Nat) : Document := .ofList [encodeNat p.1, encodeNat p.2]

/-- The document of a member of the simulation that may not exist. -/
def encodeMember (e : Endpoint) (m : Option Simulation.Member) : Document :=
  .ofList [e.encode, encodeOption (fun m => .text (Simulation.Member.status m).display) m,
    encodeEndpoints ((m.map fun m => m.blocked.toList).getD []),
    .bool ((m.map Simulation.Member.destroyed).getD false),
    encodeNat ((m.map Simulation.Member.resets).getD 0)]

/-- The document of a layout in brief. -/
def encodeBrief (l : Layout) : Document :=
  .ofList [encodeU64 l.epoch, encodeEndpoints l.servers, encodeEndpoints l.unresponsive.toList]

/-- The document of what can be seen of a bench. -/
def View.encode (v : View) : Document :=
  .ofEntries [
    ("life", encodeOption (fun p => .text (Phase.name p)) v.phase),
    ("nodes", .ofList (v.handles.map fun (e, c) => .ofList (e.encode :: c.items))),
    ("members", .ofList (v.members.map fun (e, m) => encodeMember e m)),
    ("layout", encodeOption encodeBrief v.layout),
    ("counts",
      .ofList [encodeNat v.prepared, encodeNat v.released, encodeNat v.bootstrapAttempts]),
    ("rotation", encodeOption encodePair v.brokenLink)]

/-- The document of a container to be made. -/
def encodeContainer (p : Container.ContainerPlan) : Document :=
  .ofEntries [("image", .text p.image), ("hostname", .text p.hostname),
    ("cmd", encodeOption encodeTexts p.command), ("env", encodeTexts p.environment),
    ("labels", encodeNamed p.labels), ("cap_add", encodeTexts p.capabilities),
    ("memory", encodeOption encodeNat p.memory), ("nano_cpus", encodeOption encodeNat p.nanoCpus),
    ("network_mode", .text p.network), ("network", .text p.network), ("ip", .text p.address)]

/-- The document of a network to be made. -/
def encodeNetwork (p : Container.NetworkPlan) : Document :=
  .ofEntries [("driver", .text p.driver), ("check_duplicate", .bool p.checkDuplicate),
    ("subnet", .text p.subnet), ("gateway", encodeOption .text p.gateway),
    ("labels", encodeNamed p.labels)]

/-- The document of a call to the daemon. -/
def DaemonCall.encode : DaemonCall → Document
  | inspect c => encodeTexts ["inspect", c]
  | start c => encodeTexts ["start", c]
  | stop c seconds => encodeTexts ["stop", c, toString seconds]
  | kill c => encodeTexts ["kill", c, "SIGKILL"]
  | pause c => encodeTexts ["pause", c]
  | unpause c => encodeTexts ["unpause", c]
  | restart c seconds => encodeTexts ["restart", c, toString seconds]
  | remove c => encodeTexts ["remove", c, "true", "true"]
  | exec c words => .ofList [.text "exec", .text c, encodeTexts words]
  | create c plan => .ofList [.text "create", .text c, encodeContainer plan]
  | networkCreate plan => .ofList [.text "network_create", .text plan.name, encodeNetwork plan]
  | networkRemove name => encodeTexts ["network_remove", name]

/-- The document of what reached a site, where need be with the name of the service. -/
def PendingRequest.encode (named : Bool) : PendingRequest → Document
  | http method target credential =>
    let fields := [.text method.name, .text target, encodeOption .text credential]
    .ofList (if named then .text "http" :: fields else fields)
  | ssh arguments => encodeTexts (if named then "ssh" :: arguments else arguments)

/-- The document of a request that reached a gateway. -/
def GatewayVisit.encode (v : GatewayVisit) : Document :=
  .ofList [encodeNat v.member, .text v.method.name, .text v.target, v.body.getD .null]

end Rehearsal

end FaultLab
