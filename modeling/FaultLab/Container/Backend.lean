import FaultLab.Backend
import FaultLab.Container.Address
import FaultLab.Container.Node

/-! # Containers as a backend

The members of a deployment run in containers of one `Project` on a network of its own, each with a
fixed address, so that an endpoint stays the same when its container starts again. -/

namespace FaultLab.Container

/-- A deployment on a daemon: its name, and where it keeps what it has to remember. -/
structure Project (σ : Type) where
  name : String
  daemon : Daemon σ
  /-- Whether the network was made. -/
  networkMade : Part σ Bool
  /-- Make room for what a handle has commanded. -/
  room : Commanded → Call σ (Part σ Commanded)

/-- The containers that a fixture asks for. -/
def specOf (f : Fixture) : Except Failure ContainerSpec :=
  match f.backend with
  | .containers spec => .ok spec
  | _ => .error (.unusable "docker backend needs a docker fixture")

namespace Project

variable {σ : Type}

/-- The labels of everything in a project. -/
def labels (p : Project σ) : List (String × String) := [(projectLabel, p.name)]

/-- The network of a project. -/
def network (p : Project σ) (spec : ContainerSpec) : NetworkPlan where
  name := networkName p.name
  driver := "bridge"
  checkDuplicate := true
  subnet := spec.subnet
  gateway := gatewayAddress? spec.subnet
  labels := p.labels

/-- The variables of the member at an index: those of the fixture, then its endpoint and index. -/
def environment (spec : ContainerSpec) (id : Endpoint) (index : Nat) : List String :=
  spec.environment.map (fun (name, value) => name ++ "=" ++ value) ++
    [s!"FAULTLINE_ENDPOINT={id}", s!"FAULTLINE_NODE_INDEX={index}"]

/-- The container of the member at an index. -/
def container (p : Project σ) (spec : ContainerSpec) (resources : Resources) (address : String)
    (id : Endpoint) (index : Nat) : ContainerPlan where
  image := spec.image
  hostname := s!"node-{index}"
  command := if spec.command.isEmpty then none else some spec.command
  environment := environment spec id index
  labels := p.labels
  capabilities := ["NET_ADMIN"]
  memory := resources.memoryBytes?
  nanoCpus := resources.nanoCpus?
  network := networkName p.name
  address := address

/-- Make the network. -/
def prepare (p : Project σ) (f : Fixture) : Attempt σ Failure Unit := do
  let spec ← Attempt.give (specOf f)
  (p.daemon.makeNetwork (p.network spec)).mapError fun e =>
    .ofFleet "create network" (.daemon e.status e.reason)
  Attempt.lift (p.networkMade.write true)
  Attempt.log (.info "created cluster network"
    [("project", .fixed p.name), ("network", .fixed (networkName p.name))])

/-- Make a container and start it. -/
def provision (p : Project σ) (index : Nat) (f : Fixture) : Attempt σ Failure (Node σ) := do
  let spec ← Attempt.give (specOf f)
  let address ← Attempt.give ((nodeAddress spec.subnet index).mapError .fixture)
  let id := Endpoint.ofParts address spec.memberPort
  let name := containerName p.name index
  (p.daemon.make name (p.container spec f.resources address id index)).mapError fun e =>
    .ofNode id "create container" (.daemon e.status e.reason)
  let commanded ← Attempt.lift (p.room (.ofStatus .stopped))
  let h : Handle σ := ⟨id, name, f.faults.stopGrace, p.daemon, commanded⟩
  h.start
  h.report "provisioned container node" [("container", .fixed name)]
  return h.node

/-- Remove the network, if there is one. -/
def release (p : Project σ) : Attempt σ Failure Unit := do
  if ← Attempt.lift p.networkMade.read then
    (p.daemon.removeNetwork (networkName p.name)).mapError fun e =>
      .ofFleet "remove network" (.daemon e.status e.reason)
    Attempt.log (.info "removed cluster network" [("project", .fixed p.name)])

/-- The project as a backend. -/
def backend (p : Project σ) : Backend σ where
  name := "docker"
  prepare := p.prepare
  provision := p.provision
  release := p.release

end Project

end FaultLab.Container
