import FaultLab.Backend
import FaultLab.Simulation.Client
import FaultLab.Simulation.Handle

/-! # The simulation as a backend

A `Lab` holds one fabric with all the handles and clients that were made for it.  Handles and
clients are told apart by their number, in the order in which they were made. -/

namespace FaultLab.Simulation

/-- A fabric with its handles and clients. -/
structure Lab where
  fabric : Fabric
  /-- What each handle has commanded. -/
  handles : List Commanded
  /-- The layout that each client remembers. -/
  memories : List (Option Layout)

namespace Lab

/-- A lab without members. -/
def empty : Lab := ⟨.empty, [], []⟩

/-- What a handle has commanded at first. -/
def firstCommand : Commanded := .ofStatus .running

/-- What a handle has commanded. -/
def commandedBy (lab : Lab) (number : Nat) : Commanded := lab.handles[number]?.getD firstCommand

/-- The seat of a handle. -/
def seat (number : Nat) : Part Lab Seat where
  get lab := ⟨lab.fabric, lab.commandedBy number⟩
  set s lab := { lab with fabric := s.fabric, handles := lab.handles.set number s.commanded }

/-- The state of a client. -/
def clientState (number : Nat) : Part Lab ClientState where
  get lab := ⟨lab.fabric, (lab.memories[number]?).join⟩
  set d lab := { lab with fabric := d.fabric, memories := lab.memories.set number d.memory }

/-- A handle as a member of a cluster. -/
def node (number : Nat) (h : Handle) : Node Lab := h.node.focus (seat number)

/-- A client for the lab's cluster. -/
def client (number : Nat) : ManagementClient Lab := ClientState.client.focus (clientState number)

/-- Change the fabric. -/
def onFabric (change : Fabric → Fabric) (lab : Lab) : Lab :=
  { lab with fabric := change lab.fabric }

/-- Make a handle on a member, which need not exist. -/
def attach (h : Handle) : Call Lab (Node Lab) :=
  Call.atomically fun lab =>
    (node lab.handles.length h, { lab with handles := lab.handles ++ [firstCommand] })

/-- Make a client. -/
def connect : Call Lab (ManagementClient Lab) :=
  Call.atomically fun lab =>
    (client lab.memories.length, { lab with memories := lab.memories ++ [none] })

/-- Make a member, and a handle on it. -/
def provision (flavor : Flavor) (index : Nat) (fixture : Fixture) :
    Attempt Lab Failure (Node Lab) := do
  let id := endpointAt index fixture.backend.memberPort
  if ← Attempt.lift (Call.read fun lab => lab.fabric.failProvision.contains index) then
    Attempt.give (.error (.ofNode id Operation.provision.name .injectedProvisioning))
  else
    Attempt.lift (Call.modify (onFabric (Fabric.register id)))
    Attempt.log (.debug "provisioned simulated node" [("node", .fixed id.text)])
    Attempt.lift (attach ⟨id, flavor⟩)

/-- The backend that makes simulated members of a flavor. -/
def backend (flavor : Flavor) : Backend Lab where
  name := "simulated"
  prepare _ := Attempt.lift
    (Call.modify (onFabric fun f => { f with prepared := f.prepared + 1 }))
  provision := provision flavor
  release := Attempt.lift (Call.modify (onFabric fun f => { f with released := f.released + 1 }))

/-- Reaches the lab's cluster, whatever the endpoints. -/
def connector : Connector Lab := fun _ => Attempt.lift connect

end Lab

/-- The flavor that a fixture asks for. -/
def Flavor.ofFixture (f : Fixture) : Flavor :=
  match f.backend with
  | .simulated spec => if spec.powerControl then machine else container
  | _ => container

end FaultLab.Simulation
