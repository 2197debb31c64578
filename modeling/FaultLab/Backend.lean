import FaultLab.Fixture
import FaultLab.Node

/-! # Where members come from

A `Backend σ` turns the slots of a fixture into running members and gives back what they share. -/

namespace FaultLab

/-- Makes members. -/
structure Backend (σ : Type) where
  name : String
  /-- Make what the members share. -/
  prepare : Fixture → Attempt σ Failure Unit
  /-- Make a member and have it run. -/
  provision : Nat → Fixture → Attempt σ Failure (Node σ)
  /-- Give back what the members shared. -/
  release : Attempt σ Failure Unit

namespace Backend

/-- A backend in a part of the state. -/
def focus {σ τ : Type} (p : Part σ τ) (b : Backend τ) : Backend σ where
  name := b.name
  prepare fixture := (b.prepare fixture).focus p
  provision index fixture := do
    let node ← (b.provision index fixture).focus p
    return node.focus p
  release := b.release.focus p

end Backend

/-- The backends that a fixture can do with on its own. -/
inductive BackendChoice where
  | containers (fixtureName : String)
  | machines (spec : MachineSpec) (password : String)

namespace BackendChoice

/-- The name of a backend. -/
def name : BackendChoice → String
  | containers _ => "docker"
  | machines _ _ => "vm"

/-- The backend that a fixture asks for in an environment of variables.  A
simulation has to be shared with the test, so there is none to be had on one's own. -/
def ofFixture (environment : String → Option String) (f : Fixture) : Except Failure BackendChoice :=
  match f.backend with
  | .containers _ => .ok (containers f.name)
  | .machines spec =>
    match environment spec.hypervisor.passwordVariable with
    | some password => .ok (machines spec password)
    | none => .error (.unusable
        s!"hypervisor password variable {spec.hypervisor.passwordVariable} is not set")
  | .simulated _ =>
    .error (.unusable "simulated fixtures need a SimBackend built from a SimFabric")

end BackendChoice

end FaultLab
