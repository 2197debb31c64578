import FaultLab.Backend
import FaultLab.Machine.Node

/-! # Virtual machines as a backend

The machines of a `MachineLab` are there before and after a test; provisioning one gives it power
and has the member's process run. -/

namespace FaultLab.Machine

/-- Machines under a hypervisor, and how to reach them. -/
structure MachineLab (σ : Type) where
  spec : MachineSpec
  hypervisor : Hypervisor σ
  shell : Shell σ
  /-- What the clock shows. -/
  clock : σ → Nat
  /-- Make room for what a handle has commanded. -/
  room : Commanded → Call σ (Part σ Commanded)

namespace MachineLab

variable {σ : Type}

/-- The host of a machine. -/
def host (spec : MachineSpec) (entry : MachineEntry) : Host where
  address := entry.host
  user := entry.sshUser
  port := entry.sshPort
  patience := spec.sshTimeout

/-- A handle on the member of a machine. -/
def handle (lab : MachineLab σ) (entry : MachineEntry) (commanded : Part σ Commanded) :
    Handle σ where
  id := Endpoint.ofParts entry.host lab.spec.memberPort
  vm := entry.name
  host := host lab.spec entry
  process := lab.spec.process
  bootTimeout := lab.spec.bootTimeout
  hypervisor := lab.hypervisor
  shell := lab.shell
  clock := lab.clock
  commanded := commanded

/-- There is nothing to make; the fixture only has to be about virtual machines. -/
def prepare (lab : MachineLab σ) (f : Fixture) : Attempt σ Failure Unit :=
  match f.backend with
  | .machines _ =>
    Attempt.log (.info "using vm lab"
      [("hypervisor", .varying lab.hypervisor.baseUrl), ("vms", .ofNat lab.spec.vms.length)])
  | _ => Attempt.give (.error (.unusable "vm backend needs a vm fixture"))

/-- The machine at an index. -/
def entry (lab : MachineLab σ) (index : Nat) : Except Failure MachineEntry :=
  match lab.spec.vms[index]? with
  | some entry => .ok entry
  | none => .error (.noNode index lab.spec.vms.length)

/-- Give a machine power and have its member run. -/
def provision (lab : MachineLab σ) (index : Nat) : Attempt σ Failure (Node σ) := do
  let entry ← Attempt.give (lab.entry index)
  let commanded ← Attempt.lift (lab.room (.ofStatus .stopped))
  let h := lab.handle entry commanded
  h.ensurePower Operation.provision.name
  h.start
  h.report "provisioned vm node" [h.vmField]
  return h.node

/-- The machines as a backend. -/
def backend (lab : MachineLab σ) : Backend σ where
  name := "vm"
  prepare := lab.prepare
  provision index _ := lab.provision index
  release := return ()

end MachineLab

end FaultLab.Machine
