import FaultLab.Failure

/-! # Fixtures

A `Fixture` describes the cluster that a test wants: how many members, on what they run, and how
patient the test is.  It never changes once it is read.  `Fixture.validate` checks what the single
fields cannot. -/

namespace FaultLab

/-- How members run in containers. -/
structure ContainerSpec where
  image : String
  memberPort : UInt16
  /-- The command to run instead of the image's own. -/
  command : List String
  /-- Variables and their values, in the order of the variables. -/
  environment : List (String × String)
  /-- The addresses of the members' network. -/
  subnet : String

/-- How to reach a hypervisor. -/
structure HypervisorSpec where
  url : String
  username : String
  /-- The variable that holds the password. -/
  passwordVariable : String
  acceptInvalidCertificates : Bool

/-- A virtual machine for one member. -/
structure MachineEntry where
  name : String
  host : String
  sshUser : String
  sshPort : UInt16

/-- Commands that control the member's process on its machine. -/
structure ProcessSpec where
  start : String
  stop : String
  kill : String
  status : String
  /-- What the command line of the process matches. -/
  pattern : String

/-- How members run on virtual machines. -/
structure MachineSpec where
  hypervisor : HypervisorSpec
  vms : List MachineEntry
  process : ProcessSpec
  memberPort : UInt16
  sshTimeout : Nat
  /-- How long a machine may take to start. -/
  bootTimeout : Nat

/-- How members run in the simulation. -/
structure SimulationSpec where
  powerControl : Bool
  memberPort : UInt16

/-- What members run on. -/
inductive BackendSpec where
  | containers (spec : ContainerSpec)
  | machines (spec : MachineSpec)
  | simulated (spec : SimulationSpec)

/-- The port of the members. -/
def BackendSpec.memberPort : BackendSpec → UInt16
  | containers spec => spec.memberPort
  | machines spec => spec.memberPort
  | simulated spec => spec.memberPort

/-- What each member may use. -/
structure Resources where
  memoryMb : UInt64
  cpus : Binary64

/-- How often to try to submit the first layout. -/
structure BootstrapPolicy where
  retries : UInt32
  backoff : Nat

/-- How often and how long to look for a condition. -/
structure PollPolicy where
  interval : Nat
  timeout : Nat
deriving DecidableEq

/-- How patient faults are. -/
structure FaultPolicy where
  stopGrace : Nat
  callTimeout : Nat

/-- The cluster that a test wants. -/
structure Fixture where
  name : String
  nodeCount : Nat
  /-- Leave the members running when the test is over. -/
  keepOnTeardown : Bool
  backend : BackendSpec
  resources : Resources
  bootstrap : BootstrapPolicy
  membership : Patience
  poll : PollPolicy
  faults : FaultPolicy

/-! ### Defaults -/

/-- The name of a fixture without one. -/
def defaultName : String := "faultline"

/-- The port of members where nothing else is said. -/
def defaultMemberPort : UInt16 := 9000

/-- The network of containers where nothing else is said. -/
def defaultSubnet : String := "172.29.0.0/24"

/-- The variable that holds the password of a hypervisor where nothing else is said. -/
def defaultPasswordVariable : String := "FAULTLINE_HYPERVISOR_PASSWORD"

/-- Commands for a service called `cluster-member`. -/
def ProcessSpec.default : ProcessSpec where
  start := "sudo systemctl start cluster-member"
  stop := "sudo systemctl stop --no-block cluster-member"
  kill := "sudo systemctl kill --signal=SIGKILL cluster-member"
  status := "systemctl is-active --quiet cluster-member"
  pattern := "cluster-member"

/-- A gibibyte and one processor. -/
def Resources.default : Resources := ⟨1024, Binary64.ofNat 1⟩

/-- Five times, a second apart. -/
def BootstrapPolicy.default : BootstrapPolicy := ⟨5, Span.ofMillis 1000⟩

/-- Three retries within five minutes, a second apart. -/
def Patience.default : Patience := ⟨3, Span.ofSeconds 300, Span.ofMillis 1000⟩

/-- Every second for a minute. -/
def PollPolicy.default : PollPolicy := ⟨Span.ofMillis 1000, Span.ofSeconds 60⟩

/-- Ten seconds to stop, half a minute for a call. -/
def FaultPolicy.default : FaultPolicy := ⟨Span.ofSeconds 10, Span.ofSeconds 30⟩

/-- A fixture with some simulated members and nothing out of the ordinary. -/
def Fixture.simulated (n : Nat) : Fixture where
  name := defaultName
  nodeCount := n
  keepOnTeardown := false
  backend := .simulated ⟨false, defaultMemberPort⟩
  resources := .default
  bootstrap := .default
  membership := .default
  poll := .default
  faults := .default

/-! ### Limits -/

namespace Resources

/-- The memory in bytes, if it fits in sixty-three bits. -/
def memoryBytes? (r : Resources) : Option Nat :=
  let bytes := r.memoryMb.toNat * (1024 * 1024)
  if bytes < Nat.pow 2 63 then some bytes else none

/-- The processors in billionths, if there are any and they fit in sixty-three bits. -/
def nanoCpus? (r : Resources) : Option Nat :=
  let nanos := r.cpus.mul (Binary64.ofNat 1000000000)
  if nanos.isPositive then
    match nanos.floor? with
    | some n => if n < Nat.pow 2 63 then some n else none
    | none => none
  else none

end Resources

/-- Check what the single fields cannot. -/
def Fixture.validate (f : Fixture) : Except FixtureError Unit :=
  if f.nodeCount = 0 then .error (.invalid "node_count must be at least 1")
  else if f.poll.timeout = 0 then .error (.invalid "poll.timeout_secs must be non-zero")
  else if f.bootstrap.retries = 0 then .error (.invalid "bootstrap.retries must be non-zero")
  else if f.resources.memoryBytes?.isNone then
    .error (.invalid s!"resources.memory_mb {f.resources.memoryMb.toNat} is out of range")
  else if f.resources.nanoCpus?.isNone then
    .error (.invalid s!"resources.cpus {f.resources.cpus.plain} is out of range")
  else match f.backend with
    | .machines spec =>
      if spec.vms.length = f.nodeCount then .ok ()
      else .error (.invalid s!"vm backend lists {spec.vms.length} VMs for {f.nodeCount} nodes")
    | _ => .ok ()

end FaultLab
