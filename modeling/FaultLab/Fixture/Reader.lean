import FaultLab.Fixture
import FaultLab.Json.Reader
import FaultLab.Toml.Reader

/-! # Reading fixtures

A fixture is written as TOML or as JSON, with the same names.  What the members run on is a table
with a `kind` among its entries, or a list that starts with the kind; because the kind may come
last, the rest is taken in first and understood afterwards. -/

namespace FaultLab

namespace Reading

/-- How deep an entry about what the members run on may be nested where that is taken in from a
text. -/
def room : Nat := 125

/-- What is taken in before it is understood has to have a value. -/
def takeIn (reading : Reading) (d : Document) : Except Problem Unit :=
  match reading with
  | .direct => if Decoder.legible room d then .ok () else .error .illFormed
  | _ => .ok ()

end Reading

namespace Decoder

/-- A number of milliseconds. -/
def millis : Decoder Nat := fun d => (u64 d).map fun n => Span.ofMillis n.toNat

/-- A number of seconds. -/
def seconds : Decoder Nat := fun d => (u64 d).map fun n => Span.ofSeconds n.toNat

end Decoder

/-- Put a variable into a list that is sorted by variables; a later value wins. -/
def setVariable (name value : String) : List (String × String) → List (String × String)
  | [] => [(name, value)]
  | (n, v) :: rest =>
    if name < n then (name, value) :: (n, v) :: rest
    else if name = n then (name, value) :: rest
    else (n, v) :: setVariable name value rest

/-- Variables and their values. -/
def Decoder.environment : Decoder (List (String × String)) := fun d => do
  let pairs ← Decoder.entries Except.ok Decoder.text d
  return pairs.foldl (fun sorted (name, value) => setVariable name value sorted) []

/-- The fields of containers. -/
def ContainerSpec.reader : RecordReader ContainerSpec :=
  ContainerSpec.mk <$> .field "image" Decoder.text
    <*> .fieldOr "member_port" Decoder.u16 defaultMemberPort
    <*> .fieldOr "command" (Decoder.list Decoder.text) []
    <*> .fieldOr "env" Decoder.environment []
    <*> .fieldOr "subnet" Decoder.text defaultSubnet

/-- The fields of a hypervisor. -/
def HypervisorSpec.reader : RecordReader HypervisorSpec :=
  HypervisorSpec.mk <$> .field "url" Decoder.text
    <*> .field "username" Decoder.text
    <*> .fieldOr "password_env" Decoder.text defaultPasswordVariable
    <*> .fieldOr "accept_invalid_certs" Decoder.bool false

/-- The fields of a virtual machine. -/
def MachineEntry.reader : RecordReader MachineEntry :=
  MachineEntry.mk <$> .field "name" Decoder.text
    <*> .field "host" Decoder.text
    <*> .fieldOr "ssh_user" Decoder.text "root"
    <*> .fieldOr "ssh_port" Decoder.u16 22

/-- The fields of the commands for a process. -/
def ProcessSpec.reader : RecordReader ProcessSpec :=
  ProcessSpec.mk <$> .fieldOr "start" Decoder.text ProcessSpec.default.start
    <*> .fieldOr "stop" Decoder.text ProcessSpec.default.stop
    <*> .fieldOr "kill" Decoder.text ProcessSpec.default.kill
    <*> .fieldOr "status" Decoder.text ProcessSpec.default.status
    <*> .fieldOr "pattern" Decoder.text ProcessSpec.default.pattern

/-- The fields of virtual machines, read in some way. -/
def MachineSpec.reader (reading : Reading) : RecordReader MachineSpec :=
  MachineSpec.mk <$> .field "hypervisor" (HypervisorSpec.reader.decode "HypervisorConfig" reading)
    <*> .field "vms" (Decoder.list (MachineEntry.reader.decode "VmEntry" reading))
    <*> .fieldOr "process" (ProcessSpec.reader.decode "ProcessConfig" reading) ProcessSpec.default
    <*> .fieldOr "member_port" Decoder.u16 defaultMemberPort
    <*> .fieldOr "ssh_timeout_secs" Decoder.seconds (Span.ofSeconds 30)
    <*> .fieldOr "boot_timeout_secs" Decoder.seconds (Span.ofSeconds 300)

/-- The fields of simulated members. -/
def SimulationSpec.reader : RecordReader SimulationSpec :=
  SimulationSpec.mk <$> .fieldOr "power_control" Decoder.bool false
    <*> .fieldOr "member_port" Decoder.u16 defaultMemberPort

namespace BackendSpec

/-- What members may run on. -/
inductive Kind where
  | containers
  | machines
  | simulated

/-- The names of the kinds. -/
def Kind.names : List (String × Kind) :=
  [("docker", .containers), ("vm", .machines), ("simulated", .simulated)]

/-- Read a kind. -/
def Kind.decode : Decoder Kind
  | .text s => Decoder.variant names s
  | d => .error (d.unexpected "variant identifier")

/-- Look for the kind among entries, and take the others in. -/
def findKind (reading : Reading) : Option Kind → List (Option String × Document) →
    Except Problem (Option Kind)
  | found, [] => .ok found
  | _, (none, _) :: _ => .error .illFormed
  | found, (some k, d) :: rest =>
    if k = "kind" then
      if found.isSome then .error (.mismatch (.repeatedField "kind"))
      else do
        let kind ← Kind.decode d
        findKind reading (some kind) rest
    else do
      reading.takeIn d
      findKind reading found rest

/-- Understand the entries for a kind. -/
def ofEntries (entries : List (Option String × Document)) : Kind → Except Problem BackendSpec
  | .containers => (ContainerSpec.reader.fromEntries entries).map containers
  | .machines => ((MachineSpec.reader .deferred).fromEntries entries).map machines
  | .simulated => (SimulationSpec.reader.fromEntries entries).map simulated

/-- Understand the items for a kind. -/
def ofItems (items : List Document) : Kind → Except Problem BackendSpec
  | .containers => (ContainerSpec.reader.fromItems "DockerSpec" .deferred items true).map containers
  | .machines =>
    ((MachineSpec.reader .deferred).fromItems "VmSpec" .deferred items true).map machines
  | .simulated => (SimulationSpec.reader.fromItems "SimSpec" .deferred items true).map simulated

/-- Read what members run on. -/
def decode (reading : Reading) : Decoder BackendSpec
  | .table entries whole => do
    let found ← findKind reading none entries
    Decoder.reached whole
    match found with
    | some kind => ofEntries (entries.filter fun (k, _) => k ≠ some "kind") kind
    | none => .error (.mismatch (.missingField "kind"))
  | .list [] whole => do
    Decoder.reached whole
    .error (.mismatch (.missingField "kind"))
  | .list (d :: items) whole => do
    let kind ← Kind.decode d
    items.forM reading.takeIn
    Decoder.reached whole
    ofItems items kind
  | d => .error (d.unexpected "internally tagged enum BackendSpec")

end BackendSpec

/-- The fields of resources. -/
def Resources.reader : RecordReader Resources :=
  Resources.mk <$> .fieldOr "memory_mb" Decoder.u64 Resources.default.memoryMb
    <*> .fieldOr "cpus" Decoder.number Resources.default.cpus

/-- The fields of the submission of the first layout. -/
def BootstrapPolicy.reader : RecordReader BootstrapPolicy :=
  BootstrapPolicy.mk <$> .fieldOr "retries" Decoder.u32 BootstrapPolicy.default.retries
    <*> .fieldOr "backoff_ms" Decoder.millis BootstrapPolicy.default.backoff

/-- The fields of changes of the members. -/
def Patience.reader : RecordReader Patience :=
  Patience.mk <$> .fieldOr "retries" Decoder.u32 Patience.default.retries
    <*> .fieldOr "timeout_secs" Decoder.seconds Patience.default.timeout
    <*> .fieldOr "poll_period_ms" Decoder.millis Patience.default.pollPeriod

/-- The fields of waits. -/
def PollPolicy.reader : RecordReader PollPolicy :=
  PollPolicy.mk <$> .fieldOr "interval_ms" Decoder.millis PollPolicy.default.interval
    <*> .fieldOr "timeout_secs" Decoder.seconds PollPolicy.default.timeout

/-- The fields of faults. -/
def FaultPolicy.reader : RecordReader FaultPolicy :=
  FaultPolicy.mk <$> .fieldOr "stop_grace_secs" Decoder.seconds FaultPolicy.default.stopGrace
    <*> .fieldOr "call_timeout_secs" Decoder.seconds FaultPolicy.default.callTimeout

namespace Fixture

/-- The fields of a fixture. -/
def reader (reading : Reading) : RecordReader Fixture :=
  Fixture.mk <$> .fieldOr "name" Decoder.text defaultName
    <*> .field "node_count" Decoder.count
    <*> .fieldOr "keep_on_teardown" Decoder.bool false
    <*> .field "backend" (BackendSpec.decode reading)
    <*> .fieldOr "resources" (Resources.reader.decode "NodeResources" reading) .default
    <*> .fieldOr "bootstrap" (BootstrapPolicy.reader.decode "BootstrapConfig" reading)
      .default
    <*> .fieldOr "membership" (Patience.reader.decode "MembershipConfig" reading) .default
    <*> .fieldOr "poll" (PollPolicy.reader.decode "PollConfig" reading) .default
    <*> .fieldOr "faults" (FaultPolicy.reader.decode "FaultConfig" reading) .default

/-- Read a fixture. -/
def decode (reading : Reading) : Decoder Fixture :=
  (reader reading).decode "FixtureSpec" reading

/-- A fixture that is valid. -/
def validated (f : Fixture) : Except FixtureError Fixture := f.validate.map fun _ => f

/-- The fixture that a TOML text describes. -/
def ofToml (text : String) : Except FixtureError Fixture :=
  match Toml.decode (decode .lenient) text with
  | .ok f => f.validated
  | .error problem => .error (.unparsable problem)

/-- The fixture that the bytes of a TOML file describe. -/
def ofBytes? : Option ByteArray → Except FixtureError Fixture
  | none => .error .unreadable
  | some bytes =>
    match String.fromUTF8? bytes with
    | some text => ofToml text
    | none => .error .unreadable

/-- The fixture that a JSON text describes. -/
def ofJson (text : String) : Except Problem Fixture := Json.decode (decode .direct) text

end Fixture

end FaultLab
