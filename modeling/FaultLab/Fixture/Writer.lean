import FaultLab.Fixture

/-! # Writing fixtures

A fixture as a document has every field, those with the value of the default as well.  Spans are
written as their seconds and the nanoseconds beyond them. -/

namespace FaultLab

/-- The document of a natural number. -/
def encodeNat (n : Nat) : Document := .integer n

/-- The document of a list of texts. -/
def encodeTexts (ss : List String) : Document := .ofList (ss.map .text)

/-- The document of named texts. -/
def encodeNamed (pairs : List (String × String)) : Document :=
  .ofEntries (pairs.map fun (name, value) => (name, .text value))

/-- The document of what may be missing. -/
def encodeOption {α : Type} (encode : α → Document) : Option α → Document
  | some a => encode a
  | none => .null

/-- The document of a span. -/
def Span.encode (d : Nat) : Document :=
  .ofList [encodeNat (Span.seconds d), encodeNat (Span.subsecond d)]

/-- The fields of containers. -/
def ContainerSpec.entries (c : ContainerSpec) : List (String × Document) :=
  [("image", .text c.image), ("member_port", encodeNat c.memberPort.toNat),
    ("command", encodeTexts c.command), ("env", encodeNamed c.environment),
    ("subnet", .text c.subnet)]

/-- The document of a hypervisor. -/
def HypervisorSpec.encode (h : HypervisorSpec) : Document :=
  .ofEntries [("url", .text h.url), ("username", .text h.username),
    ("password_env", .text h.passwordVariable),
    ("accept_invalid_certs", .bool h.acceptInvalidCertificates)]

/-- The document of a virtual machine. -/
def MachineEntry.encode (m : MachineEntry) : Document :=
  .ofEntries [("name", .text m.name), ("host", .text m.host), ("ssh_user", .text m.sshUser),
    ("ssh_port", encodeNat m.sshPort.toNat)]

/-- The document of the commands for a process. -/
def ProcessSpec.encode (p : ProcessSpec) : Document :=
  .ofEntries [("start", .text p.start), ("stop", .text p.stop), ("kill", .text p.kill),
    ("status", .text p.status), ("pattern", .text p.pattern)]

/-- The fields of virtual machines. -/
def MachineSpec.entries (m : MachineSpec) : List (String × Document) :=
  [("hypervisor", m.hypervisor.encode), ("vms", .ofList (m.vms.map MachineEntry.encode)),
    ("process", m.process.encode), ("member_port", encodeNat m.memberPort.toNat),
    ("ssh_timeout_secs", encodeNat (Span.seconds m.sshTimeout)),
    ("boot_timeout_secs", encodeNat (Span.seconds m.bootTimeout))]

/-- The fields of simulated members. -/
def SimulationSpec.entries (s : SimulationSpec) : List (String × Document) :=
  [("power_control", .bool s.powerControl), ("member_port", encodeNat s.memberPort.toNat)]

/-- The document of what members run on: the fields and the kind. -/
def BackendSpec.encode : BackendSpec → Document
  | containers spec => .ofEntries (("kind", .text "docker") :: spec.entries)
  | machines spec => .ofEntries (("kind", .text "vm") :: spec.entries)
  | simulated spec => .ofEntries (("kind", .text "simulated") :: spec.entries)

/-- The document of a fixture, with the limits that follow from its resources. -/
def Fixture.encode (f : Fixture) : Document :=
  .ofEntries [
    ("name", .text f.name), ("node_count", encodeNat f.nodeCount),
    ("keep_on_teardown", .bool f.keepOnTeardown), ("backend", f.backend.encode),
    ("port", encodeNat f.backend.memberPort.toNat),
    ("memory_mb", encodeNat f.resources.memoryMb.toNat), ("cpus", .text f.resources.cpus.plain),
    ("memory_bytes", encodeOption encodeNat f.resources.memoryBytes?),
    ("nano_cpus", encodeOption encodeNat f.resources.nanoCpus?),
    ("bootstrap", .ofEntries [("retries", encodeNat f.bootstrap.retries.toNat),
      ("backoff", Span.encode f.bootstrap.backoff)]),
    ("membership", .ofEntries [("retries", encodeNat f.membership.retries.toNat),
      ("timeout", Span.encode f.membership.timeout),
      ("poll_period", Span.encode f.membership.pollPeriod)]),
    ("poll", .ofEntries [("interval", Span.encode f.poll.interval),
      ("timeout", Span.encode f.poll.timeout)]),
    ("faults", .ofEntries [("stop_grace", Span.encode f.faults.stopGrace),
      ("call_timeout", Span.encode f.faults.callTimeout)])]

end FaultLab
