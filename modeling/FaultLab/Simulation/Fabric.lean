import FaultLab.Management
import FaultLab.Node
import FaultLab.Simulation.Detector

/-! # A cluster in memory

The `Fabric` is the world of the simulation: the members with their processes, power and blocks, and
the cluster's own view of them, which is a layout and a report.

* A reading of the management runs `Fabric.observe`: the detector looks at the members, the layout
  takes over what it finds if a quorum of servers is left, and the report is made anew.
* After a change of a member, `detectionLag` readings pass before the detector looks again.
* A test may ask for failures: of single operations, of provisioning, of submissions of the first
  layout, and of the whole management. -/

namespace FaultLab.Simulation

/-- A member as it physically is. -/
structure Member where
  status : NodeStatus
  power : PowerState
  blocked : EndpointSet
  destroyed : Bool
  resets : Nat
deriving DecidableEq

namespace Member

/-- A member that was just made. -/
def fresh : Member := ⟨.running, .on, .empty, false, 0⟩

instance : Inhabited Member := ⟨fresh⟩

/-- Whether the member serves. -/
def isUp (m : Member) : Bool := !m.destroyed && m.power = .on && m.status.isLive

end Member

/-- The world of the simulation. -/
structure Fabric where
  members : EndpointTable Member
  layout : Option Layout
  report : Option StatusReport
  detectionLag : Nat
  /-- Readings to come before the detector looks again. -/
  lagRemaining : Nat
  /-- Submissions of a first layout that are still to fail. -/
  bootstrapFailures : Nat
  /-- Submissions of a first layout so far. -/
  bootstrapAttempts : Nat
  managementDown : Bool
  /-- Operations whose next use is to fail. -/
  failNext : List (Endpoint × Operation)
  /-- Members that cannot be made. -/
  failProvision : List Nat
  /-- How long operations on a member take. -/
  latency : EndpointTable Nat
  prepared : Nat
  released : Nat
deriving DecidableEq

namespace Fabric

/-- A world without members. -/
def empty : Fabric where
  members := .empty
  layout := none
  report := none
  detectionLag := 0
  lagRemaining := 0
  bootstrapFailures := 0
  bootstrapAttempts := 0
  managementDown := false
  failNext := []
  failProvision := []
  latency := .empty
  prepared := 0
  released := 0

instance : Inhabited Fabric := ⟨empty⟩

/-! ### Members -/

/-- Something physical has changed, so the lag begins anew. -/
def touch (f : Fabric) : Fabric := { f with lagRemaining := f.detectionLag }

/-- Make a member. -/
def register (e : Endpoint) (f : Fabric) : Fabric :=
  touch { f with members := f.members.insert e .fresh }

/-- Change a member, if there is one. -/
def update (e : Endpoint) (change : Member → Member) (f : Fabric) : Fabric :=
  touch { f with members := f.members.update e change }

/-- The status of a member. -/
def status? (f : Fabric) (e : Endpoint) : Option NodeStatus :=
  (f.members.get? e).map Member.status

/-- Whether a member serves. -/
def isUp (f : Fabric) (e : Endpoint) : Bool :=
  match f.members.get? e with
  | some m => m.isUp
  | none => false

/-- The peers that a member blocks. -/
def blockedBy (f : Fabric) (e : Endpoint) : EndpointSet :=
  match f.members.get? e with
  | some m => m.blocked
  | none => .empty

/-- Whether a member exists and has no power. -/
def poweredOff (f : Fabric) (e : Endpoint) : Bool :=
  match f.members.get? e with
  | some m => m.power = .off
  | none => false

/-- How long operations on a member take. -/
def latencyOf (f : Fabric) (e : Endpoint) : Nat := (f.latency.get? e).getD 0

/-! ### What a test may ask for -/

/-- Have so many readings pass before a change shows. -/
def setDetectionLag (n : Nat) (f : Fabric) : Fabric :=
  { f with detectionLag := n, lagRemaining := n }

/-- Have the next submissions of a first layout fail. -/
def failBootstraps (n : Nat) (f : Fabric) : Fabric := { f with bootstrapFailures := n }

/-- Have the management fail, or work again. -/
def setManagementDown (down : Bool) (f : Fabric) : Fabric := { f with managementDown := down }

/-- Have the next use of an operation fail. -/
def failOnce (e : Endpoint) (op : Operation) (f : Fabric) : Fabric :=
  if f.failNext.contains (e, op) then f else { f with failNext := (e, op) :: f.failNext }

/-- Take note that an operation has failed as asked. -/
def spendFailure (e : Endpoint) (op : Operation) (f : Fabric) : Fabric :=
  { f with failNext := f.failNext.filter fun x => x ≠ (e, op) }

/-- Have the making of a member fail. -/
def failProvisioning (index : Nat) (f : Fabric) : Fabric :=
  { f with failProvision := index :: f.failProvision }

/-- Have operations on a member take some time. -/
def setLatency (e : Endpoint) (span : Nat) (f : Fabric) : Fabric :=
  { f with latency := f.latency.insert e span }

/-! ### The cluster's own view -/

/-- What the detector sees of the servers of a layout. -/
def vantages (f : Fabric) (l : Layout) : List Vantage :=
  (l.servers.filter f.isUp).map fun e => ⟨e, f.blockedBy e⟩

/-- The servers that the detector finds unresponsive: those that are not up, and those it cuts. -/
def detect (f : Fabric) (l : Layout) : EndpointSet :=
  .ofList ((l.servers.filter fun e => !f.isUp e) ++ cut (f.vantages l))

/-- Whether enough servers are left for a quorum. -/
def hasQuorum (l : Layout) (detected : EndpointSet) : Bool :=
  l.quorum ≤ l.servers.length - detected.size

/-- The layout after the detector has looked: a quorum takes over what was found. -/
def settle (detected : EndpointSet) (l : Layout) : Layout :=
  if detected ≠ l.unresponsive ∧ hasQuorum l detected then l.markUnresponsive detected else l

/-- The report on what the detector has found. -/
def reportOn (f : Fabric) (l : Layout) (detected : EndpointSet) : StatusReport where
  overall :=
    if detected.isEmpty then .stable else if hasQuorum l detected then .degraded else .unavailable
  connectivity := .ofList (l.servers.map fun e =>
    (e, if f.isUp e then .responsive else .unresponsive))
  health := .ofList (l.servers.map fun e => (e, if detected.contains e then .down else .up))
  reliability := if hasQuorum l detected then .strongQuorum else .weakNoQuorum

/-- Have the detector look at the servers of a layout. -/
def look (l : Layout) (f : Fabric) : Fabric :=
  let detected := f.detect l
  { f with layout := some (settle detected l), report := some (f.reportOn l detected) }

/-- A reading of the management: while the lag lasts, nothing is looked at. -/
def observe (f : Fabric) : Except ManagementError Fabric :=
  if f.managementDown then .error .gatewayDown
  else match f.layout with
    | none => .error .notBootstrapped
    | some l =>
      if f.report.isSome ∧ 0 < f.lagRemaining then
        .ok { f with lagRemaining := f.lagRemaining - 1 }
      else .ok (f.look l)

/-- Put a layout in place and have the detector look at once. -/
def commit (l : Layout) (f : Fabric) : Fabric :=
  let placed := { f with layout := some l, report := none }
  match placed.observe with
  | .ok seen => seen
  | .error _ => placed

/-- The event that the layout in place gives way to a later one with other unresponsive servers. -/
def settledEvents (old new : Option Layout) : List Event :=
  match old, new with
  | some l, some m =>
    if l.epoch = m.epoch then []
    else [.debug "sim layout change"
      [("epoch", .ofNat m.epoch.toNat), ("unresponsive", .ofNat m.unresponsive.size)]]
  | _, _ => []

end Fabric

end FaultLab.Simulation
