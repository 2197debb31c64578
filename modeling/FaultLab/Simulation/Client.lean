import FaultLab.Simulation.Fabric

/-! # Managing the simulated cluster

A client of the simulated management works on a `ClientState`: the fabric and the layout that this client
remembers.  Reading the layout and the status has the cluster look at itself; changes of the members
need a quorum of servers that are up and can talk to each other. -/

namespace FaultLab.Simulation

/-- The fabric as one client sees it, and the layout that the client remembers. -/
structure ClientState where
  fabric : Fabric
  memory : Option Layout

namespace Fabric

/-- Take a first layout in; the answer says whether it is to be put in place.  The layout of the
same cluster is in place already. -/
def submit (layout : Layout) (f : Fabric) : Except ManagementError Bool × Fabric :=
  let f := { f with bootstrapAttempts := f.bootstrapAttempts + 1 }
  if f.managementDown then (.error .gatewayDown, f)
  else if 0 < f.bootstrapFailures then
    (.error .targetNotReady, { f with bootstrapFailures := f.bootstrapFailures - 1 })
  else match f.layout with
    | some present =>
      if present.clusterId = layout.clusterId then (.ok false, f)
      else (.error .alreadyBootstrapped, f)
    | none =>
      match layout.validate with
      | .ok () => (.ok true, f)
      | .error cause => (.error (.invalidLayout cause), f)

/-- The layout to change for a member, if a quorum can agree on a change and knows the member. -/
def changeable (e : Endpoint) (f : Fabric) : Except ManagementError Layout :=
  match f.layout with
  | none => .error .notBootstrapped
  | some l =>
    if !hasQuorum l (f.detect l) then .error .noQuorum
    else if !f.members.contains e then .error (.unknownEndpoint e)
    else .ok l

/-- Have a member forget its state. -/
def resetMember (e : Endpoint) (f : Fabric) : Except ManagementError Unit × Fabric :=
  if f.managementDown then (.error .gatewayDown, f)
  else if f.isUp e then
    (.ok (), { f with members := f.members.update e fun m => { m with resets := m.resets + 1 } })
  else (.error (.notRunning e), f)

end Fabric

namespace ClientState

/-- Do something to the fabric, in one step. -/
def onFabric {α : Type} (act : Fabric → α × Fabric) : Call ClientState α :=
  Call.atomically fun d => ((act d.fabric).1, { d with fabric := (act d.fabric).2 })

/-- Forget the layout. -/
def forget : Call ClientState Unit := Call.modify fun d => { d with memory := none }

/-- Have the cluster look at itself; gives the fabric after that. -/
def observe : Attempt ClientState ManagementError Fabric := do
  let (before, seen) ← Attempt.lift (onFabric fun f =>
    match f.observe with
    | .ok g => ((f, .ok g), g)
    | .error e => ((f, .error e), f))
  let after ← Attempt.give seen
  Attempt.lift (Call.logAll (Fabric.settledEvents before.layout after.layout))
  return after

/-- Put a layout in place. -/
def commit (layout : Layout) : Call ClientState Unit := do
  let after ← onFabric fun f => (f.commit layout, f.commit layout)
  Call.logAll (Fabric.settledEvents (some layout) after.layout)

/-- The remembered layout, or the present one. -/
def getLayout : Attempt ClientState ManagementError Layout := do
  match ← Attempt.lift (Call.read ClientState.memory) with
  | some layout => return layout
  | none =>
    let f ← observe
    match f.layout with
    | some layout =>
      Attempt.lift (Call.modify fun d => { d with memory := some layout })
      return layout
    | none => Attempt.give (.error .notBootstrapped)

/-- The present report. -/
def getStatus : Attempt ClientState ManagementError StatusReport := do
  let f ← observe
  match f.report with
  | some report => return report
  | none => Attempt.give (.error .noReport)

/-- Submit a first layout. -/
def bootstrap (layout : Layout) : Attempt ClientState ManagementError Unit := do
  let accepted ← Attempt.lift (onFabric (Fabric.submit layout))
  if ← Attempt.give accepted then
    Attempt.lift (commit layout)
    Attempt.lift forget
    Attempt.log (.debug "sim cluster bootstrapped" [("servers", .ofNat layout.servers.length)])

/-- The layout with a server more, if it is not there yet; who is to join has to run. -/
def withServer (e : Endpoint) (l : Layout) : Attempt ClientState ManagementError (Option Layout) := do
  if l.contains e then
    return none
  else if ← Attempt.lift (Call.read fun d => d.fabric.isUp e) then
    return some (l.addServer e)
  else
    Attempt.give (.error (.notRunning e))

/-- The layout with a server less, if it is still there; the last one stays. -/
def withoutServer (e : Endpoint) (l : Layout) : Except ManagementError (Option Layout) :=
  if !l.contains e then .ok none
  else if l.servers.length = 1 then .error .lastServer
  else .ok (some (l.removeServer e))

/-- Change the layout for a member.  What is to be changed, whether the member runs, and the change
itself are three steps, and others may come in between. -/
def change (e : Endpoint) (next : Layout → Attempt ClientState ManagementError (Option Layout)) :
    Attempt ClientState ManagementError Unit := do
  let f ← observe
  let l ← Attempt.give (f.changeable e)
  match ← next l with
  | some layout => Attempt.lift (commit layout)
  | none => pure ()
  Attempt.lift forget

/-- The client in such a state. -/
def client : ManagementClient ClientState where
  getLayout := getLayout
  getStatus := getStatus
  invalidate := forget
  bootstrap := bootstrap
  add e _ := change e (withServer e)
  remove e _ := change e fun l => Attempt.give (withoutServer e l)
  reset e := Attempt.ofCall (onFabric (Fabric.resetMember e))

end ClientState

end FaultLab.Simulation
