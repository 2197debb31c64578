import FaultLab.Proofs.SimulatedSnapshots
import FaultLab.Proofs.Partitions

/-! # How long a wait takes to see a member that is down

A member that is stopped, killed or paused is down at once, but the lag begins anew with it
(`Post.result_halt`).  The detector then finds this member alone (`Fabric.detect_eq_singleton`), once it
looks.

An attempt of a wait makes two readings, of which the first one decides which layout it sees.  So the
attempts that see the member as it was are half as many as the lag has readings, rounded up
(`Lab.late_iff`), and the next one sees it down.  `Lab.lag_delays_wait` says when this attempt is made in a
deployed cluster, whatever has happened to the cluster before. -/

namespace FaultLab

/-! ### What a fault does that takes a member down -/

/-- The status of a process that a fault takes down. -/
def Fault.halt? : Fault → Option NodeStatus
  | stop => some .stopped
  | kill => some .killed
  | pause => some .paused
  | _ => none

namespace Simulation

namespace Handle
variable {h : Handle} {s : Seat} {m : Member} {fault : Fault} {status : NodeStatus}

/-- What takes a member down that is up changes its process and nothing else about it. -/
theorem result_halt (halts : fault.halt? = some status) (found : s.fabric.members.get? h.id = some m)
    (up : m.isUp = true) (calm : (h.id, fault.operation) ∉ s.fabric.failNext) (grace : Nat) :
    ∃ c, Attempt.result (fault.apply grace h.node) s =
      (.ok (), ⟨s.fabric.update h.id fun m => { m with status := status }, c⟩) := by
  have clear : ¬ s.fabric.failNext.contains (h.id, fault.operation) = true := fun asked =>
    calm (List.contains_iff_mem.mp asked)
  have physical : h.physical s = m.status := physical_eq found
  have lit : h.poweredOff s = decide (m.power = .off) := poweredOff_eq found
  obtain ⟨⟨-, on⟩, live⟩ : (m.destroyed = false ∧ m.power = .on) ∧ m.status.isLive = true := by
    simpa [Member.isUp] using up
  have alive : m.status ≠ .killed := by
    rintro dead
    rw [dead] at live
    cases live
  have thawed : m.status ≠ .paused := by
    rintro frozen
    rw [frozen] at live
    cases live
  cases fault with
  | stop =>
    cases halts
    refine ⟨(h.stopped s).commanded, ((h.result_change .stop h.stopped s).trans (if_neg clear)).trans ?_⟩
    rw [stopped, physical, if_neg alive]
    split <;> rfl
  | kill =>
    cases halts
    refine ⟨(h.killed s).commanded, ((h.result_change .kill h.killed s).trans (if_neg clear)).trans ?_⟩
    rw [killed, physical, if_pos (.inl live)]
    rfl
  | pause =>
    cases halts
    refine ⟨(h.paused s).2.commanded, ((h.result_perform .pause h.paused s).trans (if_neg clear)).trans ?_⟩
    rw [paused, physical, if_neg thawed, lit, on, live]
    rfl
  | _ => cases halts

end Handle

namespace Post
variable {p : Post} {lab : Lab} {m : Member} {fault : Fault} {status : NodeStatus}

theorem result_halt (there : p.number < lab.handles.length) (halts : fault.halt? = some status)
    (found : lab.fabric.members.get? p.id = some m) (up : m.isUp = true)
    (calm : (p.id, fault.operation) ∉ lab.fabric.failNext) (grace : Nat) :
    ∃ c, Attempt.result (fault.apply grace p.node) lab = (.ok (),
      p.seat.set ⟨lab.fabric.update p.id fun m => { m with status := status }, c⟩ lab) := by
  obtain ⟨c, halted⟩ := Handle.result_halt (s := p.seat.get lab) halts found up calm grace
  have atSeat : fault.apply grace p.node = (fault.apply grace p.handle.node).focus p.seat := by
    cases fault with
    | stop | kill | pause => rfl
    | _ => cases halts
  refine ⟨c, ?_⟩
  rw [atSeat, result_focus there, halted]
  rfl

end Post

/-! ### What the detector finds -/

namespace Fabric
variable {f : Fabric} {l : Layout} {x e : Endpoint} {status : NodeStatus}

/-- Where one server is down and the others are whole, the detector finds this one alone. -/
theorem detect_eq_singleton (distinct : l.servers.Nodup) (server : x ∈ l.servers) (down : f.isUp x = false)
    (whole : ∀ e ∈ l.servers, e ≠ x → f.Whole e) : f.detect l = .ofList [x] := by
  refine EndpointSet.ext fun e => ?_
  rw [EndpointSet.mem_ofList, List.mem_singleton]
  constructor
  · intro found
    by_contra other
    have sound := whole e (mem_servers_of_mem_detect found) other
    obtain ⟨b, there, up, -, severed⟩ := exists_severed_of_mem_detect distinct found sound.up
    have apart : b ≠ x := by
      rintro rfl
      rw [down] at up
      cases up
    rw [Severed, sound.blocks, (whole b there apart).blocks] at severed
    rcases severed with severed | severed
    · exact EndpointSet.not_mem_empty b severed
    · exact EndpointSet.not_mem_empty e severed
  · rintro rfl
    exact mem_detect.mpr (.inl ⟨server, down⟩)

/-- Of three servers or more, one that is found leaves a quorum, so it counts as unresponsive. -/
theorem settle_singleton (responsive : l.unresponsive = .empty) (many : 3 ≤ l.servers.length) :
    settle (.ofList [x]) l = l.markUnresponsive (.ofList [x]) := by
  have some : EndpointSet.ofList [x] ≠ .empty := fun none =>
    EndpointSet.not_mem_empty x (none ▸ EndpointSet.mem_ofList.mpr (List.mem_singleton_self x))
  have quorum : hasQuorum l (.ofList [x]) = true := by
    have size : (EndpointSet.ofList [x]).size = 1 := rfl
    rw [hasQuorum, decide_eq_true_eq, size, Layout.quorum]
    omega
  rw [settle, responsive, if_pos ⟨some, quorum⟩]

section halted
variable (status)

/-- The fabric after the process of a member has come to another status. -/
def halted (x : Endpoint) (f : Fabric) : Fabric := f.update x fun m => { m with status := status }

theorem get?_halted (e : Endpoint) : (f.halted status x).members.get? e =
    if e = x then (f.members.get? x).map fun m => { m with status := status } else f.members.get? e :=
  EndpointTable.get?_update

theorem blockedBy_halted (e : Endpoint) : (f.halted status x).blockedBy e = f.blockedBy e := by
  rw [blockedBy, blockedBy, get?_halted]
  by_cases own : e = x
  · rw [if_pos own, own]
    cases f.members.get? x <;> rfl
  · rw [if_neg own]

theorem isUp_halted_of_ne (other : e ≠ x) : (f.halted status x).isUp e = f.isUp e := by
  rw [isUp, isUp, get?_halted, if_neg other]

variable {status}

theorem isUp_halted (dead : status.isLive = false) : (f.halted status x).isUp x = false := by
  rw [isUp, get?_halted, if_pos rfl]
  cases f.members.get? x with
  | none => rfl
  | some m =>
    change Member.isUp { m with status := status } = false
    rw [Member.isUp, dead, Bool.and_false]

/-- One of three whole servers or more that comes to a halt is all that the next look finds. -/
theorem settle_halted (dead : status.isLive = false) (distinct : l.servers.Nodup)
    (many : 3 ≤ l.servers.length) (responsive : l.unresponsive = .empty) (server : x ∈ l.servers)
    (whole : ∀ e ∈ l.servers, f.Whole e) :
    settle ((f.halted status x).detect l) l = l.markUnresponsive (.ofList [x]) := by
  have found : (f.halted status x).detect l = .ofList [x] := by
    refine detect_eq_singleton distinct server (isUp_halted dead) fun e there other => ⟨?_, ?_⟩
    · rw [isUp_halted_of_ne status other]
      exact (whole e there).up
    · rw [blockedBy_halted]
      exact (whole e there).blocks
  rw [found, settle_singleton responsive many]

end halted

end Fabric

/-! ### Waits for a layout that is late -/

end Simulation

namespace Poller
variable {σ : Type} {p : Poller σ} {k : Nat}

theorem le_rounds (paced : 0 < p.policy.interval) (within : k * p.policy.interval ≤ p.policy.timeout) :
    k ≤ p.rounds ∧ p.due k = k * p.policy.interval := by
  refine ⟨Nat.le_of_mul_le_mul_right (Nat.le_trans within ?_) paced, Nat.min_eq_left within⟩
  exact Nat.mul_comm _ _ ▸ le_smul_ceilDiv paced

/-- If the deadline ends an interval, there are as many intervals before it as fit. -/
theorem rounds_of_dvd (paced : 0 < p.policy.interval) (whole : p.policy.interval ∣ p.policy.timeout) :
    p.rounds = p.policy.timeout / p.policy.interval := by
  obtain ⟨k, parts⟩ := whole
  rw [rounds, parts, Nat.mul_div_cancel_left k paced]
  exact smul_ceilDiv paced k

end Poller

namespace Simulation

namespace Lab
variable {lab : Lab} {l m : Layout} {number since : Nat} {policy : PollPolicy} {c : Condition}

/-- Attempts that come before the layout changes are half as many as the lag has readings. -/
theorem late_iff {lag k : Nat} : 2 * k + 1 ≤ lag ↔ k < (lag + 1) / 2 := by omega

/-- What a wait ends with for which the layout in place will not do and the next one will: it makes
attempts while the lag lasts, and one more, unless its deadline comes before that. -/
theorem wait_lagged (there : number < lab.memories.length) (up : lab.fabric.managementDown = false)
    (hl : lab.fabric.layout = some l) (reported : lab.fabric.report.isSome = true)
    (next : Fabric.settle (lab.fabric.detect l) l = m) (before : ∀ r, c.holds ⟨l, r⟩ = false)
    (after : ∀ r, c.holds ⟨m, r⟩ = true) (paced : 0 < policy.interval)
    (counted : lab.fabric.lagRemaining < 2 ^ 32) (shown : Deadline.Shown since policy.timeout) :
    let p : Poller Lab := ⟨client number, policy⟩
    let late := (lab.fabric.lagRemaining + 1) / 2
    (late ≤ p.rounds → ∃ r lab', (p.wait since none c).toCall.Leaves lab
      (.ok ⟨⟨m, r⟩, late + 1, p.due late⟩) lab' (p.due late)) ∧
    (p.rounds < late → ∃ r lab', (p.wait since none c).toCall.Leaves lab
      (.error (.timedOut c.text policy.timeout (p.rounds + 1) (some ⟨l, r⟩) none)) lab'
      policy.timeout) := by
  intro p late
  have numbered : late < Poller.maxAttempts := by
    have last : Poller.maxAttempts = 2 ^ 32 - 1 := rfl
    omega
  have plays : p.client.Plays ((client number).frames lab) ((client number).footage lab) _ :=
    plays_footage number lab
  -- The layout of an attempt is the one after its first reading.
  have frames : ∀ k, ∃ r, (client number).frames lab k = .ok ⟨if k < late then l else m, r⟩ := by
    intro k
    obtain ⟨m', r, frame, layout, -⟩ := shows_footage there up hl k
    rw [Fabric.layout_watched_iterate up hl reported, next, Option.some.injEq] at layout
    simp only [late_iff] at layout
    exact ⟨r, by rw [frame, ← layout]⟩
  have missed : ∀ k < late, ¬ c.HoldsIn ((client number).frames lab k) := by
    intro k early
    obtain ⟨r, frame⟩ := frames k
    rw [frame, if_pos early, Condition.HoldsIn, before]
    exact Bool.false_ne_true
  have unsignalled : ∀ d, ∀ t ∈ (none : Option Nat), d < t := fun _ _ h => nomatch h
  constructor
  · intro within
    obtain ⟨r, frame⟩ := frames late
    rw [if_neg (Nat.lt_irrefl late)] at frame
    have met := Poller.waitUncancelled_met plays paced within numbered frame (after r) missed
    exact ⟨r, _, (Poller.wait_unsignalled shown met (unsignalled _)).leaves.1⟩
  · intro beyond
    have last := Poller.waitUncancelled_late plays paced (Nat.lt_trans beyond numbered) fun k within =>
      missed k (Nat.lt_of_le_of_lt within beyond)
    obtain ⟨r, frame⟩ := frames p.rounds
    rw [if_pos beyond] at frame
    have known : Seen.lastShot ((client number).frames lab) (p.rounds + 1) = some ⟨l, r⟩ := by
      rw [Seen.lastShot, List.range_succ, List.filterMap_append]
      simp [frame, Except.toOption]
    rw [known, frame] at last
    exact ⟨r, _, (Poller.wait_unsignalled shown last (unsignalled _)).leaves.1⟩

/-- The same in virtual time, where a deadline that comes too early ends an interval. -/
theorem wait_delayed (there : number < lab.memories.length) (up : lab.fabric.managementDown = false)
    (hl : lab.fabric.layout = some l) (reported : lab.fabric.report.isSome = true)
    (next : Fabric.settle (lab.fabric.detect l) l = m) (before : ∀ r, c.holds ⟨l, r⟩ = false)
    (after : ∀ r, c.holds ⟨m, r⟩ = true) (paced : 0 < policy.interval)
    (counted : lab.fabric.lagRemaining < 2 ^ 32) (shown : Deadline.Shown since policy.timeout) :
    let wait := Poller.wait ⟨client number, policy⟩ since none c
    let late := (lab.fabric.lagRemaining + 1) / 2
    (late * policy.interval ≤ policy.timeout → ∃ r lab', wait.toCall.Leaves lab
      (.ok ⟨⟨m, r⟩, late + 1, late * policy.interval⟩) lab' (late * policy.interval)) ∧
    (policy.timeout < late * policy.interval → policy.interval ∣ policy.timeout → ∃ r lab',
      wait.toCall.Leaves lab (.error (.timedOut c.text policy.timeout
        (policy.timeout / policy.interval + 1) (some ⟨l, r⟩) none)) lab' policy.timeout) := by
  intro wait late
  obtain ⟨seen, missed⟩ := wait_lagged there up hl reported next before after paced counted shown
  constructor
  · intro within
    obtain ⟨rounds, due⟩ := Poller.le_rounds (p := ⟨client number, policy⟩) paced within
    obtain ⟨r, lab', leaves⟩ := seen rounds
    rw [due] at leaves
    exact ⟨r, lab', leaves⟩
  · intro short whole
    have early : policy.timeout / policy.interval < late := by
      rw [Nat.div_lt_iff_lt_mul paced]
      exact short
    rw [Poller.rounds_of_dvd paced whole] at missed
    exact missed early

end Lab

/-! ### Whatever has happened to a cluster -/

/-- Something that happens to a deployed cluster: an injection, with whatever patience for the calls of a
batch, or anything else that can happen in its lab. -/
inductive Episode where
  | fault (callTimeout : Nat) (i : Injection)
  | deed (d : Deed)

/-- The lab after an episode. -/
def Episode.occur (inj : Injector Lab) (lab : Lab) : Episode → Lab
  | fault callTimeout i => (({ inj with callTimeout := callTimeout }.make i).result lab).2
  | deed d => lab.perform d

/-- The lab after some episodes. -/
def Lab.lived (inj : Injector Lab) (lab : Lab) (episodes : List Episode) : Lab :=
  episodes.foldl (Episode.occur inj) lab

namespace Lab
variable {start made lab lab' : Lab} {flavor : Flavor} {fixture : Fixture} {identity : Uuid} {g : Group Lab}
  {l : Layout} {number : Nat} {d : Deed}

/-- What lasts in a lab: the handles and clients, and the report on a layout in place. -/
structure Lasts (lab lab' : Lab) : Prop where
  handles : lab.handles.length ≤ lab'.handles.length
  memories : lab.memories.length ≤ lab'.memories.length
  informed : lab.fabric.Informed → lab'.fabric.Informed

theorem Lasts.refl (lab : Lab) : lab.Lasts lab := ⟨Nat.le_refl _, Nat.le_refl _, id⟩

theorem Lasts.trans {lab'' : Lab} (h : lab.Lasts lab') (h' : lab'.Lasts lab'') : lab.Lasts lab'' :=
  ⟨Nat.le_trans h.handles h'.handles, Nat.le_trans h.memories h'.memories, h'.informed ∘ h.informed⟩

theorem handles_perform : lab.handles.length ≤ (lab.perform d).handles.length := by
  cases d with
  | provision flavor index fixture =>
    rw [perform, result_provision]
    split
    · exact Nat.le_refl _
    · rw [List.length_append]
      exact Nat.le_add_right _ _
  | attach h =>
    change _ ≤ (lab.handles ++ [firstCommand]).length
    rw [List.length_append]
    exact Nat.le_add_right _ _
  | command n h cmd deadline =>
    exact command_keeps (I := fun after => lab.handles.length ≤ after.handles.length)
      (fun after t _ _ most => by rwa [seat, List.length_set]) (Nat.le_refl _) cmd deadline
  | request n req => exact Nat.le_of_eq (congrArg List.length (handles_request lab n req)).symm
  | _ => exact Nat.le_refl _

theorem clients_perform : lab.memories.length ≤ (lab.perform d).memories.length := by
  obtain ⟨n, req, rfl⟩ | other := d.request_or_other
  · by_cases there : n < lab.memories.length
    · rw [perform_request there]
      exact Nat.le_of_eq List.length_set.symm
    · rw [perform, if_neg there]
  · rcases (view_perform other).2 with same | more
    · exact Nat.le_of_eq (congrArg List.length same).symm
    · rw [more, List.length_append]
      exact Nat.le_add_right _ _

theorem lasts_perform (lab : Lab) (d : Deed) : lab.Lasts (lab.perform d) :=
  ⟨handles_perform, clients_perform, informed_perform⟩

theorem lasts_of_acts {fleet : Fleet} {cmds : Command → Prop}
    (acts : fleet.Acts cmds lab lab') : lab.Lasts lab' := by
  obtain ⟨p, -, cmd, -, t, does, rfl⟩ := acts
  have frame := does.move.alikeBeyond
  refine ⟨Nat.le_of_eq List.length_set.symm, Nat.le_refl _, fun informed placed => ?_⟩
  change t.fabric.report.isSome = true
  rw [frame.report]
  exact informed (frame.layout ▸ placed)

/-- Whatever happens to a cluster, its handles and its client stay, and a layout in place has a report. -/
theorem lasts_lived (fleet : Fleet) {inj : Injector Lab} (nodes : inj.nodes = fleet.nodes) (lab : Lab)
    (episodes : List Episode) : lab.Lasts (lab.lived inj episodes) := by
  induction episodes generalizing lab with
  | nil => exact .refl lab
  | cons episode episodes ih =>
    refine Lasts.trans ?_ (ih (episode.occur inj lab))
    cases episode with
    | deed d => exact lasts_perform lab d
    | fault callTimeout i =>
      have nodes : ({ inj with callTimeout := callTimeout } : Injector Lab).nodes = fleet.nodes := nodes
      have steps := Injector.steps_make (fleet.steps_told nodes) i
      exact steps.keeps (fun _ _ acts lasted => lasted.trans (lasts_of_acts acts)) (.refl lab)

theorem up_of_bootstrap (there : number < lab.memories.length)
    (taken : Attempt.result ((client number).bootstrap l) lab = (.ok (), lab')) :
    lab.fabric.managementDown = false := by
  by_contra down
  have refused : lab.fabric.submit l = (.error .gatewayDown,
      { lab.fabric with bootstrapAttempts := lab.fabric.bootstrapAttempts + 1 }) :=
    if_pos (eq_true_of_ne_false down)
  rw [result_bootstrap there, refused] at taken
  cases taken

theorem informed_of_deploy (fresh : ∀ l ∈ start.fabric.layout, l.clusterId ≠ identity)
    (deployed : ((orchestrator flavor).deploy fixture identity).result start = (.ok g, made)) :
    made.fabric.Informed := by
  obtain ⟨nodes, _, rfl, -, s₁, s₂, s₃, prepared, provisioned, connected, submitted⟩ :=
    Orchestrator.deploy_eq_ok deployed
  rw [result_prepare] at prepared
  cases prepared
  obtain ⟨-, enlists⟩ := provisionAll_eq_ok provisioned
  rw [result_connector] at connected
  cases connected
  let connected : Lab := { s₂ with memories := s₂.memories ++ [none] }
  have there : s₂.memories.length < connected.memories.length := by
    rw [List.length_append]
    exact Nat.lt_succ_self _
  obtain ⟨u, awaits, taken⟩ := Orchestrator.submit_eq_ok (I := connected.Awaits)
    (fun _ _ _ awaits refused => awaits.refused there refused) (.refl connected) submitted
  have bare : u.fabric.layout = start.fabric.layout := awaits.layout.trans enlists.layout
  have there : s₂.memories.length < u.memories.length := awaits.memories ▸ there
  obtain ⟨-, -, committed⟩ := bootstrap_eq_ok there (bare ▸ fresh) taken
  obtain ⟨attempts, failures, counted⟩ := Fabric.submit_eq
    (.initial (nodes.map Node.id) identity) u.fabric
  have up : (u.fabric.submit (.initial (nodes.map Node.id) identity)).2.managementDown = false := by
    rw [counted]
    exact up_of_bootstrap there taken
  rw [committed]
  exact Fabric.informed_commit up _

end Lab

end Simulation

namespace Group
open Simulation

/-- A deployed cluster in which all is well, whatever its lag: the members are up and block nobody, they
are the servers of the layout in place, of which nobody counts as unresponsive, and the management is
up. -/
structure Well (g : Group Lab) (l : Layout) (lab : Lab) : Prop where
  whole : ∀ e ∈ g.endpoints, lab.fabric.Whole e
  layout : lab.fabric.layout = some l
  servers : l.servers.Perm g.endpoints
  responsive : l.unresponsive = .empty
  up : lab.fabric.managementDown = false

end Group

namespace Simulation

/-- What a fault leaves that takes a member down, in a cluster in which all is well: the lag begins anew,
and the detector is to find this member alone. -/
theorem Fleet.halts {fleet : Fleet} {lab : Lab} {l : Layout} {fixture : Fixture} {number i : Nat}
    {x : Endpoint} {fault : Fault} {status : NodeStatus} (there : fleet.There lab)
    (well : (fleet.group fixture number).Well l lab) (many : 3 ≤ fleet.posts.length)
    (here : (fleet.group fixture number).endpoints[i]? = some x) (halts : fault.halt? = some status)
    (calm : (x, fault.operation) ∉ lab.fabric.failNext) :
    ∃ struck, ((fleet.group fixture number).injector.inject fault i).result lab = (.ok (), struck) ∧
      struck.memories = lab.memories ∧ struck.fabric = lab.fabric.halted status x ∧
      Fabric.settle (struck.fabric.detect l) l = l.markUnresponsive (.ofList [x]) := by
  obtain ⟨p, found, rfl⟩ := Fleet.exists_post here
  have hp := List.mem_of_getElem? found
  have member : p.id ∈ (fleet.group fixture number).endpoints := List.mem_of_getElem? here
  have whole := well.whole p.id member
  have distinct : l.servers.Nodup := by
    rw [well.servers.nodup_iff, Fleet.endpoints_group]
    exact fleet.ids
  have count : 3 ≤ l.servers.length := by
    rw [well.servers.length_eq, Fleet.endpoints_group, Fleet.endpoints, List.length_map]
    exact many
  have dead : status.isLive = false := by
    cases fault with
    | stop | kill | pause =>
      cases halts
      rfl
    | _ => cases halts
  have up := whole.up
  rw [Fabric.isUp] at up
  cases listed : lab.fabric.members.get? p.id with
  | none =>
    rw [listed] at up
    cases up
  | some m =>
    rw [listed] at up
    obtain ⟨c, halted⟩ := Post.result_halt (there p hp) halts listed up calm fixture.faults.stopGrace
    refine ⟨p.seat.set ⟨lab.fabric.halted status p.id, c⟩ lab, ?_, rfl, rfl, ?_⟩
    · have nodes : (fleet.group fixture number).injector.nodes = fleet.nodes := rfl
      rw [Injector.inject, Fleet.node_eq_ok nodes found]
      exact halted
    · exact Fabric.settle_halted dead distinct count well.responsive
        (well.servers.mem_iff.mpr member) fun e server => well.whole e (well.servers.mem_iff.mp server)

namespace Lab
variable {start made lab : Lab} {flavor : Flavor} {fixture : Fixture} {identity : Uuid} {g : Group Lab}
  {l : Layout}

/-- **A lag delays a wait by an exact number of attempts.**  Whatever has happened to a deployed cluster of
three members or more in which all is well: a stop, kill or pause of any member succeeds unless it was to
fail.  A wait for this member to count as unresponsive then misses it half as many times as the lag has
readings, rounded up, and finds it with the next attempt, alone and one epoch later.  If the deadline
comes before that, at the end of an interval, the wait times out, and has seen nothing change.  The lag is
counted in thirty-two bits, and the deadline is a time that the clock will show. -/
theorem lag_delays_wait (fresh : ∀ l ∈ start.fabric.layout, l.clusterId ≠ identity)
    (deployed : ((orchestrator flavor).deploy fixture identity).result start = (.ok g, made))
    (episodes : List Episode) (reached : made.lived g.injector episodes = lab) (well : g.Well l lab)
    (many : 3 ≤ g.nodes.length) {i : Nat} {x : Endpoint} (here : g.endpoints[i]? = some x)
    {fault : Fault} (halts : fault ∈ [Fault.stop, Fault.kill, Fault.pause])
    (calm : (x, fault.operation) ∉ lab.fabric.failNext) (counted : lab.fabric.detectionLag < 2 ^ 32) :
    ∃ struck, (g.injector.inject fault i).result lab = (.ok (), struck) ∧
      ∀ (policy : PollPolicy) (since : Nat), 0 < policy.interval → Deadline.Shown since policy.timeout →
        let wait := Poller.wait ⟨g.management, policy⟩ since none (.unresponsive x)
        let late := (lab.fabric.detectionLag + 1) / 2
        (late * policy.interval ≤ policy.timeout → ∃ shot lab',
          wait.toCall.Leaves struck (.ok ⟨shot, late + 1, late * policy.interval⟩) lab'
            (late * policy.interval) ∧
          shot.layout = { l with unresponsive := .ofList [x], epoch := l.epoch + 1 }) ∧
        (policy.timeout < late * policy.interval → policy.interval ∣ policy.timeout → ∃ shot lab',
          wait.toCall.Leaves struck (.error (.timedOut (Condition.unresponsive x).text policy.timeout
            (policy.timeout / policy.interval + 1) (some shot) none)) lab' policy.timeout ∧
          shot.layout = l) := by
  have informed := informed_of_deploy fresh deployed
  obtain ⟨rfl, -, client, sound⟩ := deploy_eq_ok fresh deployed
  generalize Fleet.recruited flavor fixture.backend.memberPort start.handles.length 0 fixture.nodeCount =
    fleet at *
  have lasts : made.Lasts lab := by
    rw [← reached]
    exact lasts_lived fleet rfl made episodes
  have there : fleet.There lab := fun p hp => Nat.lt_of_lt_of_le (sound.fit p hp).1 lasts.handles
  have client : start.memories.length < lab.memories.length := Nat.lt_of_lt_of_le client lasts.memories
  have reported : lab.fabric.report.isSome = true := by
    refine lasts.informed informed ?_
    rw [well.layout]
    rfl
  have many : 3 ≤ fleet.posts.length := by
    rw [Fleet.nodes, List.length_map] at many
    exact many
  obtain ⟨status, halts⟩ : ∃ status, fault.halt? = some status := by
    simp only [List.mem_cons, List.not_mem_nil, or_false] at halts
    rcases halts with rfl | rfl | rfl <;> exact ⟨_, rfl⟩
  have well : (fleet.group fixture start.memories.length).Well l lab := well
  obtain ⟨struck, done, memories, fabric, next⟩ := Fleet.halts there well many here halts calm
  refine ⟨struck, done, ?_⟩
  intro policy since paced shown wait late
  -- The layout in place will not do, as nobody counts as unresponsive in it.
  have before : ∀ r, (Condition.unresponsive x).holds ⟨l, r⟩ = false := by
    intro r
    change l.unresponsive.contains x = false
    rw [well.responsive]
    rfl
  have after : ∀ r, (Condition.unresponsive x).holds ⟨l.markUnresponsive (.ofList [x]), r⟩ = true :=
    fun r => EndpointSet.contains_iff.mpr (EndpointSet.mem_ofList.mpr (List.mem_singleton_self x))
  have client : start.memories.length < struck.memories.length := memories ▸ client
  have lag : struck.fabric.lagRemaining = lab.fabric.detectionLag := by
    rw [fabric]
    rfl
  obtain ⟨seen, missed⟩ := wait_delayed client
    (by rw [fabric]; exact well.up) (by rw [fabric]; exact well.layout)
    (by rw [fabric]; exact reported) next before after paced (lag ▸ counted) shown
  rw [lag] at seen missed
  refine ⟨fun within => ?_, fun short whole => ?_⟩
  · obtain ⟨r, lab', leaves⟩ := seen within
    exact ⟨_, lab', leaves, rfl⟩
  · obtain ⟨r, lab', leaves⟩ := missed short whole
    exact ⟨_, lab', leaves, rfl⟩

/-- One of three machines was down for a while, and three readings are to pass before the detector looks. -/
def lull : List Episode :=
  [.fault 10 (.inject .stop 2), .deed (.request 0 .getStatus), .fault 10 (.inject .start 2),
    .deed (.request 0 .getStatus), .deed (.set (.latency (endpointAt 1 9000) 7)),
    .deed (.set (.detectionLag 3))]

/-- The lab after that. -/
def lulled : Lab := drillDeployed.2.lived (drillFleet.injector .default) lull

/-- The layout that is in place then: one machine was marked, and is no longer. -/
def lullLayout : Layout := { Layout.initial drillFleet.endpoints (.ofNat 7) with epoch := 2 }

theorem deployed_drill :
    drillDeployed = (.ok (drillFleet.group (.simulated 3) 0), drillDeployed.2) := by
  have deploys : drillDeployed.1.toOption.isSome = true := by decide +kernel
  obtain ⟨g, taken⟩ := Option.isSome_iff_exists.mp deploys
  have deployed : drillDeployed = (.ok g, drillDeployed.2) := Attempt.eq_ok_of_toOption taken
  have fresh : ∀ l ∈ empty.fabric.layout, l.clusterId ≠ .ofNat 7 := by
    rintro l ⟨⟩
  obtain ⟨rfl, -⟩ := deploy_eq_ok fresh deployed
  exact deployed

theorem well_lulled : (drillFleet.group (.simulated 3) 0).Well lullLayout lulled := by
  have layout : lulled.fabric.layout = some lullLayout := by decide +kernel
  have up : ∀ e ∈ drillFleet.endpoints, lulled.fabric.isUp e = true := by decide +kernel
  have blocks : ∀ e ∈ drillFleet.endpoints, lulled.fabric.blockedBy e = .empty := by decide +kernel
  have endpoints : (drillFleet.group (.simulated 3) 0).endpoints = drillFleet.endpoints :=
    Fleet.endpoints_group
  refine ⟨fun e mem => ?_, layout, ?_, rfl, by decide +kernel⟩
  · rw [endpoints] at mem
    exact ⟨up e mem, blocks e mem⟩
  · rw [endpoints]
    exact .refl _

theorem lag_delays_wait_lull : ∃ (g : Group Lab) (l : Layout) (struck : Lab), drillDeployed.1 = .ok g ∧
    g.Well l lulled ∧ (g.injector.inject .pause 1).result lulled = (.ok (), struck) ∧
      (∃ shot lab', (Poller.wait ⟨g.management, ⟨5, 12⟩⟩ 40 none
          (.unresponsive (endpointAt 1 9000))).toCall.Leaves struck (.ok ⟨shot, 3, 10⟩) lab' 10 ∧
        shot.layout.unresponsive = .ofList [endpointAt 1 9000] ∧ shot.layout.epoch = 3) ∧
      ∃ e lab', (Poller.wait ⟨g.management, ⟨5, 5⟩⟩ 40 none
          (.unresponsive (endpointAt 1 9000))).toCall.Leaves struck (.error e) lab' 5 := by
  have fresh : ∀ l ∈ empty.fabric.layout, l.clusterId ≠ .ofNat 7 := by
    rintro l ⟨⟩
  have lag : lulled.fabric.detectionLag = 3 := by decide +kernel
  have calm : (endpointAt 1 9000, Fault.pause.operation) ∉ lulled.fabric.failNext := by decide +kernel
  have many : 3 ≤ (drillFleet.group (.simulated 3) 0).nodes.length := by decide +kernel
  have reached : drillDeployed.2.lived (drillFleet.injector .default) lull = lulled := rfl
  obtain ⟨struck, done, waits⟩ := lag_delays_wait fresh deployed_drill lull reached well_lulled many
    (i := 1) (x := endpointAt 1 9000) rfl (by decide) calm (by rw [lag]; decide)
  rw [lag] at waits
  obtain ⟨shot, lab', leaves, layout⟩ := (waits ⟨5, 12⟩ 40 (by decide) (by decide)).1 (by decide)
  obtain ⟨_, lab'', late, -⟩ := (waits ⟨5, 5⟩ 40 (by decide) (by decide)).2 (by decide) (by decide)
  have responds : shot.layout.unresponsive = .ofList [endpointAt 1 9000] := by rw [layout]
  have next : shot.layout.epoch = 3 := by
    rw [layout]
    rfl
  exact ⟨_, _, struck, congrArg Prod.fst deployed_drill, well_lulled, done,
    ⟨shot, lab', leaves, responds, next⟩, _, lab'', late⟩

/-- With a deadline that no clock shows, the same wait does not even make the attempts that there is time
for: the program ends. -/
theorem wait_on_lull_ends_program :
    let g := drillFleet.group (.simulated 3) 0
    let policy : PollPolicy := ⟨5, Span.horizon⟩
    drillDeployed.1 = .ok g ∧ g.Well lullLayout lulled ∧ 3 ≤ g.nodes.length ∧
      (lulled.fabric.detectionLag + 1) / 2 * policy.interval ≤ policy.timeout ∧
      ∃ struck, (g.injector.inject .pause 1).result lulled = (.ok (), struck) ∧
        (Poller.wait ⟨g.management, policy⟩ 0 none (.unresponsive (endpointAt 1 9000))).toCall.Leaves struck
          (.error (.crashed .deadline)) struck 0 := by
  intro g policy
  have paused : ((g.injector.inject .pause 1).result lulled).1.toOption = some () := by decide +kernel
  exact ⟨congrArg Prod.fst deployed_drill, well_lulled, by decide +kernel, by decide +kernel, _,
    Attempt.eq_ok_of_toOption paused, (Poller.wait_unshown (by decide) _ _ _).leaves.1⟩

end Lab

end Simulation

end FaultLab
