import FaultLab.Proofs.Instructions
import FaultLab.Proofs.Symmetries

/-! # Partitions and broken links, from the first block to the last

A `Fleet.Drill` is a fault and its cure, between which one member is the hub of all broken links.  The
next snapshot counts the hub alone as unresponsive; the one after the cure counts nobody
(`Fleet.Drill.overcome`).

Cutting a member off is a drill (`Fleet.drill_partition`), and so is breaking a link
(`Fleet.drill_linkFailure`).  `Lab.partition_and_link_failure_healed` concludes what becomes of them in
a deployed cluster of any size. -/

namespace FaultLab

namespace Simulation

/-! ### Snapshots when nothing is left to count -/

namespace Fabric
variable {f : Fabric} {l : Layout}

theorem observe_due (up : f.managementDown = false) (hl : f.layout = some l) (due : f.lagRemaining = 0) :
    f.observe = .ok (f.look l) := by
  rw [observe_of_layout up hl, if_neg]
  exact fun waiting => Nat.ne_of_gt waiting.2 due

/-- What a look at a layout shows. -/
def shown (f : Fabric) (l : Layout) : Snapshot := ⟨settle (f.detect l) l, f.reportOn l (f.detect l)⟩

/-- Of many servers that are whole but for the hub of all broken links, the hub alone counts as
unresponsive. -/
theorem shown_hub {w : Endpoint} (distinct : l.servers.Nodup) (many : 3 ≤ l.servers.length)
    (responsive : l.unresponsive = .empty) (up : ∀ e ∈ l.servers, f.isUp e = true)
    (hub : Hub f.Severed l.servers w) :
    (f.shown l).layout = l.markUnresponsive (.ofList [w]) ∧ (f.shown l).status.overall = .degraded ∧
      (f.shown l).status.reliability = .strongQuorum := by
  have found : f.detect l = .ofList [w] := detect_eq_hub hub distinct up
  have some : EndpointSet.ofList [w] ≠ .empty := fun none =>
    EndpointSet.not_mem_empty w (none ▸ EndpointSet.mem_ofList.mpr (List.mem_singleton_self w))
  have listed : (EndpointSet.ofList [w]).isEmpty = false := rfl
  have quorum : hasQuorum l (.ofList [w]) = true := by
    have size : (EndpointSet.ofList [w]).size = 1 := rfl
    rw [hasQuorum, decide_eq_true_eq, size, Layout.quorum]
    omega
  rw [shown, found, settle, responsive, if_pos ⟨some, quorum⟩]
  simp [reportOn, listed, quorum]

/-- Where all servers are whole again, nobody counts as unresponsive any more. -/
theorem shown_whole (distinct : l.servers.Nodup) (servers : l.servers ≠ [])
    (unresponsive : l.unresponsive ≠ .empty) (whole : ∀ e ∈ l.servers, f.Whole e) :
    (f.shown l).layout = l.markUnresponsive .empty ∧ (f.shown l).status.overall = .stable := by
  have quorum : hasQuorum l .empty = true := hasQuorum_of_isEmpty servers rfl
  rw [shown, detect_eq_empty distinct whole, settle, if_pos ⟨unresponsive.symm, quorum⟩]
  exact ⟨rfl, rfl⟩

end Fabric

/-- When nothing is left to count, a snapshot looks, and its second look finds what the first one did. -/
theorem ClientState.result_snapshot {d : ClientState} {l : Layout} (up : d.fabric.managementDown = false)
    (hl : d.fabric.layout = some l) (due : d.fabric.lagRemaining = 0) :
    Attempt.result client.snapshot d =
      (.ok (d.fabric.shown l), ⟨d.fabric.look l, some (d.fabric.shown l).layout⟩) := by
  have first : d.fabric.observe = .ok (d.fabric.look l) := Fabric.observe_due up hl due
  have second : (d.fabric.look l).observe = .ok (d.fabric.look l) := by
    have again := Fabric.observe_due (f := d.fabric.look l) up rfl due
    rw [Fabric.look_look] at again
    exact again
  rw [ManagementClient.snapshot, Attempt.result_bind, Attempt.result_lift, client]
  simp only [forget, Call.result_modify, Attempt.result_bind, result_getLayout, result_getStatus, first]
  have layout : (d.fabric.look l).layout = some (d.fabric.shown l).layout := rfl
  have report : (d.fabric.look l).report = some (d.fabric.shown l).status := rfl
  simp only [layout, second, report, Attempt.result_pure]

theorem Lab.result_snapshot {lab : Lab} {l : Layout} {number : Nat} (there : number < lab.memories.length)
    (up : lab.fabric.managementDown = false) (hl : lab.fabric.layout = some l)
    (due : lab.fabric.lagRemaining = 0) :
    Attempt.result (client number).snapshot lab = (.ok (lab.fabric.shown l),
      (clientState number).set ⟨lab.fabric.look l, some (lab.fabric.shown l).layout⟩ lab) := by
  have atClient := Call.result_focus (lawful_clientState number) ClientState.client.snapshot.toCall there
  have taken := ClientState.result_snapshot (d := (clientState number).get lab) up hl due
  rw [client, ManagementClient.snapshot_focus]
  refine atClient.trans ?_
  change ((Attempt.result ClientState.client.snapshot ((clientState number).get lab)).1, _) = _
  rw [Attempt.result] at taken
  rw [Attempt.result, taken]
  rfl

/-! ### Drills -/

namespace Fleet
variable {fleet : Fleet} {lab lab' : Lab} {p q : Post} {i a b number : Nat} {inj : Injector Lab} {l : Layout}
  {blocks blocks' : Endpoint → Endpoint → Prop} {x y hub : Endpoint} {fault cure : Attempt Lab Failure Unit}

namespace Shows

theorem isUp (shows : fleet.Shows blocks lab) (member : x ∈ fleet.endpoints) : lab.fabric.isUp x = true := by
  obtain ⟨p, hp, rfl⟩ := List.mem_map.mp member
  obtain ⟨-, m, found, bars⟩ := shows.bars p hp
  have found : lab.fabric.members.get? p.id = some m := found
  rw [Fabric.isUp, found]
  exact bars.up

theorem mem_blockedBy (shows : fleet.Shows blocks lab) (member : x ∈ fleet.endpoints) :
    y ∈ lab.fabric.blockedBy x ↔ blocks x y := by
  obtain ⟨p, hp, rfl⟩ := List.mem_map.mp member
  obtain ⟨-, m, found, bars⟩ := shows.bars p hp
  have found : lab.fabric.members.get? p.id = some m := found
  rw [Fabric.blockedBy, found]
  exact bars.blocks y

/-- Whom the members block does not depend on layouts and reports. -/
theorem of_members (shows : fleet.Shows blocks lab) (handles : lab'.handles = lab.handles)
    (members : lab'.fabric.members = lab.fabric.members)
    (failures : lab'.fabric.failNext = lab.fabric.failNext) : fleet.Shows blocks lab' where
  bars p hp := by
    obtain ⟨there, m, found, bars⟩ := shows.bars p hp
    have command : lab'.commandedBy p.number = lab.commandedBy p.number := by
      rw [Lab.commandedBy, Lab.commandedBy, handles]
    refine ⟨handles ▸ there, m, ?_, ?_⟩
    · change lab'.fabric.members.get? p.id = some m
      rw [members]
      exact found
    · change Barring (blocks p.id) m (lab'.commandedBy p.number)
      rw [command]
      exact bars
  calm e mem op := failures ▸ shows.calm e mem op

end Shows

theorem Shows.whole (shows : fleet.Shows nobody lab) (member : x ∈ fleet.endpoints) : lab.fabric.Whole x where
  up := shows.isUp member
  blocks := EndpointSet.ext fun y => iff_of_false (fun block => (shows.mem_blockedBy member).mp block)
    (EndpointSet.not_mem_empty y)

/-- A fleet that is all servers of a layout in place, with the management up and no lag, seen by a
client. -/
structure Serves (fleet : Fleet) (number : Nat) (blocks : Endpoint → Endpoint → Prop) (l : Layout)
    (lab : Lab) : Prop where
  shows : fleet.Shows blocks lab
  client : number < lab.memories.length
  layout : lab.fabric.layout = some l
  servers : l.servers.Perm fleet.endpoints
  up : lab.fabric.managementDown = false
  prompt : lab.fabric.detectionLag = 0

namespace Serves

theorem distinct (serves : fleet.Serves number blocks l lab) : l.servers.Nodup :=
  serves.servers.nodup_iff.mpr fleet.ids

theorem stirred (serves : fleet.Serves number blocks l lab) (shows : fleet.Shows blocks' lab')
    (stirs : fleet.Stirs lab lab') : fleet.Serves number blocks' l lab' where
  shows := shows
  client := stirs.memories ▸ serves.client
  layout := by
    rw [stirs.fabric.rest]
    exact serves.layout
  servers := serves.servers
  up := by
    rw [stirs.fabric.rest]
    exact serves.up
  prompt := by
    rw [stirs.fabric.rest]
    exact serves.prompt

/-- Where somebody blocks others than before, the lag began anew, and without a lag nothing is left to
count. -/
theorem due (serves : fleet.Serves number blocks l lab) (shows : fleet.Shows blocks' lab')
    (stirs : fleet.Stirs lab lab') (member : x ∈ fleet.endpoints) (turned : ¬ (blocks x y ↔ blocks' x y)) :
    lab'.fabric.lagRemaining = 0 := by
  rcases stirs.fabric.touched with same | anew
  · rw [← serves.shows.mem_blockedBy member, ← shows.mem_blockedBy member, same] at turned
    exact absurd Iff.rfl turned
  · exact anew.trans serves.prompt

theorem snapshot (serves : fleet.Serves number blocks l lab) (due : lab.fabric.lagRemaining = 0) :
    ∃ lab', Attempt.result (Lab.client number).snapshot lab = (.ok (lab.fabric.shown l), lab') ∧
      fleet.Serves number blocks (lab.fabric.shown l).layout lab' ∧
      lab'.fabric.members = lab.fabric.members := by
  refine ⟨_, Lab.result_snapshot serves.client serves.up serves.layout due, ?_, rfl⟩
  refine ⟨serves.shows.of_members rfl rfl rfl, ?_, rfl, ?_, serves.up, serves.prompt⟩
  · exact (Lab.lawful_clientState number).stays _ lab serves.client
  · rw [Fabric.shown, Fabric.servers_settle]
    exact serves.servers

/-- Once blocks have changed, a snapshot looks at once. -/
theorem snapshot_stirred (serves : fleet.Serves number blocks l lab) (shows : fleet.Shows blocks' lab')
    (stirs : fleet.Stirs lab lab') (member : x ∈ fleet.endpoints) (turned : ¬ (blocks x y ↔ blocks' x y)) :
    ∃ seen, Attempt.result (Lab.client number).snapshot lab' = (.ok (lab'.fabric.shown l), seen) ∧
      fleet.Serves number blocks' (lab'.fabric.shown l).layout seen ∧
      ∀ z ∉ fleet.endpoints, seen.fabric.members.get? z = lab.fabric.members.get? z := by
  have due := serves.due shows stirs member turned
  obtain ⟨seen, taken, serves', members⟩ := (serves.stirred shows stirs).snapshot due
  refine ⟨seen, taken, serves', fun z out => ?_⟩
  rw [members, stirs.fabric.others z out]

end Serves

/-- A fault of a fleet and its cure, with whom the members block in between: one of them is the hub of all
broken links. -/
structure Drill (fleet : Fleet) (blocks : Endpoint → Endpoint → Prop) (hub : Endpoint)
    (fault cure : Attempt Lab Failure Unit) : Prop where
  strikes : ∀ lab, fleet.Shows nobody lab →
    ∃ lab', fault.result lab = (.ok (), lab') ∧ fleet.Shows blocks lab' ∧ fleet.Stirs lab lab'
  mends : ∀ lab, fleet.Shows blocks lab →
    ∃ lab', cure.result lab = (.ok (), lab') ∧ fleet.Shows nobody lab' ∧ fleet.Stirs lab lab'
  central : Hub (fun x y => blocks x y ∨ blocks y x) fleet.endpoints hub

namespace Drill

theorem exists_blocks (drill : fleet.Drill blocks hub fault cure) :
    ∃ x ∈ fleet.endpoints, ∃ y, blocks x y := by
  obtain ⟨a, there, -, own | other⟩ := drill.central.severs
  · exact ⟨hub, drill.central.there, a, own⟩
  · exact ⟨a, there, hub, other⟩

/-- Among the servers the hub is where links are severed. -/
theorem severed (drill : fleet.Drill blocks hub fault cure) (serves : fleet.Serves number blocks' l lab)
    (blocked : fleet.Shows blocks lab') : Hub lab'.fabric.Severed l.servers hub := by
  refine drill.central.congr (fun z => (serves.servers.mem_iff).symm) fun a ha b hb => ?_
  rw [Fabric.Severed, blocked.mem_blockedBy ha, blocked.mem_blockedBy hb]

/-- **The fault is seen where it is and the cure undoes it.** -/
theorem overcome (drill : fleet.Drill blocks hub fault cure) (serves : fleet.Serves number nobody l lab)
    (responsive : l.unresponsive = .empty) (many : 3 ≤ fleet.posts.length) :
    ∃ struck seen mended healed : Lab, ∃ s s' : Snapshot,
      fault.result lab = (.ok (), struck) ∧
      Attempt.result (Lab.client number).snapshot struck = (.ok s, seen) ∧
      s.layout = { l with unresponsive := .ofList [hub], epoch := l.epoch + 1 } ∧
      s.status.overall = .degraded ∧ s.status.reliability = .strongQuorum ∧
      cure.result seen = (.ok (), mended) ∧
      Attempt.result (Lab.client number).snapshot mended = (.ok s', healed) ∧
      s'.layout = { l with unresponsive := .empty, epoch := l.epoch + 2 } ∧
      s'.status.overall = .stable ∧ fleet.Serves number nobody s'.layout healed ∧
      ∀ x ∉ fleet.endpoints, healed.fabric.members.get? x = lab.fabric.members.get? x := by
  obtain ⟨x, member, y, block⟩ := drill.exists_blocks
  have count : 3 ≤ l.servers.length := by
    rw [serves.servers.length_eq, endpoints, List.length_map]
    exact many
  -- The fault.
  obtain ⟨struck, strikes, blocked, stirs⟩ := drill.strikes lab serves.shows
  obtain ⟨seen, taken, serves', others⟩ :=
    serves.snapshot_stirred blocked stirs member (y := y) fun same => same.mpr block
  obtain ⟨layout, degraded, strong⟩ := Fabric.shown_hub serves.distinct count responsive
    (fun e mem => blocked.isUp (serves.servers.mem_iff.mp mem)) (drill.severed serves blocked)
  -- The cure.
  obtain ⟨mended, mends, whole, stirs'⟩ := drill.mends seen serves'.shows
  obtain ⟨healed, taken', serves'', others'⟩ :=
    serves'.snapshot_stirred whole stirs' member (y := y) fun same => same.mp block
  have unresponsive : (struck.fabric.shown l).layout.unresponsive ≠ .empty := by
    rw [layout]
    exact fun none => EndpointSet.not_mem_empty hub
      (none ▸ EndpointSet.mem_ofList.mpr (List.mem_singleton_self hub))
  have servers : (struck.fabric.shown l).layout.servers ≠ [] := by
    rw [layout]
    exact List.ne_nil_of_length_pos (Nat.lt_of_lt_of_le (by decide) count)
  obtain ⟨layout', stable⟩ := Fabric.shown_whole serves'.distinct servers unresponsive
    fun e mem => whole.whole (serves'.servers.mem_iff.mp mem)
  refine ⟨struck, seen, mended, healed, _, _, strikes, taken, layout, degraded, strong, mends, taken', ?_,
    stable, serves'', fun z out => (others' z out).trans (others z out)⟩
  rw [layout', layout, Layout.markUnresponsive, Layout.markUnresponsive, UInt64.add_assoc]
  rfl

end Drill

/-! ### Members that are cut off, and links that break -/

theorem exists_ids {is : List Nat} (nodes : inj.nodes = fleet.nodes)
    (inside : ∀ j ∈ is, ∃ q, fleet.posts[j]? = some q) : ∃ ids, inj.ids is = .ok ids := by
  induction is with
  | nil => exact ⟨[], rfl⟩
  | cons j is ih =>
    obtain ⟨q, here⟩ := inside j List.mem_cons_self
    obtain ⟨ids, known⟩ := ih fun k mem => inside k (List.mem_cons_of_mem j mem)
    refine ⟨q.id :: ids, Injector.ids_eq_ok.mpr (.cons ?_ (Injector.ids_eq_ok.mp known))⟩
    exact ⟨q.node, node_eq_ok nodes here, rfl⟩

theorem exists_beyond {es : List Endpoint} (distinct : es.Nodup) (few : List Endpoint)
    (more : few.length < es.length) :
    ∃ e ∈ es, e ∉ few := by
  by_contra none
  have sub : es ⊆ few := fun e mem => by
    by_contra out
    exact none ⟨e, mem, out⟩
  exact Nat.not_le.mpr more (distinct.subperm sub).length_le

/-- Who is cut off blocks all others, and they block it. -/
def cutOff (fleet : Fleet) (e x y : Endpoint) : Prop := y ≠ x ∧ (x = e ∧ y ∈ fleet.endpoints ∨ y = e)

/-- **Cutting a member off** makes it the hub of all broken links, as there are two others at least. -/
theorem drill_partition (nodes : inj.nodes = fleet.nodes) (here : fleet.posts[i]? = some p)
    (many : 3 ≤ fleet.posts.length) :
    fleet.Drill (fleet.cutOff p.id) p.id (inj.partition i) (inj.heal i) := by
  have member : p.id ∈ fleet.endpoints := List.mem_map_of_mem (List.mem_of_getElem? here)
  have inside : ∀ j ∈ inj.others i, ∃ q, fleet.posts[j]? = some q := by
    intro j mem
    have below : j < inj.nodes.length := List.mem_range.mp (List.mem_filter.mp mem).1
    rw [nodes, Fleet.nodes, List.length_map] at below
    exact ⟨_, List.getElem?_eq_getElem below⟩
  obtain ⟨ids, known⟩ := exists_ids nodes inside
  have others : ∀ e ∈ fleet.endpoints, e ≠ p.id → e ∈ ids := fun e =>
    mem_ids_others nodes here known
  have within : ∀ e ∈ ids, e ∈ fleet.endpoints := by
    have within := Injector.mem_endpoints_of_ids known
    rw [Injector.endpoints, nodes, fleet.map_id_nodes] at within
    exact within
  -- All but the member itself are told about it, and it is told about all of them.
  have told : ∀ x ∈ fleet.endpoints, ∀ y, y ≠ x →
      ((x = p.id ∧ y ∈ ids ∨ Symmetry.symmetric = .symmetric ∧ x ∈ ids ∧ y = p.id) ↔
        (x = p.id ∧ y ∈ fleet.endpoints ∨ y = p.id)) := by
    intro x mem y differ
    constructor
    · rintro (⟨own, about⟩ | ⟨-, -, about⟩)
      · exact .inl ⟨own, within y about⟩
      · exact .inr about
    · rintro (⟨rfl, about⟩ | rfl)
      · exact .inl ⟨rfl, others y about differ⟩
      · exact .inr ⟨rfl, others x mem differ.symm, rfl⟩
  have more : 2 < fleet.endpoints.length := by
    rw [endpoints, List.length_map]
    exact many
  have severed : ∀ b ∈ fleet.endpoints, b ≠ p.id →
      (fleet.cutOff p.id p.id b ∨ fleet.cutOff p.id b p.id) := fun b mem other =>
    .inl ⟨other, .inl ⟨rfl, mem⟩⟩
  refine ⟨fun lab shows => ?_, fun lab shows => ?_, ⟨member, fun x _ y _ differ apart => ?_, ?_,
    fun x mem other _ => .inr ?_⟩⟩
  · obtain ⟨lab', struck, shows', stirs⟩ := shows.link .disconnect nodes here known "disconnect" .symmetric
    refine ⟨lab', struck, shows'.congr fun x mem y => ?_, stirs⟩
    rw [Instruction.after_nobody, and_comm]
    exact and_congr_right (told x mem y)
  · obtain ⟨lab', mended, shows', stirs⟩ := shows.link .reconnect nodes here known "reconnect" .symmetric
    refine ⟨lab', mended, shows'.congr fun x mem y => iff_of_false ?_ id, stirs⟩
    rintro ⟨⟨differ, cut⟩, untold⟩
    exact untold ((told x mem y differ).mpr cut)
  · rcases apart with ⟨-, ⟨own, -⟩ | own⟩ | ⟨-, ⟨own, -⟩ | own⟩
    · exact .inl own
    · exact .inr own
    · exact .inr own
    · exact .inl own
  · obtain ⟨b, mem, out⟩ := exists_beyond fleet.ids [p.id] (Nat.lt_of_succ_lt more)
    have other : b ≠ p.id := fun own => out (own ▸ List.mem_singleton_self _)
    exact ⟨b, mem, other, severed b mem other⟩
  · obtain ⟨b, there, out⟩ := exists_beyond fleet.ids [p.id, x] more
    rw [List.mem_pair, not_or] at out
    exact ⟨b, there, out.1, out.2, severed b there out.1⟩

/-- **Breaking a link** makes the larger one of its ends the hub of all broken links, whichever end the
block is at. -/
theorem drill_linkFailure (nodes : inj.nodes = fleet.nodes) (near : fleet.posts[a]? = some p)
    (far : fleet.posts[b]? = some q) (apart : p.id ≠ q.id) :
    fleet.Drill (fun x y => x = p.id ∧ y = q.id) (if p.id < q.id then q.id else p.id)
      (inj.linkFailure a b) (inj.healLink a b) := by
  have known : inj.ids [b] = .ok [q.id] :=
    Injector.ids_eq_ok.mpr (.cons ⟨q.node, node_eq_ok nodes far, rfl⟩ .nil)
  have told : ∀ x y, (x = p.id ∧ y ∈ [q.id] ∨ Symmetry.oneWay = .symmetric ∧ x ∈ [q.id] ∧ y = p.id) ↔
      x = p.id ∧ y = q.id := by simp
  refine ⟨fun lab shows => ?_, fun lab shows => ?_, ?_⟩
  · obtain ⟨lab', struck, shows', stirs⟩ := shows.link .disconnect nodes near known "disconnect" .oneWay
    refine ⟨lab', struck, shows'.congr fun x mem y => ?_, stirs⟩
    refine Instruction.after_nobody.trans ((and_congr_left fun _ => told x y).trans ?_)
    refine and_iff_left_of_imp ?_
    rintro ⟨rfl, rfl⟩
    exact apart.symm
  · obtain ⟨lab', mended, shows', stirs⟩ := shows.link .reconnect nodes near known "reconnect" .oneWay
    refine ⟨lab', mended, shows'.congr fun x mem y => iff_of_false ?_ id, stirs⟩
    rintro ⟨blocked, untold⟩
    exact untold ((told x y).mpr blocked)
  · have first : p.id ∈ fleet.endpoints := List.mem_map_of_mem (List.mem_of_getElem? near)
    have second : q.id ∈ fleet.endpoints := List.mem_map_of_mem (List.mem_of_getElem? far)
    split
    · rename_i rising
      refine ⟨second, ?_, ⟨p.id, first, apart, .inr ⟨rfl, rfl⟩⟩, ?_⟩
      · rintro x - y - - (⟨rfl, rfl⟩ | ⟨rfl, rfl⟩)
        · exact .inr rfl
        · exact .inl rfl
      · rintro x - other (⟨own, rfl⟩ | ⟨rfl, -⟩)
        · exact absurd own.symm apart
        · exact .inl rising
    · rename_i falling
      refine ⟨first, ?_, ⟨q.id, second, apart.symm, .inl ⟨rfl, rfl⟩⟩, ?_⟩
      · rintro x - y - - (⟨rfl, rfl⟩ | ⟨rfl, rfl⟩)
        · exact .inl rfl
        · exact .inr rfl
      · rintro x - other (⟨-, rfl⟩ | ⟨rfl, own⟩)
        · by_contra still
          rw [not_or] at still
          exact apart (Endpoint.eq_of_not_lt falling still.1)
        · exact absurd own apart

end Fleet

/-! ### Deployed clusters -/

end Simulation

namespace Group
open Simulation

/-- A deployed cluster that runs as it was deployed: every member is up, was last commanded to run and
blocks nobody, the members are the servers of the layout in place, of which nobody counts as
unresponsive, and the management is up, without a lag and without failures that were asked for. -/
structure Healthy (g : Group Lab) (l : Layout) (lab : Lab) : Prop where
  commanded : ∀ node ∈ g.nodes, node.commanded lab = .ofStatus .running
  whole : ∀ e ∈ g.endpoints, lab.fabric.Whole e
  layout : lab.fabric.layout = some l
  servers : l.servers.Perm g.endpoints
  responsive : l.unresponsive = .empty
  prompt : lab.fabric.detectionLag = 0
  up : lab.fabric.managementDown = false
  calm : ∀ e ∈ g.endpoints, ∀ op, (e, op) ∉ lab.fabric.failNext

/-- What becomes of a fault and its cure in a cluster with a layout: after the fault the next snapshot
counts the culprit alone as unresponsive, and the cluster is degraded with a strong quorum.  After the
cure the next snapshot counts nobody as unresponsive, the cluster is stable and as healthy as before,
and nobody blocks others than before. -/
def Overcomes (g : Group Lab) (fault cure : Attempt Lab Failure Unit) (culprit : Endpoint) (l : Layout)
    (lab : Lab) : Prop :=
  ∃ struck seen mended healed : Lab, ∃ s s' : Snapshot,
    fault.result lab = (.ok (), struck) ∧ g.snapshot.result struck = (.ok s, seen) ∧
    s.layout = { l with unresponsive := .ofList [culprit], epoch := l.epoch + 1 } ∧
    s.status.overall = .degraded ∧ s.status.reliability = .strongQuorum ∧
    cure.result seen = (.ok (), mended) ∧ g.snapshot.result mended = (.ok s', healed) ∧
    s'.layout = { l with unresponsive := .empty, epoch := l.epoch + 2 } ∧ s'.status.overall = .stable ∧
    g.Healthy s'.layout healed ∧ ∀ e, healed.fabric.blockedBy e = lab.fabric.blockedBy e

end Group

namespace Simulation

namespace Fleet
variable {fleet : Fleet} {lab : Lab} {number : Nat} {l : Layout} {fixture : Fixture} {phase : Phase}
  {blocks : Endpoint → Endpoint → Prop} {hub : Endpoint} {fault cure : Attempt Lab Failure Unit}

/-- A fleet as a deployed cluster, seen by a client. -/
def group (fleet : Fleet) (fixture : Fixture) (number : Nat) : Group Lab :=
  ⟨fixture, fleet.nodes, Lab.client number, .ready⟩

theorem endpoints_group : (fleet.group fixture number).endpoints = fleet.endpoints := fleet.map_id_nodes

theorem exists_post {i : Nat} {x : Endpoint} (here : (fleet.group fixture number).endpoints[i]? = some x) :
    ∃ p, fleet.posts[i]? = some p ∧ p.id = x := by
  rw [endpoints_group, endpoints, List.getElem?_map] at here
  exact Option.map_eq_some_iff.mp here

/-- In a cluster that is healthy, nobody blocks anybody. -/
theorem serves_of_healthy (healthy : (fleet.group fixture number).Healthy l lab) (there : fleet.There lab)
    (client : number < lab.memories.length) : fleet.Serves number nobody l lab := by
  obtain ⟨commanded, whole, layout, servers, -, prompt, up, calm⟩ := healthy
  rw [endpoints_group] at whole servers calm
  refine ⟨⟨fun p hp => ⟨there p hp, ?_⟩, calm⟩, client, layout, servers, up, prompt⟩
  have command : (p.seat.get lab).commanded = .ofStatus .running := commanded p.node (List.mem_map_of_mem hp)
  obtain ⟨live, blocks⟩ := whole p.id (List.mem_map_of_mem hp)
  rw [Fabric.isUp] at live
  rw [Fabric.blockedBy] at blocks
  cases found : lab.fabric.members.get? p.id with
  | none =>
    rw [found] at live
    cases live
  | some m =>
    rw [found] at live blocks
    have none : m.blocked = .empty := blocks
    refine ⟨m, found, live, ?_, fun y => iff_of_false (fun mem => ?_) id⟩
    · rw [command, none]
      rfl
    · exact EndpointSet.not_mem_empty y (none ▸ mem)

theorem Serves.healthy (serves : fleet.Serves number nobody l lab) (responsive : l.unresponsive = .empty) :
    (fleet.group fixture number).Healthy l lab where
  commanded node mem := by
    obtain ⟨p, hp, rfl⟩ := List.mem_map.mp mem
    obtain ⟨-, m, -, bars⟩ := serves.shows.bars p hp
    have none : m.blocked = .empty := EndpointSet.ext fun y =>
      iff_of_false (bars.blocks y).mp (EndpointSet.not_mem_empty y)
    refine bars.command.trans ?_
    rw [none]
    rfl
  whole e mem := serves.shows.whole (endpoints_group ▸ mem)
  layout := serves.layout
  servers := endpoints_group ▸ serves.servers
  responsive := responsive
  prompt := serves.prompt
  up := serves.up
  calm e mem := serves.shows.calm e (endpoints_group ▸ mem)

theorem result_snapshot_group {s : Snapshot} {lab' : Lab}
    (taken : Attempt.result (Lab.client number).snapshot lab = (.ok s, lab')) :
    (fleet.group fixture number).snapshot.result lab = (.ok s, lab') := by
  change Attempt.result ((Lab.client number).snapshot.mapError Failure.management) lab = _
  rw [Attempt.result_mapError, taken]

/-- **A drill in a healthy cluster** is overcome. -/
theorem Drill.overcomes (drill : fleet.Drill blocks hub fault cure)
    (healthy : (fleet.group fixture number).Healthy l lab) (there : fleet.There lab)
    (client : number < lab.memories.length) (many : 3 ≤ fleet.posts.length) :
    (fleet.group fixture number).Overcomes fault cure hub l lab := by
  have serves := serves_of_healthy healthy there client
  obtain ⟨struck, seen, mended, healed, s, s', strikes, taken, layout, degraded, strong, mends, taken',
    layout', stable, serves', others⟩ := drill.overcome serves healthy.responsive many
  have responsive : s'.layout.unresponsive = .empty := by rw [layout']
  refine ⟨struck, seen, mended, healed, s, s', strikes, result_snapshot_group taken, layout, degraded,
    strong, mends, result_snapshot_group taken', layout', stable, serves'.healthy responsive, fun e => ?_⟩
  by_cases member : e ∈ fleet.endpoints
  · rw [(serves'.shows.whole member).blocks, (serves.shows.whole member).blocks]
  · rw [Fabric.blockedBy, Fabric.blockedBy, others e member]

end Fleet

namespace Lab
variable {start made lab : Lab} {flavor : Flavor} {fixture : Fixture} {identity : Uuid} {g : Group Lab}
  {l : Layout}

/-- **Partitions and broken links are seen where they are, and are healed for good.**  Whatever has
happened to a deployed cluster of three members or more, if it is healthy: cutting any member off has it
alone count as unresponsive, and breaking any link the larger one of its two ends.  The cluster is
degraded with a strong quorum, one epoch later; after the heal it is stable, two epochs later, and
everybody runs and blocks nobody. -/
theorem partition_and_link_failure_healed (fresh : ∀ l ∈ start.fabric.layout, l.clusterId ≠ identity)
    (deployed : ((orchestrator flavor).deploy fixture identity).result start = (.ok g, made))
    (handles : made.handles.length ≤ lab.handles.length)
    (clients : made.memories.length ≤ lab.memories.length) (healthy : g.Healthy l lab)
    (many : 3 ≤ g.nodes.length) :
    (∀ i x, g.endpoints[i]? = some x →
      g.Overcomes (g.injector.partition i) (g.injector.heal i) x l lab) ∧
    ∀ a b x y, a ≠ b → g.endpoints[a]? = some x → g.endpoints[b]? = some y →
      g.Overcomes (g.injector.linkFailure a b) (g.injector.healLink a b) (if x < y then y else x) l lab := by
  obtain ⟨rfl, -, client, sound⟩ := deploy_eq_ok fresh deployed
  generalize Fleet.recruited flavor fixture.backend.memberPort start.handles.length 0 fixture.nodeCount =
    fleet at *
  have there : fleet.There lab := fun p hp => Nat.lt_of_lt_of_le (sound.fit p hp).1 handles
  have client : start.memories.length < lab.memories.length := Nat.lt_of_lt_of_le client clients
  have many : 3 ≤ fleet.posts.length := by
    rw [Fleet.nodes, List.length_map] at many
    exact many
  refine ⟨fun i x here => ?_, fun a b x y apart near far => ?_⟩
  · obtain ⟨p, hp, rfl⟩ := Fleet.exists_post here
    exact (Fleet.drill_partition rfl hp many).overcomes healthy there client many
  · obtain ⟨p, hp, rfl⟩ := Fleet.exists_post near
    obtain ⟨q, hq, rfl⟩ := Fleet.exists_post far
    have differ : p.id ≠ q.id := by
      intro same
      rw [← same, ← near] at far
      have distinct : (fleet.group fixture start.memories.length).endpoints.Nodup := by
        rw [Fleet.endpoints_group]
        exact fleet.ids
      have below := (List.getElem?_eq_some_iff.mp near).1
      exact apart ((List.getElem?_inj below distinct).mp far.symm)
    exact (Fleet.drill_linkFailure rfl hp hq differ).overcomes healthy there client many

theorem partition_and_link_failure_healed_machines : ∃ g made l,
    ((orchestrator .machine).deploy (.simulated 3) (.ofNat 7)).result empty = (.ok g, made) ∧
      g.Healthy l made ∧
      g.Overcomes (g.injector.partition 1) (g.injector.heal 1) (endpointAt 1 9000) l made ∧
      g.Overcomes (g.injector.linkFailure 2 0) (g.injector.healLink 2 0) (endpointAt 2 9000) l made := by
  have fresh : ∀ l ∈ empty.fabric.layout, l.clusterId ≠ .ofNat 7 := by
    rintro l ⟨⟩
  have deploys : drillDeployed.1.toOption.isSome = true := by decide +kernel
  obtain ⟨g, taken⟩ := Option.isSome_iff_exists.mp deploys
  have deployed : drillDeployed = (.ok g, drillDeployed.2) := Attempt.eq_ok_of_toOption taken
  obtain ⟨rfl, -⟩ := deploy_eq_ok fresh deployed
  have healthy : (drillFleet.group (.simulated 3) 0).Healthy (.initial drillFleet.endpoints (.ofNat 7))
      drillDeployed.2 := by
    have commanded : ∀ node ∈ drillFleet.nodes, node.commanded drillDeployed.2 = .ofStatus .running := by
      decide +kernel
    have up : ∀ e ∈ drillFleet.endpoints, drillDeployed.2.fabric.isUp e = true := by decide +kernel
    have blocks : ∀ e ∈ drillFleet.endpoints, drillDeployed.2.fabric.blockedBy e = .empty := by
      decide +kernel
    have calm : drillDeployed.2.fabric.failNext = [] := by decide +kernel
    have endpoints : (drillFleet.group (.simulated 3) 0).endpoints = drillFleet.endpoints :=
      Fleet.endpoints_group
    refine ⟨commanded, fun e mem => ?_, by decide +kernel, ?_, rfl, by decide +kernel, by decide +kernel, ?_⟩
    · rw [endpoints] at mem
      exact ⟨up e mem, blocks e mem⟩
    · rw [endpoints]
      exact .refl _
    · rw [calm]
      exact fun e _ op => List.not_mem_nil
  have many : 3 ≤ (drillFleet.group (.simulated 3) 0).nodes.length := by decide +kernel
  obtain ⟨partition, link⟩ :=
    partition_and_link_failure_healed fresh deployed (Nat.le_refl _) (Nat.le_refl _) healthy many
  refine ⟨_, _, _, deployed, healthy, partition 1 _ rfl, ?_⟩
  exact link 2 0 (endpointAt 2 9000) (endpointAt 0 9000) (by decide) rfl rfl

end Lab

end Simulation

end FaultLab
