import FaultLab.Proofs.Cleanups
import FaultLab.Proofs.Memberships
import FaultLab.Proofs.Partitions
import FaultLab.Proofs.Rotations

/-! # Blocks that are put up and taken down again

An injector that cuts a member off from some others, or lets it through to them, gives an `Instruction`
to the member and perhaps to each of the others.  Whatever their processes and their power, the members
do as they are told, and nothing but blocks and the lag changes (`Fleet.Obeys`):

* what a handle keeps besides its peers is the process that it commanded (`Handle.Spares`), and its
  process and its peers tell which command it was (`Commanded.Tallies.ext`);
* an instruction to one member (`Fleet.obeys_tell`), to each of some (`Fleet.obeys_tellEach`), and to one
  side or both of a link (`Fleet.obeys_link`) turns the blocks of those that were told.

All that is needed for this is that the handles agree with their members, as they do wherever members
were left to the handles that they were made with (`Lab.Tended`), in a cluster that was deployed for
example (`Lab.Tended.deploy`).  So `Lab.disconnect_undone` says what blocks there are after a call, and
that the call is undone by the opposite one. -/

namespace FaultLab

/-! ### A command is known by its process and its peers -/

theorem NodeStatus.eq_of_process {s s' : NodeStatus} (process : s'.process = s.process)
    (apart : s' = .disconnected ↔ s = .disconnected) : s' = s := by
  cases s <;> cases s' <;> simp_all [NodeStatus.process]

namespace Commanded
variable {c c' : Commanded}

theorem Tallies.ext (tallies : c.Tallies) (tallies' : c'.Tallies)
    (process : c'.status.process = c.status.process) (peers : c'.peers = c.peers) : c' = c := by
  have live : c'.status.isLive = c.status.isLive := by
    rw [← NodeStatus.isLive_process, process, NodeStatus.isLive_process]
  have apart : c'.status = .disconnected ↔ c.status = .disconnected := by
    rw [tallies'.disconnected_iff, tallies.disconnected_iff, live, peers]
  have status := NodeStatus.eq_of_process process apart
  cases c
  cases c'
  cases status
  cases peers
  rfl

end Commanded

/-! ### Indices that are out of range -/

namespace Injector
variable {σ : Type} {inj : Injector σ} {i j : Nat} {is : List Nat}

theorem node_eq_error (outside : inj.nodes.length ≤ j) :
    inj.node j = .error (.noNode j inj.nodes.length) := by
  rw [node, List.getElem?_eq_none outside]

theorem exists_node (inside : j < inj.nodes.length) : ∃ node, inj.node j = .ok node :=
  ⟨_, node_eq_ok.mpr (List.getElem?_eq_getElem inside)⟩

theorem ids_eq_error (outside : is.find? (inj.nodes.length ≤ ·) = some j) :
    inj.ids is = .error (.noNode j inj.nodes.length) := by
  induction is with
  | nil => cases outside
  | cons k is ih =>
    rw [ids, List.mapM_cons]
    by_cases here : inj.nodes.length ≤ k
    · rw [List.find?_cons, decide_eq_true here] at outside
      cases outside
      rw [node_eq_error here]
      rfl
    · rw [List.find?_cons, decide_eq_false here] at outside
      obtain ⟨node, found⟩ := exists_node (Nat.lt_of_not_le here)
      have rest := ih outside
      rw [ids] at rest
      rw [found, rest]
      rfl

/-- A link with an end that is not there is given up at once, and nobody is told anything. -/
theorem leaves_link_outside (outside : (i :: is).find? (inj.nodes.length ≤ ·) = some j) (message : String)
    (change : Node σ → List Endpoint → Attempt σ Failure Unit) (symmetry : Symmetry) (s : σ) :
    (inj.link message change i is symmetry).toCall.Leaves s (.error (.noNode j inj.nodes.length)) s 0 := by
  rw [link]
  by_cases here : inj.nodes.length ≤ i
  · rw [List.find?_cons, decide_eq_true here] at outside
    cases outside
    rw [node_eq_error here]
    exact ⟨rfl, rfl⟩
  · rw [List.find?_cons, decide_eq_false here] at outside
    obtain ⟨node, found⟩ := exists_node (Nat.lt_of_not_le here)
    rw [found, ids_eq_error outside]
    exact ⟨rfl, rfl⟩

end Injector

namespace Simulation

/-! ### What remains where blocks change -/

namespace Fabric
variable {f g k : Fabric}

/-- Who blocks whom. -/
def bars (f : Fabric) (x y : Endpoint) : Prop := y ∈ f.blockedBy x

/-- Every member is as it was, but for whom it blocks. -/
def Reblocked (f g : Fabric) : Prop :=
  ∀ x, g.members.get? x = (f.members.get? x).map fun m => { m with blocked := g.blockedBy x }

namespace Reblocked

theorem refl (f : Fabric) : f.Reblocked f := by
  intro x
  rw [blockedBy]
  cases f.members.get? x <;> rfl

theorem trans (h : f.Reblocked g) (h' : g.Reblocked k) : f.Reblocked k := by
  intro x
  rw [h' x, h x, Option.map_map]
  rfl

theorem update (e : Endpoint) (change : EndpointSet → EndpointSet) (f : Fabric) :
    f.Reblocked (f.update e fun m => { m with blocked := change m.blocked }) := by
  intro x
  rw [Handle.blockedBy_update, Fabric.update, touch, EndpointTable.get?_update]
  by_cases own : x = e
  · subst own
    rw [if_pos rfl, if_pos rfl]
    cases f.members.get? x <;> rfl
  · rw [if_neg own, if_neg own, blockedBy]
    cases f.members.get? x <;> rfl

theorem members_eq (h : f.Reblocked g) (same : g.bars = f.bars) : g.members = f.members := by
  refine EndpointTable.ext fun x => ?_
  have blocked : g.blockedBy x = f.blockedBy x :=
    EndpointSet.ext fun y => iff_of_eq (congrFun (congrFun same x) y)
  rw [h x, blocked]
  exact (refl f x).symm

end Reblocked

end Fabric

namespace Handle
variable {h : Handle} {s t u : Seat}

/-- What remains at a seat where blocks change: the members but for their blocks, and the process that
was commanded. -/
structure Spares (s t : Seat) : Prop where
  members : s.fabric.Reblocked t.fabric
  process : t.commanded.status.process = s.commanded.status.process

namespace Spares

theorem refl (s : Seat) : Spares s s := ⟨.refl _, rfl⟩

theorem trans (h : Spares s t) (h' : Spares t u) : Spares s u :=
  ⟨h.members.trans h'.members, h'.process.trans h.process⟩

theorem block (h : Handle) (s : Seat) (e : Endpoint) : Spares s (h.block s e) :=
  ⟨.update h.id (·.insert e) s.fabric, Commanded.process_addPeer e s.commanded⟩

theorem unblock (h : Handle) (s : Seat) (e : Endpoint) : Spares s (h.unblock s e) :=
  ⟨.update h.id (·.erase e) s.fabric, Commanded.process_withPeers _ s.commanded⟩

theorem foldl {act : Seat → Endpoint → Seat} (step : ∀ s e, Spares s (act s e)) (es : List Endpoint)
    (s : Seat) : Spares s (es.foldl act s) := by
  induction es generalizing s with
  | nil => exact .refl s
  | cons e es ih => exact (step s e).trans (ih (act s e))

end Spares

/-- The peers of a handle that is told to block some more; nobody is told to block itself. -/
theorem mem_peers_disconnected {peers : List Endpoint} {y : Endpoint} :
    y ∈ (h.disconnected peers s).commanded.peers ↔ y ∈ s.commanded.peers ∨ y ∈ peers ∧ y ≠ h.id := by
  have fold : ∀ (es : List Endpoint) (s : Seat),
      y ∈ (es.foldl h.block s).commanded.peers ↔ y ∈ s.commanded.peers ∨ y ∈ es := by
    intro es
    induction es with
    | nil => simp
    | cons e es ih =>
      intro s
      rw [List.foldl_cons, ih, block, Commanded.peers_addPeer, EndpointSet.mem_insert, List.mem_cons,
        or_left_comm, or_assoc]
  rw [disconnected, fold, List.mem_filter, Commanded.notBlocked, List.mem_filter, decide_eq_true_eq,
    Bool.not_eq_true', ← Bool.not_eq_true, EndpointSet.contains_iff]
  tauto

theorem InStep.blockedBy_eq (hs : h.InStep s) : s.fabric.blockedBy h.id = s.commanded.peers := by
  obtain ⟨m, found, agrees⟩ := hs
  rw [Fabric.blockedBy, found]
  exact agrees.bonds.peers.symm

theorem InStep.tallies (hs : h.InStep s) : s.commanded.Tallies := by
  obtain ⟨m, -, agrees⟩ := hs
  exact ⟨agrees.bonds.apart, agrees.bonds.together⟩

end Handle

theorem Lab.getElem?_handles {lab : Lab} {n : Nat} (there : n < lab.handles.length) :
    lab.handles[n]? = some (lab.commandedBy n) := by
  rw [commandedBy, List.getElem?_eq_getElem there]
  rfl

/-- A handle that agrees with its member has commanded the same as before if it has commanded the same
process and its member blocks the same peers. -/
theorem Post.Meets.commandedBy_eq {p : Post} {lab lab' : Lab} (met : p.Meets (Agrees p.id) lab)
    (met' : p.Meets (Agrees p.id) lab')
    (process : (lab'.commandedBy p.number).status.process = (lab.commandedBy p.number).status.process)
    (same : lab'.fabric.blockedBy p.id = lab.fabric.blockedBy p.id) :
    lab'.commandedBy p.number = lab.commandedBy p.number := by
  have inStep : p.handle.InStep (p.seat.get lab) := met.2
  have inStep' : p.handle.InStep (p.seat.get lab') := met'.2
  refine Commanded.Tallies.ext inStep.tallies inStep'.tallies process ?_
  exact inStep'.blockedBy_eq.symm.trans (same.trans inStep.blockedBy_eq)

/-! ### Instructions to members in whatever state -/

/-- What an instruction does to any handle that agrees with its member: it turns the peers as it should,
and spares what it should. -/
structure Instruction.Faithful (instruction : Instruction) : Prop where
  inStep : ∀ {h : Handle} {s : Seat} (es : List Endpoint), h.InStep s → h.InStep (instruction.act h es s)
  peers : ∀ (h : Handle) (es : List Endpoint) (s : Seat) (y : Endpoint),
    y ∈ (instruction.act h es s).commanded.peers ↔
      instruction.turn h.id y (y ∈ s.commanded.peers) (y ∈ es)
  spares : ∀ (h : Handle) (es : List Endpoint) (s : Seat), Handle.Spares s (instruction.act h es s)

theorem Instruction.faithful_disconnect : disconnect.Faithful where
  inStep es hs := Handle.inStep_disconnected hs es
  peers _ _ _ _ := Handle.mem_peers_disconnected
  spares h _ s := .foldl (.block h) _ s

theorem Instruction.faithful_reconnect : reconnect.Faithful where
  inStep es hs := Handle.inStep_reconnected hs es
  peers _ _ _ _ := Handle.mem_peers_reconnected
  spares h es s := .foldl (.unblock h) es s

namespace Fleet
variable {fleet : Fleet} {lab lab' lab'' : Lab} {p : Post} {i : Nat} {is : List Nat} {ids : List Endpoint}
  {inj : Injector Lab} {instruction : Instruction} {told told' : Endpoint → Endpoint → Prop}

/-- Whether the handles of a fleet agree with their members. -/
def Agree (fleet : Fleet) (lab : Lab) : Prop := ∀ p ∈ fleet.posts, p.Meets (Agrees p.id) lab

/-- What remains of a lab where the blocks of a fleet change: all but the lag and the blocks.  The handles
of the fleet have been told about these and agree with their members; otherwise they are as they were,
and so are all other handles. -/
structure Spares (fleet : Fleet) (lab lab' : Lab) : Prop where
  stirs : fleet.Stirs lab lab'
  members : lab.fabric.Reblocked lab'.fabric
  agree : fleet.Agree lab'
  process : ∀ n : Nat, lab'.handles[n]?.map (·.status.process) = lab.handles[n]?.map (·.status.process)
  others : ∀ n : Nat, n ∉ fleet.posts.map Post.number → lab'.handles[n]? = lab.handles[n]?

theorem Spares.refl (agree : fleet.Agree lab) : fleet.Spares lab lab :=
  ⟨.refl fleet lab, .refl lab.fabric, agree, fun _ => rfl, fun _ _ => rfl⟩

theorem Spares.trans (h : fleet.Spares lab lab') (h' : fleet.Spares lab' lab'') :
    fleet.Spares lab lab'' where
  stirs := h.stirs.trans h'.stirs
  members := h.members.trans h'.members
  agree := h'.agree
  process n := (h'.process n).trans (h.process n)
  others n out := (h'.others n out).trans (h.others n out)

/-- What a fleet does of which some were told about some others. -/
structure Obeys (fleet : Fleet) (instruction : Instruction) (told : Endpoint → Endpoint → Prop)
    (lab lab' : Lab) : Prop where
  spares : fleet.Spares lab lab'
  bars : lab'.fabric.bars = instruction.after lab.fabric.bars told

theorem Obeys.nobody (agree : fleet.Agree lab) : fleet.Obeys instruction (fun _ _ => False) lab lab :=
  ⟨.refl agree, funext₂ fun _ _ => propext instruction.untold.symm⟩

theorem Obeys.trans (h : fleet.Obeys instruction told lab lab')
    (h' : fleet.Obeys instruction told' lab' lab'') :
    fleet.Obeys instruction (fun x y => told x y ∨ told' x y) lab lab'' :=
  ⟨h.spares.trans h'.spares, by rw [h'.bars, h.bars, Instruction.after_after]⟩

theorem Obeys.congr (h : fleet.Obeys instruction told lab lab') (same : ∀ x y, told x y ↔ told' x y) :
    fleet.Obeys instruction told' lab lab' := by
  have same : told = told' := funext₂ fun x y => propext (same x y)
  exact same ▸ h

/-- A handle of a fleet that keeps its process and changes nothing but the blocks of its member spares the
fleet. -/
theorem Agree.spares_set {t : Seat} (agree : fleet.Agree lab) (hp : p ∈ fleet.posts)
    (inStep : p.handle.InStep t) (spares : Handle.Spares (p.seat.get lab) t)
    (rebarred : lab.fabric.Rebarred [p.id] t.fabric) : fleet.Spares lab (p.seat.set t lab) := by
  have there := (agree p hp).1
  refine ⟨⟨rebarred.mono fun x mem => ?_, rfl⟩, spares.members, fun q hq => ?_, fun n => ?_,
    fun n out => ?_⟩
  · rw [List.mem_singleton.mp mem]
    exact List.mem_map_of_mem hp
  · by_cases own : p = q
    · exact own ▸ Post.Meets.set_seat there inStep
    · have number : p.number ≠ q.number := fun same => own (eq_of_number hp hq same)
      have id : q.id ≠ p.id := fun same => own (eq_of_id hp hq same.symm)
      exact (agree q hq).set_other number (rebarred.others q.id fun mem => id (List.mem_singleton.mp mem))
  · change (lab.handles.set p.number t.commanded)[n]?.map _ = _
    by_cases own : p.number = n
    · subst own
      rw [List.getElem?_set_self there, Lab.getElem?_handles there]
      exact congrArg some spares.process
    · rw [List.getElem?_set_ne own]
  · refine List.getElem?_set_ne ?_
    rintro rfl
    exact out (List.mem_map_of_mem hp)

/-- A member does as it is told, whatever its process and its power. -/
theorem obeys_tell (faithful : instruction.Faithful) (agree : fleet.Agree lab) (hp : p ∈ fleet.posts)
    (calm : (p.id, instruction.op) ∉ lab.fabric.failNext) (es : List Endpoint) :
    ∃ lab', (instruction.tell p.node es).result lab = (.ok (), lab') ∧
      fleet.Obeys instruction (fun x y => x = p.id ∧ y ∈ es) lab lab' := by
  have inStep : p.handle.InStep (p.seat.get lab) := (agree p hp).2
  have after := faithful.inStep es inStep
  have rebarred : lab.fabric.Rebarred [p.id] (instruction.act p.handle es (p.seat.get lab)).fabric :=
    instruction.sparing p.handle es (p.seat.get lab)
  refine ⟨p.seat.set (instruction.act p.handle es (p.seat.get lab)) lab, ?_,
    agree.spares_set hp after (faithful.spares _ es _) rebarred, funext₂ fun x y => propext ?_⟩
  · rw [instruction.told, Post.result_change (agree p hp).1, if_neg]
    exact fun asked => calm (List.contains_iff_mem.mp asked)
  · -- The blocks of the member are the peers of its handle, before and after.
    change y ∈ (instruction.act p.handle es (p.seat.get lab)).fabric.blockedBy x ↔
      instruction.turn x y (y ∈ lab.fabric.blockedBy x) (x = p.id ∧ y ∈ es)
    by_cases own : x = p.id
    · have before : lab.fabric.blockedBy p.id = (p.seat.get lab).commanded.peers := inStep.blockedBy_eq
      have blocked : (instruction.act p.handle es (p.seat.get lab)).fabric.blockedBy p.id =
          (instruction.act p.handle es (p.seat.get lab)).commanded.peers := after.blockedBy_eq
      rw [own, eq_self_iff_true, true_and, before, blocked]
      exact faithful.peers p.handle es (p.seat.get lab) y
    · have still := rebarred.others x fun mem => own (List.mem_singleton.mp mem)
      rw [eq_false own, false_and, instruction.untold, Fabric.blockedBy, still]
      rfl

theorem Obeys.failNext (h : fleet.Obeys instruction told lab lab') :
    lab'.fabric.failNext = lab.fabric.failNext := by
  rw [h.spares.stirs.fabric.rest]

theorem obeys_tellEach (faithful : instruction.Faithful) (agree : fleet.Agree lab)
    (nodes : inj.nodes = fleet.nodes) (known : inj.ids is = .ok ids)
    (calm : ∀ e ∈ fleet.endpoints, (e, instruction.op) ∉ lab.fabric.failNext) (e : Endpoint) :
    ∃ lab', Attempt.result (is.forM fun j =>
        Attempt.give (inj.node j) >>= fun peer => instruction.tell peer [e]) lab = (.ok (), lab') ∧
      fleet.Obeys instruction (fun x y => x ∈ ids ∧ y = e) lab lab' := by
  replace known := Injector.ids_eq_ok.mp known
  induction known generalizing lab with
  | nil => exact ⟨lab, rfl, (Obeys.nobody agree).congr fun x y => by simp⟩
  | @cons j _ is ids here _ ih =>
    obtain ⟨node, found, rfl⟩ := here
    have member : node ∈ fleet.nodes := nodes ▸ Injector.mem_of_node found
    obtain ⟨p, hp, rfl⟩ := List.mem_map.mp member
    obtain ⟨u, done, obeys⟩ := obeys_tell faithful agree hp (calm p.id (List.mem_map_of_mem hp)) [e]
    obtain ⟨lab', rest, obeys'⟩ := ih obeys.spares.agree (obeys.failNext.symm ▸ calm)
    refine ⟨lab', ?_, (obeys.trans obeys').congr fun x y => ?_⟩
    · change Attempt.result ((Attempt.give (inj.node j) >>= fun peer => instruction.tell peer [e]) >>=
        fun _ => is.forM _) lab = _
      rw [Attempt.result_bind, Attempt.result_bind, found, Attempt.result_give]
      simp only [done]
      exact rest
    · rw [List.mem_singleton, List.mem_cons, or_and_right]
      rfl

/-- A member that is told about some others does as it is told, and so do these if they are to. -/
theorem obeys_link (faithful : instruction.Faithful) (agree : fleet.Agree lab)
    (nodes : inj.nodes = fleet.nodes) (here : fleet.posts[i]? = some p) (known : inj.ids is = .ok ids)
    (calm : ∀ e ∈ fleet.endpoints, (e, instruction.op) ∉ lab.fabric.failNext) (message : String)
    (symmetry : Symmetry) :
    ∃ lab', Attempt.result (inj.link message instruction.tell i is symmetry) lab = (.ok (), lab') ∧
      fleet.Obeys instruction (fun x y => x = p.id ∧ y ∈ ids ∨
        symmetry = .symmetric ∧ y = p.id ∧ x ∈ ids) lab lab' := by
  have hp := List.mem_of_getElem? here
  obtain ⟨u, done, obeys⟩ := obeys_tell faithful agree hp (calm p.id (List.mem_map_of_mem hp)) ids
  have own : Attempt.result (inj.link message instruction.tell i is symmetry) lab =
      Attempt.result (if symmetry = .symmetric then is.forM fun j =>
        Attempt.give (inj.node j) >>= fun peer => instruction.tell peer [p.id] else pure ()) u := by
    rw [Injector.link, Attempt.result_bind, Attempt.result_give, node_eq_ok nodes here]
    simp only [known, Attempt.result_bind, Attempt.result_give, Attempt.result_log, done]
    rfl
  rw [own]
  cases symmetry with
  | oneWay => exact ⟨u, rfl, obeys.congr fun x y => by simp⟩
  | symmetric =>
    obtain ⟨lab', rest, obeys'⟩ := obeys_tellEach faithful obeys.spares.agree nodes known
      (obeys.failNext.symm ▸ calm) p.id
    exact ⟨lab', rest, (obeys.trans obeys').congr fun x y => by simp [and_comm]⟩

/-! ### From indices to endpoints -/

/-- Whether a link leads from one endpoint to another: from the member at an index to one of those at some
indices. -/
def Leads (fleet : Fleet) (i : Nat) (is : List Nat) (x y : Endpoint) : Prop :=
  fleet.endpoints[i]? = some x ∧ ∃ j ∈ is, fleet.endpoints[j]? = some y

/-- Whom a call is about: a member and some peers and, if it is symmetric, these peers and the member. -/
def Asked (fleet : Fleet) (i : Nat) (is : List Nat) (symmetry : Symmetry) (x y : Endpoint) : Prop :=
  fleet.Leads i is x y ∨ symmetry = .symmetric ∧ fleet.Leads i is y x

theorem mem_ids_iff (nodes : inj.nodes = fleet.nodes) (known : inj.ids is = .ok ids) {e : Endpoint} :
    e ∈ ids ↔ ∃ j ∈ is, fleet.endpoints[j]? = some e := by
  replace known := Injector.ids_eq_ok.mp known
  induction known with
  | nil => simp
  | @cons j _ is ids here _ ih =>
    obtain ⟨node, found, rfl⟩ := here
    have there : fleet.endpoints[j]? = some node.id := by
      rw [← map_id_nodes, ← nodes, List.getElem?_map, Injector.node_eq_ok.mp found]
      rfl
    rw [List.mem_cons, List.exists_mem_cons_iff, there, Option.some.injEq, eq_comm]
    exact or_congr_right ih

theorem leads_iff (nodes : inj.nodes = fleet.nodes) (here : fleet.posts[i]? = some p)
    (known : inj.ids is = .ok ids) {x y : Endpoint} : fleet.Leads i is x y ↔ x = p.id ∧ y ∈ ids := by
  rw [Leads, endpoint_eq here, Option.some.injEq, mem_ids_iff nodes known, eq_comm]

theorem obeys_asked (faithful : instruction.Faithful) (agree : fleet.Agree lab)
    (nodes : inj.nodes = fleet.nodes) (inside : ∀ j ∈ i :: is, j < inj.nodes.length)
    (calm : ∀ e ∈ fleet.endpoints, (e, instruction.op) ∉ lab.fabric.failNext) (message : String)
    (symmetry : Symmetry) :
    ∃ lab', Attempt.result (inj.link message instruction.tell i is symmetry) lab = (.ok (), lab') ∧
      fleet.Obeys instruction (fleet.Asked i is symmetry) lab lab' := by
  have posts : ∀ j ∈ i :: is, ∃ q, fleet.posts[j]? = some q := by
    intro j mem
    have within := inside j mem
    rw [nodes, Fleet.nodes, List.length_map] at within
    exact ⟨_, List.getElem?_eq_getElem within⟩
  obtain ⟨p, here⟩ := posts i List.mem_cons_self
  obtain ⟨ids, known⟩ := exists_ids nodes fun j mem => posts j (List.mem_cons_of_mem i mem)
  obtain ⟨lab', done, obeys⟩ := obeys_link faithful agree nodes here known calm message symmetry
  refine ⟨lab', done, obeys.congr fun x y => ?_⟩
  rw [Asked, leads_iff nodes here known, leads_iff nodes here known]

theorem Agree.others (agree : fleet.Agree lab) {symmetry : Symmetry} {x y : Endpoint}
    (asked : fleet.Asked i is symmetry x y) (bars : lab.fabric.bars x y) : y ≠ x := by
  rintro rfl
  have mem : y ∈ fleet.endpoints := by
    rcases asked with ⟨near, -⟩ | ⟨-, near, -⟩ <;> exact List.mem_of_getElem? near
  obtain ⟨p, hp, rfl⟩ := List.mem_map.mp mem
  obtain ⟨-, m, found, agrees⟩ := agree p hp
  have found : lab.fabric.members.get? p.id = some m := found
  rw [Fabric.bars, Fabric.blockedBy, found] at bars
  exact agrees.bonds.others (agrees.bonds.peers ▸ bars)

/-- The blocks that a call is about; nobody is to block itself. -/
def Between (fleet : Fleet) (i : Nat) (is : List Nat) (symmetry : Symmetry) (x y : Endpoint) : Prop :=
  y ≠ x ∧ fleet.Asked i is symmetry x y

/-- A call to disconnect puts up the blocks that it is about, and no others. -/
theorem disconnect_exact (agree : fleet.Agree lab) (nodes : inj.nodes = fleet.nodes)
    (inside : ∀ j ∈ i :: is, j < inj.nodes.length)
    (calm : ∀ e ∈ fleet.endpoints, (e, .disconnect) ∉ lab.fabric.failNext) (symmetry : Symmetry) :
    ∃ cut, (inj.disconnect i is symmetry).result lab = (.ok (), cut) ∧ fleet.Spares lab cut ∧
      ∀ x y, cut.fabric.bars x y ↔ lab.fabric.bars x y ∨ fleet.Between i is symmetry x y := by
  obtain ⟨cut, done, obeys⟩ := obeys_asked Instruction.faithful_disconnect agree nodes inside calm
    "disconnect" symmetry
  refine ⟨cut, done, obeys.spares, fun x y => ?_⟩
  rw [obeys.bars, Between, and_comm]
  rfl

theorem reconnect_exact (agree : fleet.Agree lab) (nodes : inj.nodes = fleet.nodes)
    (inside : ∀ j ∈ i :: is, j < inj.nodes.length)
    (calm : ∀ e ∈ fleet.endpoints, (e, .reconnect) ∉ lab.fabric.failNext) (symmetry : Symmetry) :
    ∃ mended, (inj.reconnect i is symmetry).result lab = (.ok (), mended) ∧ fleet.Spares lab mended ∧
      ∀ x y, mended.fabric.bars x y ↔ lab.fabric.bars x y ∧ ¬ fleet.Between i is symmetry x y := by
  obtain ⟨mended, done, obeys⟩ := obeys_asked Instruction.faithful_reconnect agree nodes inside calm
    "reconnect" symmetry
  refine ⟨mended, done, obeys.spares, fun x y => ?_⟩
  rw [obeys.bars]
  refine and_congr_right fun bars => not_congr ?_
  exact ⟨fun asked => ⟨agree.others asked bars, asked⟩, And.right⟩

/-- Where members block whom they blocked before, all but the lag is as it was before. -/
theorem Spares.restored (spares : fleet.Spares lab lab') (agree : fleet.Agree lab)
    (same : lab'.fabric.bars = lab.fabric.bars) :
    ∃ lag, lab' = lab.onFabric fun f => { f with lagRemaining := lag } := by
  have handles : lab'.handles = lab.handles := by
    refine List.ext_getElem? fun n => ?_
    by_cases ours : n ∈ fleet.posts.map Post.number
    · obtain ⟨p, hp, rfl⟩ := List.mem_map.mp ours
      have process := spares.process p.number
      rw [Lab.getElem?_handles (agree p hp).1, Lab.getElem?_handles (spares.agree p hp).1] at process ⊢
      have blocked : lab'.fabric.blockedBy p.id = lab.fabric.blockedBy p.id :=
        EndpointSet.ext fun y => iff_of_eq (congrFun (congrFun same p.id) y)
      rw [(agree p hp).commandedBy_eq (spares.agree p hp) (Option.some.inj process) blocked]
    · exact spares.others n ours
  have fabric := spares.stirs.fabric.rest
  rw [spares.members.members_eq same] at fabric
  refine ⟨lab'.fabric.lagRemaining, ?_⟩
  calc lab' = ⟨lab'.fabric, lab'.handles, lab'.memories⟩ := rfl
    _ = _ := by rw [handles, spares.stirs.memories, fabric]; rfl

end Fleet

/-! ### Members that were left to their handles -/

namespace Lab

/-- The labs in which some handles were made on members that nobody had changed, each on a member of its
own, and in which these members were left to these handles ever since. -/
inductive Tended : List Post → Lab → Prop
  | empty : Tended [] .empty
  | attach {posts : List Post} {lab : Lab} (tended : Tended posts lab) (h : Handle)
    (new : h.id ∉ posts.map Post.id) (fresh : lab.fabric.ground h.id = some .fresh) :
    Tended (posts ++ [⟨lab.handles.length, h⟩]) (lab.perform (.attach h))
  | deed {posts : List Post} {lab : Lab} (tended : Tended posts lab) (d : Deed)
    (left : ∀ p ∈ posts, d.LeavesTo p.number p.handle) : Tended posts (lab.perform d)
  | injection {posts : List Post} {lab : Lab} (tended : Tended posts lab) (inj : Injector Lab)
    (ours : ∀ node ∈ inj.nodes, node ∈ posts.map Post.node) (i : Injection) :
    Tended posts ((inj.make i).result lab).2
  /-- Neither members nor handles are touched, as where a deployment is prepared. -/
  | aside {posts : List Post} {lab lab' : Lab} (tended : Tended posts lab)
    (members : lab'.fabric.members = lab.fabric.members) (handles : lab'.handles = lab.handles) :
    Tended posts lab'

variable {posts : List Post} {lab : Lab}

/-- A handle agrees with a member that nobody has changed. -/
theorem meets_attach (h : Handle) (fresh : lab.fabric.ground h.id = some .fresh) :
    (Post.mk lab.handles.length h).Meets (Agrees h.id) (lab.perform (.attach h)) := by
  obtain ⟨m, found, same⟩ := Option.map_eq_some_iff.mp fresh
  have last : (lab.handles ++ [firstCommand])[lab.handles.length]? = some firstCommand :=
    List.getElem?_concat_length
  have first : (lab.perform (.attach h)).commandedBy lab.handles.length = firstCommand := by
    change ((lab.handles ++ [firstCommand])[lab.handles.length]?).getD firstCommand = firstCommand
    rw [last]
    rfl
  refine ⟨?_, m, found, ?_⟩
  · change lab.handles.length < (lab.handles ++ [firstCommand]).length
    rw [List.length_append]
    exact Nat.lt_succ_self _
  · have alike : m = { Member.fresh with resets := m.resets } := by
      rw [← same]
    change Agrees h.id m ((lab.perform (.attach h)).commandedBy lab.handles.length)
    rw [first, alike]
    exact (agrees_fresh h.id).resets

/-- Members that were left to their handles agree with them, and no two of the handles have one number or
one member. -/
theorem Tended.agree (tended : Tended posts lab) : (posts.map Post.number).Nodup ∧
    (posts.map Post.id).Nodup ∧ ∀ p ∈ posts, p.Meets (Agrees p.id) lab := by
  induction tended with
  | empty => exact ⟨.nil, .nil, fun p hp => absurd hp List.not_mem_nil⟩
  | @attach posts lab tended h new fresh ih =>
    obtain ⟨numbers, ids, agree⟩ := ih
    have last : lab.handles.length ∉ posts.map Post.number := by
      intro mem
      obtain ⟨p, hp, same⟩ := List.mem_map.mp mem
      exact Nat.lt_irrefl _ (same ▸ (agree p hp).1)
    refine ⟨?_, ?_, fun p hp => ?_⟩
    · rw [← List.concat_eq_append, List.map_concat]
      exact numbers.concat last
    · rw [← List.concat_eq_append, List.map_concat]
      exact ids.concat new
    · rcases List.mem_append.mp hp with old | new
      · exact inStep_perform (agree p old) trivial
      · rw [List.mem_singleton.mp new]
        exact meets_attach h fresh
  | deed tended d left ih =>
    obtain ⟨numbers, ids, agree⟩ := ih
    exact ⟨numbers, ids, fun p hp => inStep_perform (agree p hp) (left p hp)⟩
  | @injection posts lab tended inj ours i ih =>
    obtain ⟨numbers, ids, agree⟩ := ih
    let all : Fleet := ⟨posts, numbers, ids⟩
    have steps := Injector.steps_make (R := all.Acts fun _ => True)
      (fun node mem cmd _ => all.steps_tell cmd (ours node mem) trivial) i
    refine ⟨numbers, ids, steps.keeps (I := all.Agree) (fun _ _ acts agree p hp => ?_) agree⟩
    exact acts.meets hp (fun _ _ _ _ does inStep => does.move.inStep inStep) (agree p hp)
  | @aside posts lab lab' tended members handles ih =>
    obtain ⟨numbers, ids, agree⟩ := ih
    refine ⟨numbers, ids, fun p hp => ?_⟩
    exact (agree p hp).of_sameGround (fun _ _ _ => Agrees.resets) handles (.of_members members)

theorem Tended.enlist (tended : Tended posts lab) (h : Handle) (new : h.id ∉ posts.map Post.id) :
    Tended (posts ++ [⟨lab.handles.length, h⟩]) (lab.enlist h) := by
  have register : Tended posts (lab.perform (.register h.id)) := by
    refine tended.deed _ fun p hp same => new ?_
    rw [same]
    exact List.mem_map_of_mem (f := Post.id) hp
  refine register.attach h new ?_
  change ((lab.fabric.members.insert h.id .fresh).get? h.id).map _ = _
  rw [EndpointTable.get?_insert, if_pos rfl]
  rfl

theorem Tended.muster {flavor : Flavor} {port : UInt16} (index : Nat) {count : Nat}
    (tended : Tended posts lab)
    (ids : ((posts ++ recruits flavor port lab.handles.length index count).map Post.id).Nodup) :
    Tended (posts ++ recruits flavor port lab.handles.length index count)
      (lab.muster (recruits flavor port lab.handles.length index count)) := by
  induction count generalizing posts lab index with
  | zero =>
    rw [recruits, List.append_nil]
    exact tended
  | succ count ih =>
    rw [recruits, List.append_cons] at ids ⊢
    have first : (endpointAt index port :: posts.map Post.id).Nodup := by
      rw [List.map_append, List.map_append] at ids
      exact List.nodup_append_comm.mp ids.of_append_left
    have one := tended.enlist ⟨endpointAt index port, flavor⟩ (List.nodup_cons.mp first).1
    have number : (lab.enlist ⟨endpointAt index port, flavor⟩).handles.length = lab.handles.length + 1 := by
      rw [Lab.enlist, List.length_append]
      rfl
    have rest := ih (index + 1) one
    rw [number] at rest
    exact rest ids

theorem Tended.bootstrap {number : Nat} {l : Layout} {outcome : Except ManagementError Unit} {lab' : Lab}
    (tended : Tended posts lab) (there : number < lab.memories.length)
    (done : Attempt.result ((client number).bootstrap l) lab = (outcome, lab')) :
    Tended posts lab' ∧ number < lab'.memories.length := by
  obtain ⟨attempts, failures, counted⟩ := Fabric.submit_eq l lab.fabric
  have members : (lab.fabric.submit l).2.members = lab.fabric.members := by rw [counted]
  have stays := (lawful_clientState number).stays
  rw [result_bootstrap there] at done
  generalize lab.fabric.submit l = submitted at members done
  obtain ⟨answer, f⟩ := submitted
  cases answer with
  | error cause =>
    cases done
    exact ⟨tended.aside members rfl, stays _ lab there⟩
  | ok taken =>
    cases taken with
    | false =>
      cases done
      exact ⟨tended.aside members rfl, stays _ lab there⟩
    | true =>
      cases done
      exact ⟨tended.aside ((Fabric.members_watched (f.place l)).trans members) rfl, stays _ lab there⟩

/-- The members of a cluster that is deployed are left to their handles. -/
theorem Tended.deploy {flavor : Flavor} {fixture : Fixture} {identity : Uuid} {g : Group Lab} {made : Lab}
    (tended : Tended [] lab)
    (deployed : ((orchestrator flavor).deploy fixture identity).result lab = (.ok g, made)) :
    ∃ fleet : Fleet, g.nodes = fleet.nodes ∧ Tended fleet.posts made := by
  obtain ⟨nodes, _, rfl, -, s₁, s₂, s₃, prepared, provisioned, connected, submitted⟩ :=
    Orchestrator.deploy_eq_ok deployed
  have prepared : Tended [] s₁ := by
    rw [result_prepare] at prepared
    cases prepared
    exact tended.aside rfl rfl
  obtain ⟨count, -, all, rfl, -⟩ := leaves_provisionAll ⟨provisioned, rfl⟩
  let fleet := Fleet.recruited flavor fixture.backend.memberPort s₁.handles.length 0 count
  have mustered : Tended fleet.posts (s₁.muster fleet.posts) := prepared.muster 0 fleet.ids
  rw [result_connector] at connected
  cases connected
  let start : Lab := { s₁.muster fleet.posts with memories := (s₁.muster fleet.posts).memories ++ [none] }
  have connected : Tended fleet.posts start ∧
      (s₁.muster fleet.posts).memories.length < start.memories.length := by
    refine ⟨mustered.aside rfl rfl, ?_⟩
    rw [List.length_append]
    exact Nat.lt_succ_self _
  obtain ⟨u, ⟨tended, there⟩, taken⟩ := Orchestrator.submit_eq_ok
    (I := fun u => Tended fleet.posts u ∧ (s₁.muster fleet.posts).memories.length < u.memories.length)
    (fun _ _ _ kept refused => kept.1.bootstrap kept.2 refused) connected submitted
  exact ⟨fleet, all, (tended.bootstrap there taken).1⟩

/-! ### Calls and their opposites -/

/-- **A call to disconnect is undone by the opposite one.**  Where members were left to their handles, in
whatever state they are, and no call is made to fail: a call to disconnect puts up just the blocks that it
is about, a call to reconnect takes just these down, and nothing else changes but the lag.  If there was
none of these blocks, the second call after the first one restores everything else, what the handles have
commanded included.  A call to anybody who is not there fails for the first index that is out of range, at
once, and changes nothing. -/
theorem disconnect_undone {fleet : Fleet} {inj : Injector Lab} (tended : Tended posts lab)
    (ours : ∀ p ∈ fleet.posts, p ∈ posts) (nodes : inj.nodes = fleet.nodes) (i : Nat) (is : List Nat)
    (symmetry : Symmetry) :
    ((∀ j ∈ i :: is, j < inj.nodes.length) →
      (∀ e ∈ fleet.endpoints,
        (e, .disconnect) ∉ lab.fabric.failNext ∧ (e, .reconnect) ∉ lab.fabric.failNext) →
      (∃ mended, (inj.reconnect i is symmetry).result lab = (.ok (), mended) ∧ fleet.Spares lab mended ∧
        ∀ x y, y ∈ mended.fabric.blockedBy x ↔
          y ∈ lab.fabric.blockedBy x ∧ ¬ fleet.Between i is symmetry x y) ∧
      ∃ cut, (inj.disconnect i is symmetry).result lab = (.ok (), cut) ∧ fleet.Spares lab cut ∧
        (∀ x y, y ∈ cut.fabric.blockedBy x ↔
          y ∈ lab.fabric.blockedBy x ∨ fleet.Between i is symmetry x y) ∧
        ((∀ x y, fleet.Between i is symmetry x y → y ∉ lab.fabric.blockedBy x) → ∃ lag,
          (inj.reconnect i is symmetry).result cut =
            (.ok (), lab.onFabric fun f => { f with lagRemaining := lag }))) ∧
    ((∃ j ∈ i :: is, inj.nodes.length ≤ j) →
      ∃ j, (i :: is).find? (inj.nodes.length ≤ ·) = some j ∧
        ∀ call ∈ [inj.disconnect i is symmetry, inj.reconnect i is symmetry],
          call.toCall.Leaves lab (.error (.noNode j inj.nodes.length)) lab 0) := by
  have agree : fleet.Agree lab := fun p hp => tended.agree.2.2 p (ours p hp)
  refine ⟨fun inside calm => ⟨?_, ?_⟩, fun ⟨k, mem, beyond⟩ => ?_⟩
  · exact Fleet.reconnect_exact agree nodes inside (fun e he => (calm e he).2) symmetry
  · obtain ⟨cut, done, spares, bars⟩ :=
      Fleet.disconnect_exact agree nodes inside (fun e he => (calm e he).1) symmetry
    refine ⟨cut, done, spares, bars, fun bare => ?_⟩
    have willing : ∀ e ∈ fleet.endpoints, (e, .reconnect) ∉ cut.fabric.failNext := by
      intro e he
      rw [spares.stirs.fabric.rest]
      exact (calm e he).2
    obtain ⟨back, undone, spares', bars'⟩ :=
      Fleet.reconnect_exact spares.agree nodes inside willing symmetry
    have same : back.fabric.bars = lab.fabric.bars := by
      funext x y
      rw [bars', bars, eq_iff_iff]
      constructor
      · rintro ⟨old | new, out⟩
        · exact old
        · exact absurd new out
      · exact fun old => ⟨.inl old, fun new => bare x y new old⟩
    obtain ⟨lag, restored⟩ := (spares.trans spares').restored agree same
    exact ⟨lag, restored ▸ undone⟩
  · have some : ((i :: is).find? (inj.nodes.length ≤ ·)).isSome = true :=
      List.find?_isSome.mpr ⟨k, mem, decide_eq_true beyond⟩
    obtain ⟨j, outside⟩ := Option.isSome_iff_exists.mp some
    refine ⟨j, outside, fun call either => ?_⟩
    rcases List.mem_pair.mp either with rfl | rfl <;>
      exact Injector.leaves_link_outside outside _ _ symmetry lab

/-- Three machines in a lab of their own. -/
def machines : Lab := empty.muster drillFleet.posts

/-- The second machine blocks the third one and is paused, and the third one has no power. -/
def dimmed : Lab :=
  [Injection.linkFailure 1 2, .inject .pause 1, .inject .powerOff 2].foldl
    (fun lab i => (((drillFleet.injector .default).make i).result lab).2) machines

theorem tended_dimmed : Tended drillFleet.posts dimmed := by
  have machines : Tended ([] ++ recruits .machine 9000 0 0 3) machines :=
    Tended.empty.muster 0 drillFleet.ids
  have machines : Tended drillFleet.posts Lab.machines := machines
  have ours : ∀ node ∈ (drillFleet.injector .default).nodes, node ∈ drillFleet.posts.map Post.node :=
    fun _ mem => mem
  have broken := machines.injection _ ours (.linkFailure 1 2)
  exact (broken.injection _ ours (.inject .pause 1)).injection _ ours (.inject .powerOff 2)

/-- The first machine is cut off from the others, whatever these are, and let through again. -/
theorem disconnect_undone_dimmed : Tended drillFleet.posts dimmed ∧ ∃ cut lag,
    ((drillFleet.injector .default).disconnect 0 [1, 2, 1, 0] .symmetric).result dimmed = (.ok (), cut) ∧
    endpointAt 0 9000 ∈ cut.fabric.blockedBy (endpointAt 2 9000) ∧
    (cut.handles.map Commanded.status) = [.disconnected, .paused, .poweredOff] ∧
    ((drillFleet.injector .default).reconnect 0 [1, 2, 1, 0] .symmetric).result cut =
      (.ok (), dimmed.onFabric fun f => { f with lagRemaining := lag }) ∧
    ((drillFleet.injector .default).disconnect 0 [1, 7, 9] .oneWay).toCall.Leaves dimmed
      (.error (.noNode 7 3)) dimmed 0 := by
  have nodes : (drillFleet.injector .default).nodes = drillFleet.nodes := rfl
  have calm : ∀ e ∈ drillFleet.endpoints,
      (e, .disconnect) ∉ dimmed.fabric.failNext ∧ (e, .reconnect) ∉ dimmed.fabric.failNext := by
    decide +kernel
  have others : ∀ x ∈ drillFleet.endpoints, ∀ y ∈ (dimmed.fabric.blockedBy x).toList,
      x ≠ endpointAt 0 9000 ∧ y ≠ endpointAt 0 9000 := by decide +kernel
  have inside : ∀ j ∈ [0, 1, 2, 1, 0], j < (drillFleet.injector .default).nodes.length := by decide
  have first : drillFleet.endpoints[0]? = some (endpointAt 0 9000) := by decide +kernel
  have third : drillFleet.endpoints[2]? = some (endpointAt 2 9000) := by decide +kernel
  have bare : ∀ x y, drillFleet.Between 0 [1, 2, 1, 0] .symmetric x y → y ∉ dimmed.fabric.blockedBy x := by
    intro x y between mem
    rcases between.2 with ⟨near, -⟩ | ⟨-, near, j, -, far⟩
    · exact (others x (List.mem_of_getElem? near) y mem).1 (Option.some.inj (near.symm.trans first))
    · exact (others x (List.mem_of_getElem? far) y mem).2 (Option.some.inj (near.symm.trans first))
  obtain ⟨-, cut, done, -, bars, restored⟩ :=
    (disconnect_undone tended_dimmed (fun _ => id) nodes 0 [1, 2, 1, 0] .symmetric).1 inside calm
  obtain ⟨lag, undone⟩ := restored bare
  have blocked : drillFleet.Between 0 [1, 2, 1, 0] .symmetric (endpointAt 2 9000) (endpointAt 0 9000) :=
    ⟨by decide +kernel, .inr ⟨rfl, first, 2, by decide, third⟩⟩
  have statuses : (((drillFleet.injector .default).disconnect 0 [1, 2, 1, 0] .symmetric).result
      dimmed).2.handles.map Commanded.status = [.disconnected, .paused, .poweredOff] := by decide +kernel
  rw [done] at statuses
  obtain ⟨j, outside, refused⟩ :=
    (disconnect_undone tended_dimmed (fun _ => id) nodes 0 [1, 7, 9] .oneWay).2 ⟨7, by decide, by decide⟩
  cases outside
  exact ⟨tended_dimmed, cut, lag, done, (bars _ _).mpr (.inr blocked), statuses, undone,
    refused _ List.mem_cons_self⟩

end Lab

end Simulation

end FaultLab
