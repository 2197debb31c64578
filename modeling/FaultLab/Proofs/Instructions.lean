import FaultLab.Proofs.Recovery

/-! # Whom members are told to block

What an injector tells its members about blocks is to disconnect from some peers or to reconnect to
them.  An `Instruction` is one of the two, with what becomes of the blocks of a member that follows it.

`Fleet.Shows blocks` says of a fleet that all members are up and block as `blocks` says, and that their
handles say so too.  An instruction to one member, to each of some, or to one side or both of a link
changes `blocks` for those that were told, and for nobody else (`Fleet.Shows.tell`,
`Fleet.Shows.tellEach`, `Fleet.Shows.link`). Everything but the blocks and the lag stays
(`Fleet.Stirs`). -/

namespace FaultLab

/-! ### Commands of a member that runs -/

namespace Commanded
variable {e : Endpoint} {peers : EndpointSet}

/-- What was commanded of a member that is to run and to block some peers. -/
def blocking (peers : EndpointSet) : Commanded :=
  ⟨if peers.isEmpty then .running else .disconnected, peers⟩

theorem addPeer_blocking : (blocking peers).addPeer e = blocking (peers.insert e) := by
  have live : (blocking peers).status.isLive = true := by
    rw [blocking]
    split <;> rfl
  have some : (peers.insert e).isEmpty ≠ true := by
    rw [Ne, EndpointSet.isEmpty_iff]
    intro none
    have mem : e ∈ peers.insert e := EndpointSet.mem_insert.mpr (.inl rfl)
    rw [none] at mem
    exact EndpointSet.not_mem_empty e mem
  rw [addPeer, if_pos live, blocking, blocking, if_neg some]

theorem removePeer_blocking : (blocking peers).removePeer e = blocking (peers.erase e) := by
  have erased : (peers.erase e).isEmpty = true ∨ peers.isEmpty ≠ true := by
    by_cases none : peers.isEmpty = true
    · rw [EndpointSet.isEmpty_iff] at none
      exact .inl (none ▸ rfl)
    · exact .inr none
  rw [removePeer, withPeers, blocking, blocking]
  by_cases none : (peers.erase e).isEmpty = true
  · simp [none]
  · have some := erased.resolve_left none
    simp [none, some]

end Commanded

namespace Simulation

/-! ### What remains where blocks change -/

namespace Fabric
variable {ids more : List Endpoint} {f g k : Fabric} {e : Endpoint}

/-- What remains where the blocks of some members change: all but these members, and the lag, which
begins anew unless nothing changes. -/
structure Rebarred (ids : List Endpoint) (f g : Fabric) : Prop where
  rest : g = { f with members := g.members, lagRemaining := g.lagRemaining }
  others : ∀ x, x ∉ ids → g.members.get? x = f.members.get? x
  touched : g = f ∨ g.lagRemaining = f.detectionLag

namespace Rebarred

theorem refl (ids : List Endpoint) (f : Fabric) : f.Rebarred ids f := ⟨rfl, fun _ _ => rfl, .inl rfl⟩

theorem trans (h : f.Rebarred ids g) (h' : g.Rebarred ids k) : f.Rebarred ids k where
  rest := by
    rw [h'.rest, h.rest]
  others x out := (h'.others x out).trans (h.others x out)
  touched := by
    rcases h'.touched with rfl | anew
    · exact h.touched
    · refine .inr (anew.trans ?_)
      rw [h.rest]

theorem mono (h : f.Rebarred ids g) (sub : ∀ x ∈ ids, x ∈ more) : f.Rebarred more g :=
  ⟨h.rest, fun x out => h.others x fun mem => out (sub x mem), h.touched⟩

theorem update (e : Endpoint) (change : Member → Member) (f : Fabric) :
    f.Rebarred [e] (f.update e change) where
  rest := rfl
  others x out := by
    rw [List.mem_singleton] at out
    exact EndpointTable.get?_update.trans (if_neg out)
  touched := .inr rfl

theorem foldl {act : Seat → Endpoint → Seat}
    (step : ∀ (s : Seat) e, s.fabric.Rebarred ids (act s e).fabric) (es : List Endpoint) (s : Seat) :
    s.fabric.Rebarred ids (es.foldl act s).fabric := by
  induction es generalizing s with
  | nil => exact .refl ids s.fabric
  | cons e es ih => exact (step s e).trans (ih (act s e))

end Rebarred

end Fabric

/-! ### Whom a member blocks -/

/-- A member that is up and blocks those of whom something holds, as was commanded of it. -/
structure Barring (barred : Endpoint → Prop) (m : Member) (c : Commanded) : Prop where
  up : m.isUp = true
  command : c = .blocking m.blocked
  blocks : ∀ y, y ∈ m.blocked ↔ barred y

theorem Barring.congr {barred barred' : Endpoint → Prop} {m : Member} {c : Commanded}
    (h : Barring barred m c) (same : ∀ y, barred y ↔ barred' y) : Barring barred' m c :=
  ⟨h.up, h.command, fun y => (h.blocks y).trans (same y)⟩

namespace Handle
variable {h : Handle} {s : Seat} {barred : Endpoint → Prop} {e : Endpoint}

theorem barring_block (hs : h.Holds (Barring barred) s) (e : Endpoint) :
    h.Holds (Barring fun y => barred y ∨ y = e) (h.block s e) := by
  refine hs.update fun m _ bars => ⟨bars.up, ?_, fun y => ?_⟩
  · rw [bars.command, Commanded.addPeer_blocking]
  · rw [EndpointSet.mem_insert, bars.blocks, or_comm]

theorem barring_unblock (hs : h.Holds (Barring barred) s) (e : Endpoint) :
    h.Holds (Barring fun y => barred y ∧ y ≠ e) (h.unblock s e) := by
  refine hs.update fun m _ bars => ⟨bars.up, ?_, fun y => ?_⟩
  · rw [bars.command, Commanded.removePeer_blocking]
  · rw [EndpointSet.mem_erase, bars.blocks]

/-- Who is told to block some endpoints blocks them too, but never itself. -/
theorem barring_disconnected (hs : h.Holds (Barring barred) s) (es : List Endpoint) :
    h.Holds (Barring fun y => barred y ∨ y ∈ es ∧ y ≠ h.id) (h.disconnected es s) := by
  have fold : ∀ (xs : List Endpoint) {s : Seat} {barred : Endpoint → Prop}, h.Holds (Barring barred) s →
      h.Holds (Barring fun y => barred y ∨ y ∈ xs) (xs.foldl h.block s) := by
    intro xs
    induction xs with
    | nil => exact fun hs => hs.mono fun _ _ bars => bars.congr fun y => by simp
    | cons x xs ih =>
      intro s barred hs
      refine (ih (barring_block hs x)).mono fun _ _ bars => bars.congr fun y => ?_
      rw [List.mem_cons, or_assoc]
  have peers : ∀ y, y ∈ s.commanded.peers ↔ barred y := by
    obtain ⟨m, -, bars⟩ := hs
    rw [bars.command]
    exact bars.blocks
  refine (fold _ hs).mono fun _ _ bars => bars.congr fun y => ?_
  -- Those that are blocked already are left out of what is done, not of what is blocked.
  rw [List.mem_filter, Commanded.notBlocked, List.mem_filter, decide_eq_true_eq, Bool.not_eq_true',
    ← Bool.not_eq_true, EndpointSet.contains_iff, peers]
  tauto

theorem barring_reconnected (hs : h.Holds (Barring barred) s) (es : List Endpoint) :
    h.Holds (Barring fun y => barred y ∧ y ∉ es) (h.reconnected es s) := by
  rw [reconnected]
  induction es generalizing s barred with
  | nil => exact hs.mono fun _ _ bars => bars.congr fun y => by simp
  | cons x xs ih =>
    refine (ih (barring_unblock hs x)).mono fun _ _ bars => bars.congr fun y => ?_
    rw [List.mem_cons, not_or, and_assoc]

end Handle

/-! ### Instructions -/

/-- What a handle can be told about whom its member is to block. -/
structure Instruction where
  tell : Node Lab → List Endpoint → Attempt Lab Failure Unit
  op : Operation
  act : Handle → List Endpoint → Seat → Seat
  /-- Whether a member blocks another one, by whether it did so and whether it was told about it. -/
  turn : Endpoint → Endpoint → Prop → Prop → Prop
  told : ∀ (p : Post) es, tell p.node es = (p.handle.change op (act p.handle es)).focus p.seat
  obeyed : ∀ {h : Handle} {s barred} es, h.Holds (Barring barred) s →
    h.Holds (Barring fun y => turn h.id y (barred y) (y ∈ es)) (act h es s)
  sparing : ∀ (h : Handle) es (s : Seat), s.fabric.Rebarred [h.id] (act h es s).fabric
  untold : ∀ {x y b}, turn x y b False ↔ b
  twice : ∀ {x y b c d}, turn x y (turn x y b c) d ↔ turn x y b (c ∨ d)

namespace Instruction

/-- The instruction to block. -/
def disconnect : Instruction where
  tell := Node.disconnect
  op := .disconnect
  act := Handle.disconnected
  turn x y b c := b ∨ c ∧ y ≠ x
  told _ _ := rfl
  obeyed es hs := Handle.barring_disconnected hs es
  sparing h es s := .foldl (fun _ _ => .update _ _ _) _ s
  untold := by simp
  twice := by tauto

/-- The instruction to let through. -/
def reconnect : Instruction where
  tell := Node.reconnect
  op := .reconnect
  act := Handle.reconnected
  turn _ _ b c := b ∧ ¬ c
  told _ _ := rfl
  obeyed es hs := Handle.barring_reconnected hs es
  sparing h es s := .foldl (fun _ _ => .update _ _ _) _ s
  untold := by simp
  twice := by tauto

/-- Who blocks whom after some were told about some others. -/
def after (instruction : Instruction) (blocks told : Endpoint → Endpoint → Prop) (x y : Endpoint) : Prop :=
  instruction.turn x y (blocks x y) (told x y)

theorem after_after (instruction : Instruction) (blocks told told' : Endpoint → Endpoint → Prop) :
    instruction.after (instruction.after blocks told) told' =
      instruction.after blocks fun x y => told x y ∨ told' x y :=
  funext fun _ => funext fun _ => propext instruction.twice

end Instruction

/-- Whom the members block where nobody blocks anybody. -/
def nobody (_ _ : Endpoint) : Prop := False

theorem Instruction.after_nobody {told : Endpoint → Endpoint → Prop} {x y : Endpoint} :
    disconnect.after nobody told x y ↔ told x y ∧ y ≠ x :=
  or_iff_right id

/-! ### Whom the members of a fleet block -/

/-- What is said of a handle with its member stays where another handle changes other members. -/
theorem Post.Meets.set_other {p q : Post} {P : Member → Commanded → Prop} {lab : Lab} {s : Seat}
    (h : q.Meets P lab) (number : p.number ≠ q.number)
    (member : s.fabric.members.get? q.id = lab.fabric.members.get? q.id) :
    q.Meets P (p.seat.set s lab) := by
  obtain ⟨there, m, found, holds⟩ := h
  refine ⟨?_, m, member.trans found, ?_⟩
  · rw [Post.seat, Lab.seat, List.length_set]
    exact there
  · have command : (p.seat.set s lab).commandedBy q.number = lab.commandedBy q.number := by
      rw [Lab.commandedBy, Lab.commandedBy, Post.seat, Lab.seat, List.getElem?_set_ne number]
    change P m ((p.seat.set s lab).commandedBy q.number)
    rw [command]
    exact holds

namespace Fleet
variable {fleet : Fleet} {lab lab' lab'' : Lab} {p q : Post} {i : Nat} {is : List Nat} {ids : List Endpoint}
  {inj : Injector Lab} {blocks blocks' : Endpoint → Endpoint → Prop}

/-- All members are up, block each other as told, and can be told more. -/
structure Shows (fleet : Fleet) (blocks : Endpoint → Endpoint → Prop) (lab : Lab) : Prop where
  bars : ∀ p ∈ fleet.posts, p.Meets (Barring (blocks p.id)) lab
  calm : ∀ e ∈ fleet.endpoints, ∀ op, (e, op) ∉ lab.fabric.failNext

/-- What remains of a lab where the blocks of a fleet change. -/
structure Stirs (fleet : Fleet) (lab lab' : Lab) : Prop where
  fabric : lab.fabric.Rebarred fleet.endpoints lab'.fabric
  memories : lab'.memories = lab.memories

theorem Stirs.refl (fleet : Fleet) (lab : Lab) : fleet.Stirs lab lab := ⟨.refl _ _, rfl⟩

theorem Stirs.trans (h : fleet.Stirs lab lab') (h' : fleet.Stirs lab' lab'') : fleet.Stirs lab lab'' :=
  ⟨h.fabric.trans h'.fabric, h'.memories.trans h.memories⟩

namespace Shows

/-- A member does as it is told, and the others stay as they are. -/
theorem tell (shows : fleet.Shows blocks lab) (instruction : Instruction) (hp : p ∈ fleet.posts)
    (es : List Endpoint) :
    ∃ lab', (instruction.tell p.node es).result lab = (.ok (), lab') ∧
      fleet.Shows (instruction.after blocks fun x y => x = p.id ∧ y ∈ es) lab' ∧ fleet.Stirs lab lab' := by
  obtain ⟨there, holds⟩ := shows.bars p hp
  have member : p.id ∈ fleet.endpoints := List.mem_map_of_mem hp
  have rebarred : lab.fabric.Rebarred [p.id] (instruction.act p.handle es (p.seat.get lab)).fabric :=
    instruction.sparing p.handle es (p.seat.get lab)
  have inside : ∀ x ∈ [p.id], x ∈ fleet.endpoints := by
    intro x mem
    rw [List.mem_singleton.mp mem]
    exact member
  refine ⟨p.seat.set (instruction.act p.handle es (p.seat.get lab)) lab, ?_, ⟨fun q hq => ?_, ?_⟩,
    rebarred.mono inside, rfl⟩
  · rw [instruction.told, Post.result_change there, if_neg]
    exact fun asked => shows.calm p.id member _ (List.contains_iff_mem.mp asked)
  · by_cases own : p = q
    · subst own
      have obeyed := Post.Meets.set_seat there (instruction.obeyed es holds)
      exact obeyed.mono fun _ _ bars => bars.congr fun y => by
        rw [Instruction.after, eq_self_iff_true, true_and]
        rfl
    · have number : p.number ≠ q.number := fun same => own (eq_of_number hp hq same)
      have id : q.id ≠ p.id := fun same => own (eq_of_id hp hq same.symm)
      have still := (shows.bars q hq).set_other number
        (rebarred.others q.id fun mem => id (List.mem_singleton.mp mem))
      refine still.mono fun _ _ bars => bars.congr fun y => ?_
      rw [Instruction.after, eq_false id, false_and]
      exact instruction.untold.symm
  · intro e mem op
    change (e, op) ∉ (instruction.act p.handle es (p.seat.get lab)).fabric.failNext
    rw [rebarred.rest]
    exact shows.calm e mem op

theorem congr (shows : fleet.Shows blocks lab) (same : ∀ x ∈ fleet.endpoints, ∀ y, blocks x y ↔ blocks' x y) :
    fleet.Shows blocks' lab where
  bars p hp := (shows.bars p hp).mono fun _ _ bars => bars.congr (same p.id (List.mem_map_of_mem hp))
  calm := shows.calm

theorem tellEach (shows : fleet.Shows blocks lab) (instruction : Instruction)
    (nodes : inj.nodes = fleet.nodes) (known : inj.ids is = .ok ids) (e : Endpoint) :
    ∃ lab', Attempt.result (is.forM fun j =>
        Attempt.give (inj.node j) >>= fun peer => instruction.tell peer [e]) lab = (.ok (), lab') ∧
      fleet.Shows (instruction.after blocks fun x y => x ∈ ids ∧ y = e) lab' ∧ fleet.Stirs lab lab' := by
  replace known := Injector.ids_eq_ok.mp known
  induction known generalizing lab blocks with
  | nil =>
    refine ⟨lab, rfl, shows.congr fun x _ y => ?_, .refl fleet lab⟩
    simp [Instruction.after, instruction.untold]
  | @cons j _ is ids here _ ih =>
    obtain ⟨node, found, rfl⟩ := here
    have member : node ∈ fleet.nodes := nodes ▸ Injector.mem_of_node found
    obtain ⟨p, hp, rfl⟩ := List.mem_map.mp member
    obtain ⟨u, told, shows_u, stirs⟩ := shows.tell instruction hp [e]
    obtain ⟨lab', rest, shows', stirs'⟩ := ih shows_u
    refine ⟨lab', ?_, ?_, stirs.trans stirs'⟩
    · change Attempt.result ((Attempt.give (inj.node j) >>= fun peer => instruction.tell peer [e]) >>=
        fun _ => is.forM _) lab = _
      rw [Attempt.result_bind, Attempt.result_bind, found, Attempt.result_give]
      simp only [told]
      exact rest
    · rw [Instruction.after_after] at shows'
      refine shows'.congr fun x _ y => ?_
      have both : (x = p.id ∧ y ∈ [e] ∨ x ∈ ids ∧ y = e) ↔ x ∈ p.node.id :: ids ∧ y = e := by
        rw [List.mem_singleton, List.mem_cons, or_and_right]
        rfl
      rw [Instruction.after, Instruction.after, both]

/-- A member that is told about some others does as it is told, and so do these if they are to. -/
theorem link (shows : fleet.Shows blocks lab) (instruction : Instruction) (nodes : inj.nodes = fleet.nodes)
    (here : fleet.posts[i]? = some p) (known : inj.ids is = .ok ids) (message : String)
    (symmetry : Symmetry) :
    ∃ lab', Attempt.result (inj.link message instruction.tell i is symmetry) lab = (.ok (), lab') ∧
      fleet.Shows (instruction.after blocks fun x y =>
        x = p.id ∧ y ∈ ids ∨ symmetry = .symmetric ∧ x ∈ ids ∧ y = p.id) lab' ∧
      fleet.Stirs lab lab' := by
  obtain ⟨u, told, shows_u, stirs⟩ :=
    shows.tell instruction (List.mem_of_getElem? here) ids
  have own : Attempt.result (inj.link message instruction.tell i is symmetry) lab =
      Attempt.result (if symmetry = .symmetric then is.forM fun j =>
        Attempt.give (inj.node j) >>= fun peer => instruction.tell peer [p.id] else pure ()) u := by
    rw [Injector.link, Attempt.result_bind, Attempt.result_give, node_eq_ok nodes here]
    simp only [known, Attempt.result_bind, Attempt.result_give, Attempt.result_log, told]
    rfl
  rw [own]
  cases symmetry with
  | oneWay =>
    refine ⟨u, rfl, shows_u.congr fun x _ y => ?_, stirs⟩
    simp [Instruction.after]
  | symmetric =>
    obtain ⟨lab', rest, shows', stirs'⟩ := shows_u.tellEach instruction nodes known p.id
    rw [Instruction.after_after] at shows'
    refine ⟨lab', rest, shows'.congr fun x _ y => ?_, stirs.trans stirs'⟩
    simp [Instruction.after]

end Shows

end Fleet

end Simulation

end FaultLab
