import FaultLab.Proofs.Agreement
import FaultLab.Proofs.Injections
import Mathlib.Data.List.Nodup

/-! # Fleets of handles

A `Fleet` is some handles of a lab, each on a member of its own.  Commands to its nodes go through the
handles one step at a time (`Fleet.Acts`), and a step of one handle leaves the others and their
members as they are (`Fleet.Acts.at_post`).  What is said of each handle with its member
(`Post.Meets`) is therefore kept by the whole fleet if each handle keeps it by itself.

A member is `Fit` if it agrees with what was commanded of it, was not given back, and was told to
block nobody but members.  All that an injector tells its members keeps this (`Handle.Does.fit`). -/

namespace FaultLab.Simulation

/-- A handle of a lab with its number. -/
structure Post where
  number : Nat
  handle : Handle

namespace Post

/-- The endpoint of the member. -/
def id (p : Post) : Endpoint := p.handle.id

/-- The handle as a member of a cluster. -/
def node (p : Post) : Node Lab := Lab.node p.number p.handle

/-- The seat of the handle. -/
def seat (p : Post) : Part Lab Seat := Lab.seat p.number

/-- Whether the handle is there, and something holds of its member and of what it has commanded. -/
def Meets (P : Member → Commanded → Prop) (p : Post) (lab : Lab) : Prop :=
  p.number < lab.handles.length ∧ p.handle.Holds P (p.seat.get lab)

variable {p : Post} {lab lab' : Lab} {P Q : Member → Commanded → Prop}

theorem lawful_seat (p : Post) : p.seat.LawfulOn fun lab => p.number < lab.handles.length :=
  Lab.lawful_seat p.number

theorem result_focus {ε α : Type} (there : p.number < lab.handles.length)
    (c : Attempt Seat ε α) : Attempt.result (c.focus p.seat) lab =
      ((c.result (p.seat.get lab)).1, p.seat.set (c.result (p.seat.get lab)).2 lab) :=
  Call.result_focus p.lawful_seat c.toCall there

theorem result_change (there : p.number < lab.handles.length) (op : Operation) (f : Seat → Seat) :
    Attempt.result ((p.handle.change op f).focus p.seat) lab =
      if lab.fabric.failNext.contains (p.id, op) then
        (.error (.ofNode p.id op.name .injected), p.seat.set
          { p.seat.get lab with fabric := lab.fabric.spendFailure p.id op } lab)
      else (.ok (), p.seat.set (f (p.seat.get lab)) lab) := by
  rw [result_focus there, Handle.result_change]
  split
  · rename_i asked
    exact (if_pos asked).symm
  · rename_i clear
    exact (if_neg clear).symm

theorem Meets.mono (h : p.Meets P lab) (weaker : ∀ m c, P m c → Q m c) : p.Meets Q lab :=
  ⟨h.1, h.2.mono weaker⟩

theorem Meets.set_seat {s : Seat} (there : p.number < lab.handles.length)
    (holds : p.handle.Holds P s) : p.Meets P (p.seat.set s lab) := by
  refine ⟨p.lawful_seat.stays s lab there, ?_⟩
  rw [p.lawful_seat.get_set s lab there]
  exact holds

/-- Where the handles stay and the members too, apart from the number of their resets, a member meets
what does not depend on this number. -/
theorem Meets.of_sameGround (h : p.Meets P lab)
    (blind : ∀ m c n, P m c → P { m with resets := n } c) (handles : lab'.handles = lab.handles)
    (ground : lab.fabric.SameGround lab'.fabric) : p.Meets P lab' := by
  have command : lab'.commandedBy p.number = lab.commandedBy p.number := by
    rw [Lab.commandedBy, Lab.commandedBy, handles]
  exact ⟨handles ▸ h.1, h.2.of_ground blind (ground p.id) command⟩

end Post

/-! ### Fit members -/

/-- A member that was not given back and that was told to block some endpoints at most. -/
structure Lodged (ids : List Endpoint) (m : Member) (c : Commanded) : Prop where
  there : m.destroyed = false
  inside : ∀ e ∈ c.peers, e ∈ ids

/-- A member that agrees with what was commanded of it and is lodged. -/
def Fit (ids : List Endpoint) (own : Endpoint) (m : Member) (c : Commanded) : Prop :=
  Agrees own m c ∧ Lodged ids m c

theorem Fit.resets {ids : List Endpoint} {own : Endpoint} {m : Member} {c : Commanded} {n : Nat}
    (h : Fit ids own m c) : Fit ids own { m with resets := n } c :=
  ⟨h.1.resets, h.2.there, h.2.inside⟩

theorem fit_fresh (ids : List Endpoint) (own : Endpoint) : Fit ids own .fresh Lab.firstCommand :=
  ⟨agrees_fresh own, rfl, fun e he => absurd he (EndpointSet.not_mem_empty e)⟩

namespace Handle
variable {h : Handle} {s t : Seat} {c : Commanded} {ids : List Endpoint}

/-- A change that does not give the member back, with a command that blocks no others. -/
theorem lodged_update {change : Member → Member} (hs : h.Holds (Lodged ids) s)
    (there : ∀ m, (change m).destroyed = m.destroyed)
    (peers : ∀ e ∈ c.peers, e ∈ s.commanded.peers ∨ e ∈ ids) :
    h.Holds (Lodged ids) ⟨s.fabric.update h.id change, c⟩ := by
  refine hs.update fun m _ lodged => ⟨(there m).trans lodged.there, fun e he => ?_⟩
  rcases peers e he with old | new
  · exact lodged.inside e old
  · exact new

theorem lodged_settle (hs : h.Holds (Lodged ids) s) (status : NodeStatus) :
    h.Holds (Lodged ids) (h.settle status s) := lodged_update hs (fun _ => rfl) fun _ => .inl

theorem lodged_record (hs : h.Holds (Lodged ids) s) (status : NodeStatus) :
    h.Holds (Lodged ids) (record status s) := by
  obtain ⟨m, found, lodged⟩ := hs
  exact ⟨m, found, lodged.there, lodged.inside⟩

theorem lodged_clearBlocks (hs : h.Holds (Lodged ids) s) :
    h.Holds (Lodged ids) (h.clearBlocks s) :=
  lodged_update hs (fun _ => rfl) fun e he => absurd he (EndpointSet.not_mem_empty e)

theorem lodged_energize (hs : h.Holds (Lodged ids) s) : h.Holds (Lodged ids) (h.energize s) := by
  rw [energize]
  split
  · exact lodged_update hs (fun _ => rfl) fun _ => .inl
  · exact hs

theorem lodged_started (hs : h.Holds (Lodged ids) s) : h.Holds (Lodged ids) (h.started s) := by
  rw [started]
  have powered : h.Holds (Lodged ids)
      (if h.poweredOff s then h.clearBlocks (h.energize s) else s) := by
    split
    · exact lodged_clearBlocks (lodged_energize hs)
    · exact hs
  generalize (if h.poweredOff s then h.clearBlocks (h.energize s) else s) = u at powered
  refine lodged_settle ?_ .running
  split
  · exact lodged_clearBlocks powered
  · exact powered

theorem lodged_stopped (hs : h.Holds (Lodged ids) s) : h.Holds (Lodged ids) (h.stopped s) := by
  rw [stopped]
  split
  · exact hs
  · split
    · exact lodged_update hs (fun _ => rfl) fun _ => .inl
    · exact lodged_settle hs .stopped

theorem lodged_killed (hs : h.Holds (Lodged ids) s) : h.Holds (Lodged ids) (h.killed s) := by
  rw [killed]
  split
  · exact lodged_settle hs .killed
  · exact hs

theorem lodged_paused (hs : h.Holds (Lodged ids) s) : h.Holds (Lodged ids) (h.paused s).2 := by
  rw [paused]
  split
  · exact hs
  · split
    · exact hs
    · exact lodged_settle hs .paused

theorem lodged_resumed (hs : h.Holds (Lodged ids) s) : h.Holds (Lodged ids) (h.resumed s) := by
  rw [resumed]
  split
  · exact lodged_settle hs .running
  · exact hs

theorem lodged_disconnected {peers : List Endpoint} (hs : h.Holds (Lodged ids) s)
    (known : ∀ e ∈ peers, e ∈ ids) : h.Holds (Lodged ids) (h.disconnected peers s) := by
  rw [disconnected]
  have told : ∀ e ∈ (s.commanded.notBlocked peers).filter fun e => e ≠ h.id, e ∈ ids := by
    intro e he
    exact known e (List.mem_filter.mp (List.mem_filter.mp he).1).1
  generalize (s.commanded.notBlocked peers).filter (fun e => e ≠ h.id) = es at told
  induction es generalizing s with
  | nil => exact hs
  | cons e es ih =>
    rw [List.foldl_cons]
    refine ih (lodged_update hs (fun _ => rfl) fun x hx => ?_)
      fun x hx => told x (List.mem_cons_of_mem e hx)
    rcases EndpointSet.mem_insert.mp hx with rfl | old
    · exact .inr (told x List.mem_cons_self)
    · exact .inl old

theorem lodged_reconnected (hs : h.Holds (Lodged ids) s) (peers : List Endpoint) :
    h.Holds (Lodged ids) (h.reconnected peers s) := by
  rw [reconnected]
  induction peers generalizing s with
  | nil => exact hs
  | cons e es ih =>
    rw [List.foldl_cons]
    exact ih (lodged_update hs (fun _ => rfl) fun x hx => .inl (EndpointSet.mem_erase.mp hx).1)

theorem lodged_powerCycled (hs : h.Holds (Lodged ids) s) (power : PowerState)
    (status : NodeStatus) : h.Holds (Lodged ids) (h.powerCycled power status s) := by
  have ended : h.Holds (Lodged ids)
      (h.update (fun m => { m with power := power, status := .stopped }) s) :=
    lodged_update hs (fun _ => rfl) fun _ => .inl
  exact lodged_record (lodged_clearBlocks ended) status

theorem lodged_poweredOn (hs : h.Holds (Lodged ids) s) : h.Holds (Lodged ids) (h.poweredOn s) := by
  rw [poweredOn]
  split
  · exact lodged_record (lodged_energize hs) .stopped
  · exact lodged_energize hs

/-- A command that leaves its member there and blocks nobody but some endpoints leaves the member
lodged. -/
theorem Does.lodged {cmd : Command} (does : h.Does cmd s t) (stays : cmd.Stays ids)
    (hs : h.Holds (Lodged ids) s) : h.Holds (Lodged ids) t := by
  cases does with
  | idle => exact hs
  | refused op => exact hs
  | changed change able =>
    cases cmd with
    | destroy => cases stays
    | restart =>
      rcases List.mem_cons.mp able with rfl | able
      · exact lodged_stopped hs
      · rw [List.mem_singleton.mp able]
        exact lodged_started hs
    | powerOff =>
      obtain ⟨-, rfl⟩ := machine_of_mem able
      exact lodged_powerCycled hs _ _
    | powerOn =>
      obtain ⟨-, rfl⟩ := machine_of_mem able
      exact lodged_poweredOn hs
    | reboot =>
      obtain ⟨-, rfl⟩ := machine_of_mem able
      exact lodged_powerCycled hs _ _
    | powerState => cases able
    | start => exact List.mem_singleton.mp able ▸ lodged_started hs
    | stop grace => exact List.mem_singleton.mp able ▸ lodged_stopped hs
    | kill => exact List.mem_singleton.mp able ▸ lodged_killed hs
    | pause => exact List.mem_singleton.mp able ▸ lodged_paused hs
    | resume => exact List.mem_singleton.mp able ▸ lodged_resumed hs
    | disconnect peers => exact List.mem_singleton.mp able ▸ lodged_disconnected hs stays
    | reconnect peers => exact List.mem_singleton.mp able ▸ lodged_reconnected hs peers

theorem Does.fit {cmd : Command} (does : h.Does cmd s t) (stays : cmd.Stays ids)
    (hs : h.Holds (Fit ids h.id) s) : h.Holds (Fit ids h.id) t :=
  Holds.and (does.move.inStep (hs.mono fun _ _ => And.left))
    (does.lodged stays (hs.mono fun _ _ => And.right))

end Handle

/-! ### Fleets -/

/-- Handles of a lab, no two of them with one number or on one member. -/
structure Fleet where
  posts : List Post
  numbers : (posts.map Post.number).Nodup
  ids : (posts.map Post.id).Nodup

namespace Fleet
variable {fleet : Fleet} {lab lab' : Lab} {cmds : Command → Prop} {p q : Post}

/-- The handles as members of a cluster. -/
def nodes (fleet : Fleet) : List (Node Lab) := fleet.posts.map Post.node

/-- The endpoints of the members. -/
def endpoints (fleet : Fleet) : List Endpoint := fleet.posts.map Post.id

/-- Whether the handles are there. -/
def There (fleet : Fleet) (lab : Lab) : Prop := ∀ p ∈ fleet.posts, p.number < lab.handles.length

theorem There.set_seat {s : Seat} (h : fleet.There lab) : fleet.There (p.seat.set s lab) := by
  intro q hq
  rw [Post.seat, Lab.seat, List.length_set]
  exact h q hq

/-- An injector of faults into the members. -/
def injector (fleet : Fleet) (faults : FaultPolicy) : Injector Lab := .ofNodes fleet.nodes faults

theorem node_injector (fleet : Fleet) (faults : FaultPolicy) (i : Nat) :
    (fleet.injector faults).node i = match fleet.posts[i]? with
      | some p => .ok p.node
      | none => .error (.noNode i fleet.nodes.length) := by
  have found : (fleet.injector faults).nodes[i]? = fleet.posts[i]?.map Post.node := List.getElem?_map
  rw [Injector.node, found]
  cases fleet.posts[i]? <;> rfl

theorem map_id_nodes (fleet : Fleet) : fleet.nodes.map Node.id = fleet.endpoints := by
  rw [nodes, List.map_map]
  rfl

/-- What one step of certain commands to the fleet can do to the lab. -/
def Acts (fleet : Fleet) (cmds : Command → Prop) (lab lab' : Lab) : Prop :=
  ∃ p ∈ fleet.posts, ∃ cmd, cmds cmd ∧ ∃ t, p.handle.Does cmd (p.seat.get lab) t ∧
    lab' = p.seat.set t lab

/-- Every step of a command to a node of the fleet is one of those that the fleet can do. -/
theorem steps_tell {node : Node Lab} (cmd : Command) (mem : node ∈ fleet.nodes) (able : cmds cmd) :
    (cmd.tell node).Steps (fleet.Acts cmds) := by
  obtain ⟨p, hp, rfl⟩ := List.mem_map.mp mem
  have steps := Call.Steps.focus (p.handle.steps_does cmd) p.seat
  have told : cmd.tell p.node = (cmd.tell p.handle.node).focus p.seat :=
    Command.tell_focus p.seat p.handle.node cmd
  rw [told]
  refine Call.Steps.mono steps ?_
  rintro lab lab' ⟨t, does, moved⟩
  exact ⟨p, hp, cmd, able, t, does, moved⟩

theorem eq_of_number (hp : p ∈ fleet.posts) (hq : q ∈ fleet.posts) (same : p.number = q.number) :
    p = q := List.inj_on_of_nodup_map fleet.numbers hp hq same

theorem eq_of_id (hp : p ∈ fleet.posts) (hq : q ∈ fleet.posts) (same : p.id = q.id) : p = q :=
  List.inj_on_of_nodup_map fleet.ids hp hq same

namespace Acts

theorem handles (acts : fleet.Acts cmds lab lab') : lab'.handles.length = lab.handles.length := by
  obtain ⟨p, -, -, -, t, -, rfl⟩ := acts
  exact List.length_set

/-- A step of the fleet is one of a certain handle, or leaves this handle and its member alone. -/
theorem at_post (acts : fleet.Acts cmds lab lab') (hq : q ∈ fleet.posts)
    (there : q.number < lab.handles.length) :
    (∃ cmd, cmds cmd ∧ q.handle.Does cmd (q.seat.get lab) (q.seat.get lab')) ∨
      (lab'.commandedBy q.number = lab.commandedBy q.number ∧
        lab'.fabric.members.get? q.id = lab.fabric.members.get? q.id) := by
  obtain ⟨p, hp, cmd, able, t, does, rfl⟩ := acts
  by_cases own : p = q
  · left
    subst own
    refine ⟨cmd, able, ?_⟩
    rw [p.lawful_seat.get_set t lab there]
    exact does
  · right
    have number : p.number ≠ q.number := fun same => own (eq_of_number hp hq same)
    have id : p.id ≠ q.id := fun same => own (eq_of_id hp hq same)
    refine ⟨?_, does.move.alikeBeyond.member q.id (Ne.symm id)⟩
    rw [Lab.commandedBy, Lab.commandedBy, Post.seat, Lab.seat, List.getElem?_set_ne number]

/-- What each handle keeps by itself, the fleet keeps of all. -/
theorem meets {P : Member → Commanded → Prop} (acts : fleet.Acts cmds lab lab')
    (hq : q ∈ fleet.posts)
    (kept : ∀ cmd, cmds cmd → ∀ s t, q.handle.Does cmd s t → q.handle.Holds P s →
      q.handle.Holds P t)
    (h : q.Meets P lab) : q.Meets P lab' := by
  obtain ⟨there, holds⟩ := h
  refine ⟨?_, ?_⟩
  · rw [acts.handles]
    exact there
  · obtain ⟨cmd, able, does⟩ | ⟨command, member⟩ := acts.at_post hq there
    · exact kept cmd able _ _ does holds
    · obtain ⟨m, found, holds⟩ := holds
      refine ⟨m, member.trans found, ?_⟩
      have same : (q.seat.get lab').commanded = (q.seat.get lab).commanded := command
      rw [same]
      exact holds

end Acts

end Fleet

end FaultLab.Simulation
