import FaultLab.Proofs.Fleets
import FaultLab.Proofs.Races

/-! # Handles that keep apart

What a handle does to the fabric is a `Fabric.Edit` of its own member: the entry of this member is
changed, a failure of its operations is spent, and the lag begins anew.  Edits of different members
commute (`Fabric.Edit.comm`) and do not show at other members (`Fabric.Edit.sight`).

A change of a seat is `Handle.Local` if it edits the handle's member alone and neither sees nor
undoes what is done to other members.  Local changes can be made one after the other and under a
condition on the handle's own member, and everything that a handle can be told to do is made of them
(`Handle.within_tell`).  In a lab, the local changes of handles with different numbers on different
members commute (`Post.Acts.comm`), so commands to such handles keep apart (`Post.apart`). -/

namespace FaultLab

theorem Attempt.within_bind {σ ε α β : Type} {rg : RelyGuarantee σ} {c : Attempt σ ε α}
    {f : α → Attempt σ ε β} (h : c.toCall.Within rg) (hf : ∀ a, (f a).toCall.Within rg) :
    (c >>= f).toCall.Within rg := by
  refine Call.Within.bind h fun outcome => ?_
  cases outcome with
  | ok a => exact hf a
  | error e => trivial

namespace Simulation

/-! ### Edits of one member -/

/-- What a fabric holds about one member. -/
structure Sight where
  member : Option Member
  latency : Nat
  /-- The operations whose next use is to fail. -/
  failing : Operation → Bool

/-- What a fabric holds about a member. -/
def Fabric.sight (e : Endpoint) (f : Fabric) : Sight where
  member := f.members.get? e
  latency := f.latencyOf e
  failing op := f.failNext.contains (e, op)

/-- What no handle changes. -/
def Fabric.frame (f : Fabric) : Fabric :=
  { f with members := .empty, failNext := [], lagRemaining := 0 }

/-- What can be done to a fabric by way of one member. -/
inductive Fabric.Edit (e : Endpoint) : (Fabric → Fabric) → Prop
  | none : Edit e id
  | update (change : Member → Member) : Edit e (Fabric.update e change)
  | spend (op : Operation) : Edit e (Fabric.spendFailure e op)
  | comp {k l : Fabric → Fabric} (first : Edit e k) (second : Edit e l) : Edit e fun f => l (k f)

namespace Fabric
variable {e x : Endpoint} {k l : Fabric → Fabric}

theorem update_comm (apart : e ≠ x) (c d : Member → Member) (f : Fabric) :
    (f.update x d).update e c = (f.update e c).update x d := by
  have members : (f.members.update x d).update e c = (f.members.update e c).update x d := by
    refine EndpointTable.ext fun y => ?_
    simp only [EndpointTable.get?_update]
    by_cases here : y = e
    · subst here
      simp [apart]
    · by_cases there : y = x
      · subst there
        simp [here]
      · simp [here, there]
  simp only [Fabric.update, touch, members]

theorem spendFailure_comm (op op' : Operation) (f : Fabric) :
    (f.spendFailure x op').spendFailure e op = (f.spendFailure e op).spendFailure x op' := by
  simp only [spendFailure, List.filter_filter, Bool.and_comm]

namespace Edit

theorem comm (h : Edit e k) (h' : Edit x l) (apart : e ≠ x) (f : Fabric) : k (l f) = l (k f) := by
  induction h generalizing f with
  | none => rfl
  | update c =>
    induction h' generalizing f with
    | none => rfl
    | update d => exact update_comm apart c d f
    | spend op => rfl
    | @comp k l _ _ first second => exact (second (k f)).trans (congrArg l (first f))
  | spend op =>
    induction h' generalizing f with
    | none => rfl
    | update d => rfl
    | spend op' => exact spendFailure_comm op op' f
    | @comp k l _ _ first second => exact (second (k f)).trans (congrArg l (first f))
  | @comp k l' _ _ first second => exact (congrArg l' (first f)).trans (second (k f))

theorem sight (h : Edit e k) (apart : x ≠ e) (f : Fabric) : (k f).sight x = f.sight x := by
  induction h generalizing f with
  | none => rfl
  | update c =>
    have member : (f.update e c).members.get? x = f.members.get? x := by
      rw [Fabric.update, touch, EndpointTable.get?_update, if_neg apart]
    simp only [Fabric.sight, member]
    rfl
  | spend op =>
    have failing : ∀ op', (f.spendFailure e op).failNext.contains (x, op') =
        f.failNext.contains (x, op') := by
      intro op'
      have other : (x, op') ≠ (e, op) := fun same => apart (congrArg Prod.fst same)
      rw [Bool.eq_iff_iff, List.contains_iff_mem, List.contains_iff_mem, spendFailure,
        List.mem_filter]
      simp [other]
    simp only [Fabric.sight, failing]
    rfl
  | comp _ _ first second => rw [second, first]

theorem frame (h : Edit e k) (f : Fabric) : (k f).frame = f.frame := by
  induction h generalizing f with
  | none => rfl
  | update c => rfl
  | spend op => rfl
  | comp _ _ first second => rw [second, first]

end Edit

end Fabric

open Fabric (Edit)

/-! ### Local changes -/

/-- A seat when something was done to the fabric behind the handle's back. -/
def Seat.meanwhile (k : Fabric → Fabric) (s : Seat) : Seat := { s with fabric := k s.fabric }

namespace Handle
variable {h : Handle} {e : Endpoint} {k : Fabric → Fabric} {act next : Seat → Seat}

/-- A change of a seat that edits the handle's own member and does not depend on any other. -/
structure Local (h : Handle) (act : Seat → Seat) : Prop where
  edits : ∀ s, ∃ k, Edit h.id k ∧ (act s).fabric = k s.fabric
  blind : ∀ e k, e ≠ h.id → Edit e k → ∀ s, act (s.meanwhile k) = (act s).meanwhile k

/-- What a handle does, and what is done to other members. -/
def relyGuarantee (h : Handle) : RelyGuarantee Seat where
  own := h.Local
  foreign g := ∃ e k, e ≠ h.id ∧ Edit e k ∧ g = Seat.meanwhile k

section blind
variable (apart : e ≠ h.id) (edit : Edit e k) (s : Seat)
include apart edit

theorem sight_meanwhile : (s.meanwhile k).fabric.sight h.id = s.fabric.sight h.id :=
  edit.sight (Ne.symm apart) s.fabric

theorem physical_meanwhile : h.physical (s.meanwhile k) = h.physical s :=
  congrArg (fun v : Sight => (v.member.map Member.status).getD .stopped)
    (sight_meanwhile apart edit s)

theorem poweredOff_meanwhile : h.poweredOff (s.meanwhile k) = h.poweredOff s := by
  have member : (s.meanwhile k).fabric.members.get? h.id = s.fabric.members.get? h.id :=
    congrArg Sight.member (sight_meanwhile apart edit s)
  rw [poweredOff, poweredOff, Fabric.poweredOff, Fabric.poweredOff, member]

theorem latency_meanwhile : (s.meanwhile k).fabric.latencyOf h.id = s.fabric.latencyOf h.id :=
  congrArg Sight.latency (sight_meanwhile apart edit s)

theorem failing_meanwhile (op : Operation) :
    (s.meanwhile k).fabric.failNext.contains (h.id, op) = s.fabric.failNext.contains (h.id, op) :=
  congrArg (fun v : Sight => v.failing op) (sight_meanwhile apart edit s)

theorem startsAnew_meanwhile : h.startsAnew (s.meanwhile k) = h.startsAnew s := by
  simp only [startsAnew, physical_meanwhile apart edit s]

/-- Whether there is a process to freeze. -/
theorem halted_meanwhile :
    (!(h.physical (s.meanwhile k)).isLive || h.poweredOff (s.meanwhile k)) =
      (!(h.physical s).isLive || h.poweredOff s) := by
  rw [physical_meanwhile apart edit, poweredOff_meanwhile apart edit]

end blind

namespace Local

theorem edit (edit : Edit h.id k) (command : Commanded → Commanded) :
    h.Local fun s => ⟨k s.fabric, command s.commanded⟩ := by
  refine ⟨fun s => ⟨k, edit, rfl⟩, fun e l apart other s => ?_⟩
  have swapped : k (l s.fabric) = l (k s.fabric) := edit.comm other (Ne.symm apart) s.fabric
  exact congrArg (Seat.mk · _) swapped

theorem idle : h.Local fun s => s := edit .none fun c => c

theorem comp (first : h.Local act) (second : h.Local next) : h.Local fun s => next (act s) := by
  refine ⟨fun s => ?_, fun e k apart edit s => ?_⟩
  · obtain ⟨k, hk, changed⟩ := first.edits s
    obtain ⟨l, hl, changed'⟩ := second.edits (act s)
    exact ⟨_, .comp hk hl, changed'.trans (congrArg l changed)⟩
  · rw [first.blind e k apart edit, second.blind e k apart edit]

theorem of_eq (own : h.Local act) (same : ∀ s, next s = act s) : h.Local next := by
  have equal : next = act := funext same
  rw [equal]
  exact own

/-- A choice that depends on the handle's own member. -/
theorem ite {P : Seat → Prop} [DecidablePred P]
    (same : ∀ e k, e ≠ h.id → Edit e k → ∀ s : Seat, P (s.meanwhile k) ↔ P s)
    (yes : h.Local act) (no : h.Local next) : h.Local fun s => if P s then act s else next s := by
  refine ⟨fun s => ?_, fun e k apart edit s => ?_⟩
  · split
    · exact yes.edits s
    · exact no.edits s
  · rw [if_congr (same e k apart edit s) rfl rfl]
    split
    · exact yes.blind e k apart edit s
    · exact no.blind e k apart edit s

theorem choose {F : Commanded → Seat → Seat} (each : ∀ c, h.Local (F c)) :
    h.Local fun s => F s.commanded s :=
  ⟨fun s => (each s.commanded).edits s, fun e k apart edit s =>
    (each s.commanded).blind e k apart edit s⟩

theorem foldl {F : Seat → Endpoint → Seat} (each : ∀ e, h.Local fun s => F s e)
    (es : List Endpoint) : h.Local fun s => es.foldl F s := by
  induction es with
  | nil => exact idle
  | cons e es ih => exact comp (each e) ih

theorem update (change : Member → Member) : h.Local (h.update change) :=
  edit (.update change) fun c => c

theorem settle (status : NodeStatus) : h.Local (h.settle status) := edit (.update _) _

theorem record (status : NodeStatus) : h.Local (record status) := edit .none _

theorem clearBlocks : h.Local h.clearBlocks := edit (.update _) _

theorem energize : h.Local h.energize := by
  refine ite (fun e k apart edit s => ?_) (update _) idle
  rw [poweredOff_meanwhile apart edit]

theorem started : h.Local h.started := by
  have powered : h.Local fun s => if h.poweredOff s then h.clearBlocks (h.energize s) else s := by
    refine ite (fun e k apart edit s => ?_) (comp energize clearBlocks) idle
    rw [poweredOff_meanwhile apart edit]
  have anew : h.Local fun s => if h.startsAnew s then h.clearBlocks s else s := by
    refine ite (fun e k apart edit s => ?_) clearBlocks idle
    rw [startsAnew_meanwhile apart edit]
  have whole := comp (comp powered anew) (settle .running)
  exact whole

theorem stopped : h.Local h.stopped := by
  have ended : h.Local fun s => if s.commanded.status = .poweredOff then
      h.update (fun m => { m with status := .stopped }) s else h.settle .stopped s :=
    ite (fun _ _ _ _ _ => Iff.rfl) (update _) (settle .stopped)
  refine ite (fun e k apart edit s => ?_) idle ended
  rw [physical_meanwhile apart edit]

theorem killed : h.Local h.killed := by
  refine ite (fun e k apart edit s => ?_) (settle .killed) idle
  rw [physical_meanwhile apart edit]

theorem paused : h.Local fun s => (h.paused s).2 := by
  have frozen : h.Local fun s =>
      if (!(h.physical s).isLive || h.poweredOff s) = true then s else h.settle .paused s := by
    refine ite (fun e k apart edit s => ?_) idle (settle .paused)
    rw [halted_meanwhile apart edit]
  have whole : h.Local fun s => if h.physical s = .paused then s
      else if (!(h.physical s).isLive || h.poweredOff s) = true then s
      else h.settle .paused s := by
    refine ite (fun e k apart edit s => ?_) idle frozen
    rw [physical_meanwhile apart edit]
  have same : ∀ s, (h.paused s).2 = if h.physical s = .paused then s
      else if (!(h.physical s).isLive || h.poweredOff s) = true then s
      else h.settle .paused s := by
    intro s
    rw [Handle.paused, apply_ite Prod.snd, apply_ite Prod.snd]
  exact of_eq whole same

theorem resumed : h.Local h.resumed := by
  refine ite (fun e k apart edit s => ?_) (settle .running) idle
  rw [physical_meanwhile apart edit]

theorem disconnected (peers : List Endpoint) : h.Local (h.disconnected peers) := by
  have block : ∀ e, h.Local fun s => h.block s e := fun _ => edit (.update _) _
  exact choose fun c => foldl block ((c.notBlocked peers).filter fun e => e ≠ h.id)

theorem reconnected (peers : List Endpoint) : h.Local (h.reconnected peers) :=
  foldl (fun _ => edit (.update _) _) peers

theorem destroyed : h.Local h.destroyed :=
  edit (.update _) fun c => c.clearPeers.setStatus .stopped

theorem powerCycled (power : PowerState) (status : NodeStatus) :
    h.Local (h.powerCycled power status) := by
  have cycled := comp (update fun m => { m with power := power, status := .stopped })
    (comp clearBlocks (record (h := h) status))
  exact cycled

theorem poweredOn : h.Local h.poweredOn := by
  have recorded : h.Local fun s =>
      if s.commanded.status = .poweredOff then Handle.record .stopped s else s :=
    ite (fun _ _ _ _ _ => Iff.rfl) (record .stopped) idle
  have whole := comp energize recorded
  exact whole

theorem guarded {α : Type} {f : Seat → Except Failure α × Seat} (op : Operation)
    (own : h.Local fun s => (f s).2) : h.Local fun s => (h.guarded op f s).2 := by
  have spent : h.Local fun s => { s with fabric := s.fabric.spendFailure h.id op } :=
    edit (.spend op) fun c => c
  have choice : h.Local fun s => if s.fabric.failNext.contains (h.id, op) = true then
      { s with fabric := s.fabric.spendFailure h.id op } else (f s).2 := by
    refine ite (fun e k apart edit s => ?_) spent own
    rw [failing_meanwhile apart edit]
  have same : ∀ s, (h.guarded op f s).2 = if s.fabric.failNext.contains (h.id, op) = true then
      { s with fabric := s.fabric.spendFailure h.id op } else (f s).2 := by
    intro s
    rw [Handle.guarded, apply_ite Prod.snd]
  exact of_eq choice same

end Local

/-! ### Commands keep to their handle -/

theorem within_read {α : Type} {f : Seat → α}
    (blind : ∀ e k, e ≠ h.id → Edit e k → ∀ s : Seat, f (s.meanwhile k) = f s) :
    (Call.read f).Within h.relyGuarantee := by
  refine .read Local.idle fun g foreign s => ?_
  obtain ⟨e, k, apart, edit, rfl⟩ := foreign
  exact blind e k apart edit s

/-- An operation keeps to its handle if what it does in the end is local. -/
theorem within_perform {α : Type} {op : Operation} {f : Seat → Except Failure α × Seat}
    (own : h.Local fun s => (f s).2)
    (blind : ∀ e k, e ≠ h.id → Edit e k → ∀ s : Seat,
      (f (s.meanwhile k)).1 = (f s).1) : (h.perform op f).toCall.Within h.relyGuarantee := by
  have guarded := Local.guarded op own
  rw [toCall_perform]
  have sees : (Call.read fun s : Seat => s.fabric.latencyOf h.id).Within h.relyGuarantee :=
    within_read fun e k apart edit s => latency_meanwhile apart edit s
  refine .bind sees fun latency => ?_
  refine .bind (.sleepIfAny latency) fun _ => ?_
  refine .atomically guarded fun g foreign s => ?_
  obtain ⟨e, k, apart, edit, rfl⟩ := foreign
  refine Prod.ext ?_ (guarded.blind e k apart edit s)
  rw [Handle.guarded, Handle.guarded, failing_meanwhile apart edit]
  split
  · rfl
  · exact blind e k apart edit s

theorem within_change {op : Operation} (own : h.Local act) :
    (h.change op act).toCall.Within h.relyGuarantee := within_perform own fun _ _ _ _ _ => rfl

theorem within_pause : (h.perform .pause h.paused).toCall.Within h.relyGuarantee := by
  refine within_perform .paused fun e k apart edit s => ?_
  rw [Handle.paused, Handle.paused, halted_meanwhile apart edit, physical_meanwhile apart edit]
  split
  · rfl
  · split
    · rfl
    · rfl

theorem within_requirePower {f : Power Seat → Attempt Seat Failure Unit}
    (own : (f h.power).toCall.Within h.relyGuarantee) :
    (Attempt.give h.node.requirePower >>= f).toCall.Within h.relyGuarantee := by
  rw [Node.requirePower, node]
  by_cases machine : h.flavor = .machine
  · rw [if_pos machine]
    exact own
  · rw [if_neg machine]
    trivial

/-- Whatever a handle is told to do keeps to it. -/
theorem within_tell (h : Handle) (cmd : Command) : (cmd.tell h.node).toCall.Within h.relyGuarantee := by
  cases cmd with
  | start => exact within_change .started
  | stop grace => exact within_change .stopped
  | kill => exact within_change .killed
  | pause => exact within_pause
  | resume => exact within_change .resumed
  | disconnect peers => exact within_change (.disconnected peers)
  | reconnect peers => exact within_change (.reconnected peers)
  | restart => exact Attempt.within_bind (within_change .stopped) fun _ => within_change .started
  | destroy => exact within_change .destroyed
  | powerOff => exact within_requirePower (within_change (.powerCycled .off .poweredOff))
  | powerOn => exact within_requirePower (within_change .poweredOn)
  | reboot => exact within_requirePower (within_change (.powerCycled .on .stopped))
  | powerState =>
    have read : (h.power.state).toCall.Within h.relyGuarantee :=
      within_perform .idle fun e k apart edit s => by rw [poweredOff_meanwhile apart edit]
    exact within_requirePower (Attempt.within_bind read fun _ => trivial)

end Handle

/-! ### Handles of a lab -/

/-- What no handle of a lab changes. -/
def Lab.frame (lab : Lab) : Lab := { lab with fabric := lab.fabric.frame, handles := [] }

namespace Post
variable {p q : Post} {f g : Lab → Lab} {lab : Lab}

/-- What a lab holds about a handle and its member. -/
def sight (p : Post) (lab : Lab) : Commanded × Sight :=
  (lab.commandedBy p.number, lab.fabric.sight p.id)

/-- A change of a lab that is a local change at the seat of a handle. -/
def Acts (p : Post) (f : Lab → Lab) : Prop := ∃ act, p.handle.Local act ∧ f = p.seat.modify act

/-- What a handle does, and what other handles do to other members. -/
def relyGuarantee (p : Post) : RelyGuarantee Lab where
  own := p.Acts
  foreign g := ∃ q : Post, q.number ≠ p.number ∧ q.id ≠ p.id ∧ q.Acts g

namespace Acts

theorem frame (acts : p.Acts f) (lab : Lab) : (f lab).frame = lab.frame := by
  obtain ⟨act, own, rfl⟩ := acts
  obtain ⟨k, edit, changed⟩ := own.edits (p.seat.get lab)
  have fabric : (act (p.seat.get lab)).fabric.frame = lab.fabric.frame := by
    rw [changed]
    exact edit.frame lab.fabric
  exact congrArg (Lab.mk · [] lab.memories) fabric

theorem get_seat (acts : q.Acts g) (number : q.number ≠ p.number) (lab : Lab) :
    ∃ k, Edit q.id k ∧ p.seat.get (g lab) = (p.seat.get lab).meanwhile k := by
  obtain ⟨act, own, rfl⟩ := acts
  obtain ⟨k, edit, changed⟩ := own.edits (q.seat.get lab)
  refine ⟨k, edit, congrArg₂ Seat.mk changed ?_⟩
  exact congrArg (·.getD Lab.firstCommand) (List.getElem?_set_ne number)

/-- What another handle does to its member is not seen. -/
theorem sight (acts : q.Acts g) (number : q.number ≠ p.number) (id : q.id ≠ p.id) (lab : Lab) :
    p.sight (g lab) = p.sight lab := by
  obtain ⟨k, edit, seen⟩ := acts.get_seat number lab
  have command : (g lab).commandedBy p.number = lab.commandedBy p.number :=
    congrArg Seat.commanded seen
  have fabric : (g lab).fabric = k lab.fabric := congrArg Seat.fabric seen
  rw [Post.sight, Post.sight, command, fabric, edit.sight (Ne.symm id)]

theorem modify_modify {act act' : Seat → Seat} {k : Fabric → Fabric} (own : p.handle.Local act)
    (number : q.number ≠ p.number) (id : q.id ≠ p.id) (edit : Edit q.id k)
    (changed : (act' (q.seat.get lab)).fabric = k lab.fabric) :
    p.seat.modify act (q.seat.modify act' lab) = ⟨k (act (p.seat.get lab)).fabric,
      (lab.handles.set q.number (act' (q.seat.get lab)).commanded).set p.number
        (act (p.seat.get lab)).commanded, lab.memories⟩ := by
  have command : (q.seat.modify act' lab).commandedBy p.number = lab.commandedBy p.number :=
    congrArg (·.getD Lab.firstCommand) (List.getElem?_set_ne number)
  have seen : p.seat.get (q.seat.modify act' lab) = (p.seat.get lab).meanwhile k :=
    congrArg₂ Seat.mk changed command
  have after := own.blind q.id k id edit (p.seat.get lab)
  rw [Part.modify, seen, after]
  rfl

/-- What different handles do to different members can be done in any order. -/
theorem comm (hf : p.Acts f) (hg : q.Acts g) (number : q.number ≠ p.number) (id : q.id ≠ p.id)
    (lab : Lab) : f (g lab) = g (f lab) := by
  obtain ⟨act, own, rfl⟩ := hf
  obtain ⟨act', own', rfl⟩ := hg
  obtain ⟨k, edit, changed⟩ := own.edits (p.seat.get lab)
  obtain ⟨l, edit', changed'⟩ := own'.edits (q.seat.get lab)
  rw [modify_modify own number id edit' changed',
    modify_modify own' (Ne.symm number) (Ne.symm id) edit changed, changed, changed',
    List.set_comm _ _ number]
  exact congrArg (Lab.mk · _ _) (edit'.comm edit id lab.fabric)

end Acts

theorem within_focus {α : Type} {c : Call Seat α} (h : c.Within p.handle.relyGuarantee) :
    (c.focus p.seat).Within p.relyGuarantee := by
  induction c with
  | done a => trivial
  | pause d rest ih => exact ih h
  | note e rest ih => exact ih h
  | step act rest ih =>
    obtain ⟨own, blind, later⟩ := h
    have acts : p.Acts (p.seat.modify act) := ⟨act, own, rfl⟩
    refine ⟨acts, fun g foreign lab => ?_, fun lab => ih _ (later _)⟩
    obtain ⟨q, number, id, others⟩ := foreign
    refine ⟨acts.comm others number id lab, ?_⟩
    obtain ⟨k, edit, seen⟩ := others.get_seat number lab
    have unseen := (blind (Seat.meanwhile k) ⟨q.id, k, id, edit, rfl⟩ (p.seat.get lab)).2
    exact congrArg (Call.focus p.seat) ((congrArg rest seen).trans unseen)

/-- Whatever a handle of a lab is told to do keeps to its post. -/
theorem within_tell (p : Post) (cmd : Command) : (cmd.tell p.node).toCall.Within p.relyGuarantee := by
  have told : cmd.tell p.node = (cmd.tell p.handle.node).focus p.seat :=
    Command.tell_focus p.seat p.handle.node cmd
  rw [told]
  exact within_focus (p.handle.within_tell cmd)

/-- Calls that keep to different handles on different members keep apart. -/
theorem apart {α β : Type} {c : Call Lab α} {d : Call Lab β} (hc : c.Within p.relyGuarantee)
    (hd : d.Within q.relyGuarantee) (number : p.number ≠ q.number) (id : p.id ≠ q.id) : c.Apart d := by
  refine ⟨p.relyGuarantee, q.relyGuarantee, hc, hd, fun f own => ?_, fun g own => ?_⟩
  · exact ⟨p, number, id, own⟩
  · exact ⟨q, Ne.symm number, Ne.symm id, own⟩

end Post

end Simulation

end FaultLab
