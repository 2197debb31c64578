import FaultLab.Proofs.HandleIndependence
import FaultLab.Proofs.Undoing

/-! # Commands that are given twice

A command asks for a state of its member, not for a change: given again at once, it finds what it asks
for and leaves all as it is, but that readings may have to be counted anew (`Seat.Recounts`).

* What a command asks for of a process is `Handle.Settled`, what it asks for of the blocks is
  `Handle.Bare`.  Each operation leaves this, and finds nothing to do where it holds already.
* `Handle.Steady` says both of one operation: what it did with success it repeats with success, and it
  refuses without a change.  `Handle.oneOrNone_tell` finds the operation of every command but a restart,
  which is two of them (`Handle.repeats_restarted`).
* `Lab.tell_again` puts it together.

This holds at any seat, whether the member exists or not, and whatever else was done to it. -/

namespace FaultLab

namespace Commanded
variable {c : Commanded} {s : NodeStatus}

theorem setStatus_setStatus (s s' : NodeStatus) (c : Commanded) :
    (c.setStatus s).setStatus s' = c.setStatus s' := rfl

theorem setStatus_clearPeers (s : NodeStatus) (c : Commanded) :
    c.clearPeers.setStatus s = ofStatus s := by
  simp [setStatus, clearPeers, withPeers, ofStatus, EndpointSet.isEmpty, EndpointSet.empty]

theorem clearPeers_ofStatus (plain : s ≠ .disconnected) : (ofStatus s).clearPeers = ofStatus s := by
  simp [clearPeers, withPeers, ofStatus, plain]

/-- Recording the peers that are recorded changes nothing where nobody without peers counts as cut
off. -/
theorem withPeers_self (apart : c.status = .disconnected → c.peers ≠ .empty) :
    c.withPeers c.peers = c := by
  simp only [withPeers]
  split
  · rename_i alone
    rw [Bool.and_eq_true, decide_eq_true_eq, EndpointSet.isEmpty_iff] at alone
    exact absurd alone.1 (apart alone.2)
  · rfl

/-- Where peers were recorded, nobody without peers counts as cut off. -/
theorem apart_withPeers {peers : EndpointSet} (h : (c.withPeers peers).status = .disconnected) :
    (c.withPeers peers).peers ≠ .empty := by
  intro none
  have none : peers = .empty := none
  simp only [withPeers] at h
  split at h
  · cases h
  · rename_i some
    apply some
    rw [none, h]
    rfl

theorem clearPeers_clearPeers (c : Commanded) : c.clearPeers.clearPeers = c.clearPeers :=
  withPeers_self apart_withPeers

end Commanded

namespace Simulation

/-! ### What is counted anew -/

/-- All is as it was, but that the readings that are to come before the detector looks again may be
counted from the beginning. -/
structure Seat.Recounts (s t : Seat) : Prop where
  fabric : t.fabric = { s.fabric with lagRemaining := t.fabric.lagRemaining }
  counting : t.fabric.lagRemaining = s.fabric.lagRemaining ∨
    t.fabric.lagRemaining = s.fabric.detectionLag
  commanded : t.commanded = s.commanded

namespace Seat.Recounts
variable {s t u : Seat}

theorem refl (s : Seat) : s.Recounts s := ⟨rfl, .inl rfl, rfl⟩

theorem trans (h : s.Recounts t) (h' : t.Recounts u) : s.Recounts u where
  fabric := by
    rw [h'.fabric, h.fabric]
  counting := by
    rcases h'.counting with same | anew
    · rw [same]
      exact h.counting
    · right
      rw [anew, h.fabric]
  commanded := h'.commanded.trans h.commanded

/-- A change that changes nothing about the member, with the command that there is. -/
theorem update {e : Endpoint} {change : Member → Member} {c : Commanded}
    (same : ∀ m, s.fabric.members.get? e = some m → change m = m) (command : c = s.commanded) :
    s.Recounts ⟨s.fabric.update e change, c⟩ := by
  have members : s.fabric.members.update e change = s.fabric.members := by
    apply EndpointTable.ext
    intro x
    rw [EndpointTable.get?_update]
    split
    · rename_i here
      subst here
      cases found : s.fabric.members.get? x with
      | none => rfl
      | some m => exact congrArg some (same m found)
    · rfl
  refine ⟨?_, .inr rfl, command⟩
  simp only [Fabric.update, Fabric.touch, members]

end Seat.Recounts

theorem Fabric.update_update (e : Endpoint) (c d : Member → Member) (f : Fabric) :
    (f.update e c).update e d = f.update e (d ∘ c) := by
  have members : (f.members.update e c).update e d = f.members.update e (d ∘ c) := by
    apply EndpointTable.ext
    intro x
    simp only [EndpointTable.get?_update]
    split
    · rw [if_pos trivial, Option.map_map]
    · rfl
  simp only [Fabric.update, Fabric.touch, members]

theorem Fabric.Edit.calm {e x : Endpoint} {op : Operation} {k : Fabric → Fabric} (edit : Fabric.Edit e k)
    {f : Fabric} (calm : (x, op) ∉ f.failNext) : (x, op) ∉ (k f).failNext := by
  induction edit generalizing f with
  | none => exact calm
  | update change => exact calm
  | spend op' => exact fun mem => calm (List.mem_filter.mp mem).1
  | comp _ _ first second => exact second (first calm)

/-! ### What a command asks for -/

namespace Handle
variable {h : Handle} {s t : Seat} {status : NodeStatus}

/-- Whether something holds of the member of a handle, if there is one. -/
def Shows (h : Handle) (P : Member → Prop) (s : Seat) : Prop :=
  ∀ m, s.fabric.members.get? h.id = some m → P m

/-- Whether the process is in a state, and was last told to be. -/
structure Settled (h : Handle) (status : NodeStatus) (s : Seat) : Prop where
  process : h.Shows (fun m => m.status = status) s
  command : s.commanded.setStatus status = s.commanded

/-- Whether nobody is blocked, neither by the member nor by what was commanded. -/
structure Bare (h : Handle) (s : Seat) : Prop where
  blocks : h.Shows (fun m => m.blocked = .empty) s
  peers : s.commanded.clearPeers = s.commanded

section shows
variable {P Q : Member → Prop}

theorem Shows.update {change : Member → Member} {c : Commanded} (shows : h.Shows P s)
    (step : ∀ m, P m → Q (change m)) : h.Shows Q ⟨s.fabric.update h.id change, c⟩ := by
  intro m found
  have found : (s.fabric.members.update h.id change).get? h.id = some m := found
  rw [EndpointTable.get?_update, if_pos rfl, Option.map_eq_some_iff] at found
  obtain ⟨old, there, rfl⟩ := found
  exact step old (shows old there)

theorem shows_update {change : Member → Member} {c : Commanded} (step : ∀ m, Q (change m)) :
    h.Shows Q ⟨s.fabric.update h.id change, c⟩ :=
  Shows.update (P := fun _ => True) (fun _ _ => trivial) fun m _ => step m

theorem Shows.recounted (shows : h.Shows P s) (recounts : s.Recounts t) : h.Shows P t := by
  intro m found
  rw [recounts.fabric] at found
  exact shows m found

end shows

theorem Settled.recounted (settled : h.Settled status s) (recounts : s.Recounts t) :
    h.Settled status t :=
  ⟨settled.process.recounted recounts, by rw [recounts.commanded, settled.command]⟩

theorem settled_settle (h : Handle) (status : NodeStatus) (s : Seat) :
    h.Settled status (h.settle status s) := ⟨shows_update fun _ => rfl, rfl⟩

/-- What is settled is not changed by being settled. -/
theorem Settled.recounts (settled : h.Settled status s) : s.Recounts (h.settle status s) := by
  apply Seat.Recounts.update
  · intro m found
    simp only [← settled.process m found]
  · exact settled.command

theorem Bare.recounts (bare : h.Bare s) : s.Recounts (h.clearBlocks s) := by
  apply Seat.Recounts.update
  · intro m found
    simp only [← bare.blocks m found]
  · exact bare.peers

theorem Bare.recounted (bare : h.Bare s) (recounts : s.Recounts t) : h.Bare t :=
  ⟨bare.blocks.recounted recounts, by rw [recounts.commanded, bare.peers]⟩

theorem bare_clearBlocks (h : Handle) (s : Seat) : h.Bare (h.clearBlocks s) :=
  ⟨shows_update fun _ => rfl, Commanded.clearPeers_clearPeers s.commanded⟩

/-- Of a member that does not exist, a process is seen that has stopped. -/
theorem physical_of_shows (process : h.Shows (fun m => m.status = status) s) :
    h.physical s = status ∨ h.physical s = .stopped := by
  rw [physical, Fabric.status?]
  cases found : s.fabric.members.get? h.id with
  | none => exact .inr rfl
  | some m => exact .inl (process m found)

theorem physical_settle (some : h.physical s ≠ .stopped) (status : NodeStatus) :
    h.physical (h.settle status s) = status := by
  rw [physical, Fabric.status?] at some ⊢
  simp only [settle, Fabric.update, Fabric.touch, EndpointTable.get?_update]
  cases found : s.fabric.members.get? h.id with
  | none =>
    rw [found] at some
    exact absurd rfl some
  | some m => rfl

theorem physical_update (change : Member → Member) {c : Commanded}
    (same : ∀ m, (change m).status = m.status) :
    h.physical ⟨s.fabric.update h.id change, c⟩ = h.physical s := by
  simp only [physical, Fabric.status?, Fabric.update, Fabric.touch, EndpointTable.get?_update]
  cases s.fabric.members.get? h.id with
  | none => rfl
  | some m => exact same m

theorem physical_clearBlocks (h : Handle) (s : Seat) : h.physical (h.clearBlocks s) = h.physical s :=
  physical_update (fun m => { m with blocked := .empty }) fun _ => rfl

theorem physical_energize (h : Handle) (s : Seat) : h.physical (h.energize s) = h.physical s := by
  unfold energize
  split
  · exact physical_update (fun m => { m with power := .on }) fun _ => rfl
  · rfl

theorem lit_of_shows (lit : h.Shows (fun m => m.power ≠ .off) s) : h.poweredOff s = false := by
  rw [poweredOff, Fabric.poweredOff]
  cases found : s.fabric.members.get? h.id with
  | none => rfl
  | some m => exact decide_eq_false (lit m found)

theorem shows_of_lit (lit : h.poweredOff s = false) : h.Shows (fun m => m.power ≠ .off) s := by
  intro m found off
  rw [poweredOff_eq found, off] at lit
  cases lit

theorem lit_update {change : Member → Member} {c : Commanded} (lit : h.poweredOff s = false)
    (same : ∀ m, (change m).power = m.power) :
    h.poweredOff ⟨s.fabric.update h.id change, c⟩ = false := by
  refine lit_of_shows ((shows_of_lit lit).update fun m on => ?_)
  rw [same]
  exact on

theorem poweredOff_energize (h : Handle) (s : Seat) : h.poweredOff (h.energize s) = false := by
  unfold energize
  split
  · apply lit_of_shows
    exact shows_update fun m => by simp
  · rename_i on
    exact Bool.eq_false_iff.mpr on

theorem startsAnew_congr (same : h.physical t = h.physical s) : h.startsAnew t = h.startsAnew s := by
  simp only [startsAnew, same]

/-! ### Starting -/

/-- A member that is to be started, with power. -/
def lit (h : Handle) (s : Seat) : Seat := if h.poweredOff s then h.clearBlocks (h.energize s) else s

theorem physical_lit (h : Handle) (s : Seat) : h.physical (h.lit s) = h.physical s := by
  unfold lit
  split
  · rw [physical_clearBlocks, physical_energize]
  · rfl

theorem poweredOff_lit (h : Handle) (s : Seat) : h.poweredOff (h.lit s) = false := by
  unfold lit
  split
  · exact lit_update (h.poweredOff_energize s) fun _ => rfl
  · rename_i on
    exact Bool.eq_false_iff.mpr on

theorem started_eq (h : Handle) (s : Seat) : h.started s =
    h.settle .running (if h.startsAnew s then h.clearBlocks (h.lit s) else h.lit s) := by
  rw [← startsAnew_congr (h.physical_lit s)]
  rfl

theorem started_of_lit (on : h.poweredOff s = false) : h.started s =
    h.settle .running (if h.startsAnew s then h.clearBlocks s else s) := by
  have same : h.lit s = s := if_neg (Bool.eq_false_iff.mp on)
  rw [started_eq, same]

theorem poweredOff_started (h : Handle) (s : Seat) : h.poweredOff (h.started s) = false := by
  rw [started_eq]
  refine lit_update ?_ fun _ => rfl
  split
  · exact lit_update (h.poweredOff_lit s) fun _ => rfl
  · exact h.poweredOff_lit s

theorem settled_started (h : Handle) (s : Seat) : h.Settled .running (h.started s) := by
  rw [started_eq]
  exact h.settled_settle .running _

theorem bare_started (anew : h.startsAnew s = true) : h.Bare (h.started s) := by
  rw [started_eq, if_pos anew]
  refine ⟨Shows.update (h.bare_clearBlocks (h.lit s)).blocks fun _ clear => clear, ?_⟩
  change Commanded.clearPeers (Commanded.setStatus .running (Commanded.clearPeers _)) =
    Commanded.setStatus .running (Commanded.clearPeers _)
  rw [Commanded.setStatus_clearPeers, Commanded.clearPeers_ofStatus]
  simp

/-- Who would start anew after a start has no process at all, and did start anew. -/
theorem startsAnew_of_started (again : h.startsAnew (h.started s) = true) : h.startsAnew s = true := by
  have gone : h.physical (h.lit s) = .stopped := by
    by_contra some
    have runs : h.physical (h.started s) = .running := by
      rw [started_eq]
      refine physical_settle ?_ .running
      split
      · rw [physical_clearBlocks]
        exact some
      · exact some
    simp [startsAnew, runs, NodeStatus.isLive] at again
  rw [physical_lit] at gone
  simp only [startsAnew, Bool.and_eq_true] at again ⊢
  rw [gone]
  exact ⟨⟨again.1.1, rfl⟩, rfl⟩

/-- A start finds what it asks for where a process runs, with power, that would lose no blocks. -/
theorem recounts_started (settled : h.Settled .running s) (on : h.poweredOff s = false)
    (bare : h.startsAnew s = true → h.Bare s) : s.Recounts (h.started s) := by
  rw [started_of_lit on]
  split
  · rename_i anew
    have cleared := (bare anew).recounts
    exact cleared.trans (settled.recounted cleared).recounts
  · exact settled.recounts

theorem repeats_started (h : Handle) (s : Seat) :
    (h.started s).Recounts (h.started (h.started s)) :=
  recounts_started (h.settled_started s) (h.poweredOff_started s) fun again =>
    bare_started (startsAnew_of_started again)

/-! ### Ending, freezing and unfreezing -/

theorem physical_stopped (h : Handle) (s : Seat) :
    h.physical (h.stopped s) = .killed ∨ h.physical (h.stopped s) = .stopped := by
  unfold stopped
  split
  · rename_i killed
    exact .inl killed
  · right
    split
    · exact or_self_iff.mp (physical_of_shows (shows_update fun _ => rfl))
    · exact or_self_iff.mp (physical_of_shows (h.settled_settle .stopped s).process)

theorem stopped_of_lit (some : h.physical s ≠ .killed) (lit : s.commanded.status ≠ .poweredOff) :
    h.stopped s = h.settle .stopped s := by
  rw [stopped, if_neg some, if_neg lit]

theorem repeats_stopped (h : Handle) (s : Seat) : (h.stopped s).Recounts (h.stopped (h.stopped s)) := by
  by_cases killed : h.physical s = .killed
  · have same : h.stopped s = s := if_pos killed
    rw [same, same]
    exact .refl s
  · by_cases dark : s.commanded.status = .poweredOff
    · -- The handle of a member without power goes on saying that there is none.
      have told : h.stopped s = h.update (fun m => { m with status := .stopped }) s := by
        rw [stopped, if_neg killed, if_pos dark]
      have ended : h.Shows (fun m => m.status = .stopped) (h.stopped s) := by
        rw [told]
        exact shows_update fun _ => rfl
      have still : (h.stopped s).commanded.status = .poweredOff := by
        rw [told]
        exact dark
      have alive : h.physical (h.stopped s) ≠ .killed := by
        rw [or_self_iff.mp (physical_of_shows ended)]
        simp
      have again : h.stopped (h.stopped s) =
          h.update (fun m => { m with status := .stopped }) (h.stopped s) := by
        rw [stopped, if_neg alive, if_pos still]
      rw [again]
      apply Seat.Recounts.update
      · intro m found
        simp only [← ended m found]
      · rfl
    · have told := stopped_of_lit killed dark
      have settled : h.Settled .stopped (h.stopped s) := by
        rw [told]
        exact h.settled_settle .stopped s
      have again : h.stopped (h.stopped s) = h.settle .stopped (h.stopped s) := by
        apply stopped_of_lit
        · rw [or_self_iff.mp (physical_of_shows settled.process)]
          simp
        · rw [← settled.command]
          simp [Commanded.setStatus, NodeStatus.isLive]
      rw [again]
      exact settled.recounts

theorem repeats_killed (h : Handle) (s : Seat) : (h.killed s).Recounts (h.killed (h.killed s)) := by
  by_cases some : (h.physical s).isLive = true ∨ h.physical s = .paused
  · have there : h.physical s ≠ .stopped := by
      intro ended
      simp [ended, NodeStatus.isLive] at some
    have told : h.killed s = h.settle .killed s := if_pos some
    have gone : h.physical (h.killed s) = .killed := by rw [told, physical_settle there]
    have again : h.killed (h.killed s) = h.killed s := by
      rw [killed, if_neg]
      simp [gone, NodeStatus.isLive]
    rw [again]
    exact .refl _
  · have same : h.killed s = s := if_neg some
    rw [same, same]
    exact .refl s

theorem repeats_resumed (h : Handle) (s : Seat) :
    (h.resumed s).Recounts (h.resumed (h.resumed s)) := by
  by_cases frozen : h.physical s = .paused
  · have told : h.resumed s = h.settle .running s := if_pos frozen
    have runs : h.physical (h.resumed s) = .running := by
      rw [told, physical_settle]
      simp [frozen]
    have again : h.resumed (h.resumed s) = h.resumed s := by
      rw [resumed, if_neg]
      simp [runs]
    rw [again]
    exact .refl _
  · have same : h.resumed s = s := if_neg frozen
    rw [same, same]
    exact .refl s

/-! ### Blocks -/

theorem repeats_disconnected (h : Handle) (peers : List Endpoint) (s : Seat) :
    (h.disconnected peers s).Recounts (h.disconnected peers (h.disconnected peers s)) := by
  have none : ((h.disconnected peers s).commanded.notBlocked peers).filter (fun e => e ≠ h.id) = [] := by
    apply List.filter_eq_nil_iff.mpr
    intro e mem
    rw [Commanded.notBlocked, List.mem_filter, Bool.not_eq_true', ← Bool.not_eq_true,
      EndpointSet.contains_iff, mem_peers_disconnected, not_or] at mem
    obtain ⟨asked, -, out⟩ := mem
    rw [decide_eq_true_eq]
    exact fun other => out ⟨asked, other⟩
  have again : h.disconnected peers (h.disconnected peers s) = h.disconnected peers s := by
    rw [disconnected, none]
    rfl
  rw [again]
  exact .refl _

theorem recounts_foldl {act : Seat → Endpoint → Seat} {es : List Endpoint}
    (still : ∀ e ∈ es, ∀ t, s.Recounts t → t.Recounts (act t e)) (recounts : s.Recounts t) :
    s.Recounts (es.foldl act t) := by
  induction es generalizing t with
  | nil => exact recounts
  | cons e es ih =>
    apply ih
    · intro x mem
      exact still x (List.mem_cons_of_mem e mem)
    · exact recounts.trans (still e List.mem_cons_self t recounts)

/-- Where nobody without peers counts as cut off, letting through whom nobody blocks changes nothing. -/
theorem recounts_unblock {e : Endpoint}
    (apart : s.commanded.status = .disconnected → s.commanded.peers ≠ .empty)
    (through : h.Shows (fun m => e ∉ m.blocked) s) (untold : e ∉ s.commanded.peers) :
    s.Recounts (h.unblock s e) := by
  have same : ∀ es : EndpointSet, e ∉ es → es.erase e = es := by
    intro es out
    apply EndpointSet.ext
    intro x
    rw [EndpointSet.mem_erase]
    refine and_iff_left_of_imp fun mem => ?_
    rintro rfl
    exact out mem
  apply Seat.Recounts.update
  · intro m found
    simp only [same m.blocked (through m found)]
  · rw [Commanded.removePeer, same _ untold]
    exact Commanded.withPeers_self apart

/-- A handle that was told to let somebody through knows that nobody without peers is cut off. -/
theorem apart_reconnected (h : Handle) {peers : List Endpoint} (some : peers ≠ []) (s : Seat) :
    (h.reconnected peers s).commanded.status = .disconnected →
      (h.reconnected peers s).commanded.peers ≠ .empty := by
  obtain ⟨before, e, rfl⟩ := (List.eq_nil_or_concat peers).resolve_left some
  rw [reconnected, List.concat_eq_append, List.foldl_append]
  exact Commanded.apart_withPeers

theorem repeats_reconnected (h : Handle) (peers : List Endpoint) (s : Seat) :
    (h.reconnected peers s).Recounts (h.reconnected peers (h.reconnected peers s)) := by
  refine recounts_foldl (fun e mem t recounts => ?_) (.refl _)
  apply recounts_unblock
  · rw [recounts.commanded]
    exact h.apart_reconnected (List.ne_nil_of_mem mem) s
  · refine Shows.recounted (fun m found blocked => ?_) recounts
    have there : e ∈ (h.reconnected peers s).fabric.blockedBy h.id := by
      rw [Fabric.blockedBy, found]
      exact blocked
    exact (mem_blockedBy_reconnected.mp there).2 rfl mem
  · rw [recounts.commanded, mem_peers_reconnected]
    exact fun still => still.2 mem

/-! ### Power, and the end -/

theorem repeats_destroyed (h : Handle) (s : Seat) :
    (h.destroyed s).Recounts (h.destroyed (h.destroyed s)) := by
  have gone : h.Shows (fun m => m.destroyed = true ∧ m.blocked = .empty) (h.destroyed s) :=
    shows_update fun _ => ⟨rfl, rfl⟩
  apply Seat.Recounts.update
  · intro m found
    obtain ⟨destroyed, clear⟩ := gone m found
    simp only [← destroyed, ← clear]
  · change Commanded.setStatus .stopped (Commanded.clearPeers _) =
      Commanded.setStatus .stopped (Commanded.clearPeers _)
    rw [Commanded.setStatus_clearPeers, Commanded.setStatus_clearPeers]

theorem repeats_powerCycled (h : Handle) (power : PowerState) {status : NodeStatus}
    (plain : status ≠ .disconnected) (s : Seat) : (h.powerCycled power status s).Recounts
      (h.powerCycled power status (h.powerCycled power status s)) := by
  have left : h.Shows (fun m => (m.power = power ∧ m.status = .stopped) ∧ m.blocked = .empty)
      (h.powerCycled power status s) :=
    Shows.update (P := fun m => m.power = power ∧ m.status = .stopped)
      (shows_update fun _ => ⟨rfl, rfl⟩) fun _ kept => ⟨kept, rfl⟩
  have told : (h.powerCycled power status s).commanded = .ofStatus status :=
    Commanded.setStatus_clearPeers status s.commanded
  have recorded : (h.powerCycled power status s).commanded.setStatus status =
      (h.powerCycled power status s).commanded := rfl
  generalize h.powerCycled power status s = u at left told recorded
  have cycled : u.Recounts (h.update (fun m => { m with power := power, status := .stopped }) u) := by
    apply Seat.Recounts.update
    · intro m found
      obtain ⟨⟨on, ended⟩, -⟩ := left m found
      simp only [← on, ← ended]
    · rfl
  have bare : h.Bare u := by
    refine ⟨fun m found => (left m found).2, ?_⟩
    rw [told, Commanded.clearPeers_ofStatus plain]
  have cleared := cycled.trans (bare.recounted cycled).recounts
  refine cleared.trans ⟨rfl, .inl rfl, ?_⟩
  rw [← cleared.commanded] at recorded
  exact recorded

theorem poweredOff_poweredOn (h : Handle) (s : Seat) : h.poweredOff (h.poweredOn s) = false := by
  simp only [poweredOn]
  split
  · exact h.poweredOff_energize s
  · exact h.poweredOff_energize s

theorem repeats_poweredOn (h : Handle) (s : Seat) :
    (h.poweredOn s).Recounts (h.poweredOn (h.poweredOn s)) := by
  have told : (h.poweredOn s).commanded.status ≠ .poweredOff := by
    simp only [poweredOn]
    split
    · simp [record, Commanded.setStatus, NodeStatus.isLive]
    · rename_i told
      exact told
  have again : h.poweredOn (h.poweredOn s) = h.poweredOn s := by
    have still : h.energize (h.poweredOn s) = h.poweredOn s :=
      if_neg (Bool.eq_false_iff.mp (h.poweredOff_poweredOn s))
    rw [poweredOn, still]
    exact if_neg told
  rw [again]
  exact .refl _

/-! ### One operation -/

/-- An operation that, having succeeded, succeeds again and finds nothing to do, and that changes nothing
where it fails. -/
structure Steady (h : Handle) (act : Seat → Except Failure Unit × Seat) : Prop where
  own : h.Local fun s => (act s).2
  repeats : ∀ s t, act s = (.ok (), t) → ∃ u, act t = (.ok (), u) ∧ t.Recounts u
  refuses : ∀ s e t, act s = (.error e, t) → t = s

theorem Steady.of_change {f : Seat → Seat} (own : h.Local f) (again : ∀ s, (f s).Recounts (f (f s))) :
    h.Steady fun s => (.ok (), f s) := by
  refine ⟨own, fun s t done => ?_, fun s e t failed => ?_⟩
  · cases done
    exact ⟨_, rfl, again s⟩
  · cases failed

theorem steady_paused (h : Handle) : h.Steady h.paused := by
  refine ⟨.paused, fun s t done => ?_, fun s e t failed => ?_⟩
  · suffices frozen : h.physical t = .paused by
      exact ⟨t, if_pos frozen, .refl t⟩
    unfold paused at done
    split at done
    · rename_i frozen
      cases done
      exact frozen
    · split at done
      · cases done
      · rename_i runs
        cases done
        apply physical_settle
        intro ended
        simp [ended, NodeStatus.isLive] at runs
  · unfold paused at failed
    split at failed
    · cases failed
    · split at failed
      · cases failed
        rfl
      · cases failed

theorem steady_idle (h : Handle) : h.Steady fun s => (.ok (), s) :=
  .of_change .idle fun s => .refl s

section guarded
variable {op : Operation} {act : Seat → Except Failure Unit × Seat} {e : Failure}

theorem Local.calm {act : Seat → Seat} (own : h.Local act) (calm : (h.id, op) ∉ s.fabric.failNext) :
    (h.id, op) ∉ (act s).fabric.failNext := by
  obtain ⟨k, edit, edited⟩ := own.edits s
  rw [edited]
  exact edit.calm calm

theorem guarded_eq_ok (done : h.guarded op act s = (.ok (), t)) :
    (h.id, op) ∉ s.fabric.failNext ∧ act s = (.ok (), t) := by
  unfold guarded at done
  split at done
  · cases done
  · rename_i clear
    exact ⟨fun asked => clear (List.contains_iff_mem.mpr asked), done⟩

theorem guarded_of_calm (calm : (h.id, op) ∉ s.fabric.failNext) : h.guarded op act s = act s :=
  if_neg fun asked => calm (List.contains_iff_mem.mp asked)

namespace Steady

/-- What has succeeded succeeds again. -/
theorem repeats_guarded (steady : h.Steady act) (done : h.guarded op act s = (.ok (), t)) :
    ∃ u, h.guarded op act t = (.ok (), u) ∧ t.Recounts u := by
  obtain ⟨calm, made⟩ := guarded_eq_ok done
  obtain ⟨u, again, recounts⟩ := steady.repeats s t made
  have still : (h.id, op) ∉ (act s).2.fabric.failNext := Local.calm steady.own calm
  rw [made] at still
  refine ⟨u, ?_, recounts⟩
  rw [guarded_of_calm still, again]

/-- What has failed has changed nothing, or has spent the failure that was asked for. -/
theorem refuses_guarded (steady : h.Steady act) (failed : h.guarded op act s = (.error e, t)) :
    t = s ∨ (h.id, op) ∈ s.fabric.failNext ∧ e = .ofNode h.id op.name .injected ∧
      t = { s with fabric := s.fabric.spendFailure h.id op } := by
  unfold guarded at failed
  split at failed
  · rename_i asked
    cases failed
    exact .inr ⟨List.contains_iff_mem.mp asked, rfl, rfl⟩
  · exact .inl (steady.refuses s e t failed)

end Steady

end guarded

/-! ### Commands -/

theorem requirePower_eq_ok (machine : h.flavor = .machine) : h.node.requirePower = .ok h.power := by
  simp [Node.requirePower, node, machine]

theorem requirePower_eq_error (container : h.flavor ≠ .machine) :
    h.node.requirePower = .error (.unsupported h.id "power control") := by
  simp [Node.requirePower, node, container]

/-- Whether an attempt is one operation, or is refused at any seat without a change. -/
def OneOrNone (h : Handle) (c : Attempt Seat Failure Unit) : Prop :=
  (∃ op act, h.Steady act ∧ ∀ s, c.result s = h.guarded op act s) ∨ ∃ e, ∀ s, c.result s = (.error e, s)

/-- What is done with the control over the power is one operation, or there is no such control. -/
theorem OneOrNone.power (op : Operation) {act : Seat → Except Failure Unit × Seat}
    {f : Power Seat → Attempt Seat Failure Unit} (steady : h.Steady act)
    (made : ∀ s, (f h.power).result s = h.guarded op act s) :
    h.OneOrNone (Attempt.give h.node.requirePower >>= f) := by
  by_cases machine : h.flavor = .machine
  · rw [requirePower_eq_ok machine]
    exact .inl ⟨op, act, steady, made⟩
  · rw [requirePower_eq_error machine]
    exact .inr ⟨_, fun s => rfl⟩

/-- A command other than a restart is one operation, or nothing can be done about it. -/
theorem oneOrNone_tell (h : Handle) {cmd : Command} (single : cmd ≠ .restart) :
    h.OneOrNone (cmd.tell h.node) := by
  have one : ∀ {op : Operation} {act : Seat → Except Failure Unit × Seat}, h.Steady act →
      h.OneOrNone (h.perform op act) := fun {op act} steady =>
    .inl ⟨op, act, steady, h.result_perform op act⟩
  cases cmd with
  | start => exact one (.of_change .started h.repeats_started)
  | stop grace => exact one (.of_change .stopped h.repeats_stopped)
  | kill => exact one (.of_change .killed h.repeats_killed)
  | pause => exact one h.steady_paused
  | resume => exact one (.of_change .resumed h.repeats_resumed)
  | disconnect peers => exact one (.of_change (.disconnected peers) (h.repeats_disconnected peers))
  | reconnect peers => exact one (.of_change (.reconnected peers) (h.repeats_reconnected peers))
  | restart => exact absurd rfl single
  | destroy => exact one (.of_change .destroyed h.repeats_destroyed)
  | powerOff =>
    exact .power _ (.of_change (.powerCycled .off .poweredOff) (h.repeats_powerCycled .off (by simp)))
      (h.result_perform .powerOff _)
  | powerOn => exact .power _ (.of_change .poweredOn h.repeats_poweredOn) (h.result_perform .powerOn _)
  | reboot =>
    exact .power _ (.of_change (.powerCycled .on .stopped) (h.repeats_powerCycled .on (by simp)))
      (h.result_perform .reboot _)
  | powerState =>
    refine .power .powerState h.steady_idle fun s => ?_
    rw [Attempt.result_bind, show h.power.state.result s = _ from h.result_perform .powerState _ s]
    by_cases asked : s.fabric.failNext.contains (h.id, Operation.powerState)
    · simp only [guarded, if_pos asked]
    · simp only [guarded, if_neg asked]
      rfl

/-- A restart stops the member and starts it, unless one of the two is to fail. -/
theorem result_restart (calm : (h.id, Operation.stop) ∉ s.fabric.failNext)
    (calm' : (h.id, Operation.start) ∉ s.fabric.failNext) :
    h.node.restart.result s = (.ok (), h.started (h.stopped s)) := by
  have ended : h.stop.result s = (.ok (), h.stopped s) := by
    rw [show h.stop.result s = _ from h.result_perform .stop _ s, guarded_of_calm calm]
  have begun : h.start.result (h.stopped s) = (.ok (), h.started (h.stopped s)) := by
    rw [show h.start.result (h.stopped s) = _ from h.result_perform .start _ _,
      guarded_of_calm (Local.calm .stopped calm')]
  change (h.stop >>= fun _ => h.start).result s = _
  rw [Attempt.result_bind, ended]
  exact begun

theorem calm_of_restart (done : h.node.restart.result s = (.ok (), t)) :
    (h.id, Operation.stop) ∉ s.fabric.failNext ∧
      (h.id, Operation.start) ∉ (h.stopped s).fabric.failNext ∧ t = h.started (h.stopped s) := by
  have done : (h.stop >>= fun _ => h.start).result s = (.ok (), t) := done
  obtain ⟨⟨⟩, u, ended, begun⟩ := Attempt.bind_eq_ok done
  obtain ⟨calm, made⟩ := guarded_eq_ok ((h.result_perform .stop _ s).symm.trans ended)
  cases made
  obtain ⟨calm', made⟩ := guarded_eq_ok ((h.result_perform .start _ _).symm.trans begun)
  cases made
  exact ⟨calm, calm', rfl⟩

theorem settle_settle (h : Handle) (status status' : NodeStatus) (s : Seat) :
    h.settle status' (h.settle status s) = h.settle status' s := by
  simp only [settle, Fabric.update_update, Commanded.setStatus_setStatus, Function.comp_def]

theorem settle_recounted (recounts : s.Recounts t) : h.settle status t = h.settle status s := by
  rw [settle, recounts.fabric, recounts.commanded]
  rfl

/-- A member that has just been restarted is found the same by another restart: ending its process
undoes the change of the process alone, and a process that starts anew has no blocks to lose. -/
theorem repeats_restarted (h : Handle) (s : Seat) :
    (h.started (h.stopped s)).Recounts (h.started (h.stopped (h.started (h.stopped s)))) := by
  have settled := h.settled_started (h.stopped s)
  have on := h.poweredOff_started (h.stopped s)
  have bare : h.flavor = .container → h.Bare (h.started (h.stopped s)) := by
    intro container
    apply bare_started
    rcases h.physical_stopped s with ended | ended
    · simp [startsAnew, container, ended, NodeStatus.isLive]
    · simp [startsAnew, container, ended, NodeStatus.isLive]
  generalize h.started (h.stopped s) = u at settled on bare
  have ended : h.stopped u = h.settle .stopped u := by
    apply stopped_of_lit
    · rcases physical_of_shows settled.process with runs | ended
      · simp [runs]
      · simp [ended]
    · rw [← settled.command]
      simp only [Commanded.setStatus]
      split
      · simp
      · simp
  have dark : h.poweredOff (h.settle .stopped u) = false := lit_update on fun _ => rfl
  rw [ended, started_of_lit dark]
  split
  · rename_i anew
    have clear := bare (by
      simp only [startsAnew, Bool.and_eq_true] at anew
      exact of_decide_eq_true anew.1.1)
    have cleared : (h.settle .stopped u).Recounts (h.clearBlocks (h.settle .stopped u)) := by
      apply Bare.recounts
      refine ⟨clear.blocks.update fun _ none => none, ?_⟩
      change (Commanded.setStatus .stopped u.commanded).clearPeers =
        Commanded.setStatus .stopped u.commanded
      rw [← clear.peers, Commanded.setStatus_clearPeers, Commanded.clearPeers_ofStatus]
      simp
    rw [settle_recounted cleared, settle_settle]
    exact settled.recounts
  · rw [settle_settle]
    exact settled.recounts

/-- What a handle was told with success, it does again with success, and finds nothing to do. -/
theorem repeats_tell (h : Handle) (cmd : Command) (done : (cmd.tell h.node).result s = (.ok (), t)) :
    ∃ u, (cmd.tell h.node).result t = (.ok (), u) ∧ t.Recounts u := by
  by_cases restart : cmd = .restart
  · subst restart
    obtain ⟨calm, calm', made⟩ := calm_of_restart done
    subst made
    refine ⟨_, result_restart ?_ ?_, h.repeats_restarted s⟩
    · exact Local.calm .started (Local.calm .stopped calm)
    · exact Local.calm .started calm'
  · obtain ⟨op, act, steady, told⟩ | ⟨e, told⟩ := h.oneOrNone_tell restart
    · rw [told] at done
      rw [told]
      exact steady.repeats_guarded done
    · rw [told] at done
      cases done

/-- What a handle was told without success changed nothing, but that a failure was spent. -/
theorem refuses_tell (h : Handle) {cmd : Command} (single : cmd ≠ .restart) {e : Failure}
    (failed : (cmd.tell h.node).result s = (.error e, t)) : t = s ∨ ∃ op : Operation,
      (h.id, op) ∈ s.fabric.failNext ∧ e = .ofNode h.id op.name .injected ∧
        t = { s with fabric := s.fabric.spendFailure h.id op } := by
  obtain ⟨op, act, steady, told⟩ | ⟨e', told⟩ := h.oneOrNone_tell single
  · rw [told] at failed
    exact (steady.refuses_guarded failed).imp_right fun spent => ⟨op, spent⟩
  · rw [told] at failed
    cases failed
    exact .inl rfl

end Handle

/-! ### In a lab -/

namespace Lab
variable {number : Nat} {lab : Lab}

theorem set_recounted {s t : Seat} (recounts : s.Recounts t) :
    ∃ lag, (lag = ((seat number).set s lab).fabric.lagRemaining ∨
        lag = ((seat number).set s lab).fabric.detectionLag) ∧
      (seat number).set t ((seat number).set s lab) =
        ((seat number).set s lab).onFabric fun f => { f with lagRemaining := lag } := by
  refine ⟨t.fabric.lagRemaining, recounts.counting, ?_⟩
  rw [(lawful_seat number).set_set t s lab]
  simp only [seat, onFabric, recounts.commanded]
  rw [← recounts.fabric]

/-- **A handle that is told the same twice does it once, and a command that fails changes nothing.**
Where a command succeeds it succeeds again at once, and the lab is left as it is but for the readings
that the detector waits for.  Where a command other than a restart fails, the lab is left as it is but
for the failure that was asked for, if this is why. -/
theorem tell_again (there : number < lab.handles.length) (h : Handle) (cmd : Command) :
    (∀ lab', (cmd.tell (node number h)).result lab = (.ok (), lab') →
      ∃ lag, (lag = lab'.fabric.lagRemaining ∨ lag = lab'.fabric.detectionLag) ∧
        (cmd.tell (node number h)).result lab' =
          (.ok (), lab'.onFabric fun f => { f with lagRemaining := lag })) ∧
    (cmd ≠ .restart → ∀ e lab', (cmd.tell (node number h)).result lab = (.error e, lab') →
      lab' = lab ∨ ∃ op : Operation, (h.id, op) ∈ lab.fabric.failNext ∧
        e = .ofNode h.id op.name .injected ∧ lab' = lab.onFabric (Fabric.spendFailure h.id op)) := by
  have lawful := lawful_seat number
  have told : ∀ {lab : Lab}, number < lab.handles.length → (cmd.tell (node number h)).result lab =
      (((cmd.tell h.node).result ((seat number).get lab)).1,
        (seat number).set ((cmd.tell h.node).result ((seat number).get lab)).2 lab) := by
    intro lab there
    rw [node, Command.tell_focus]
    exact Call.result_focus lawful (cmd.tell h.node).toCall there
  constructor
  · intro lab' done
    rw [told there] at done
    rcases made : (cmd.tell h.node).result ((seat number).get lab) with ⟨outcome, s⟩
    rw [made] at done
    cases done
    obtain ⟨t, again, recounts⟩ := h.repeats_tell cmd made
    obtain ⟨lag, counted, same⟩ := set_recounted recounts
    refine ⟨lag, counted, ?_⟩
    rw [told (lawful.stays s lab there), lawful.get_set s lab there, again, same]
  · intro single e lab' failed
    rw [told there] at failed
    rcases made : (cmd.tell h.node).result ((seat number).get lab) with ⟨outcome, s⟩
    rw [made] at failed
    cases failed
    obtain same | ⟨op, asked, why, spent⟩ := h.refuses_tell single made
    · left
      rw [same]
      exact lawful.set_get lab there
    · refine .inr ⟨op, asked, why, ?_⟩
      have same := lawful.set_get lab there
      rw [spent]
      exact congrArg (onFabric (Fabric.spendFailure h.id op)) same

/-- The second machine, which was paused and cut off, is restarted, and again; the third one has no power
and cannot be paused. -/
theorem tell_again_dimmed : (1 < dimmed.handles.length ∧ 2 < dimmed.handles.length) ∧
    (∃ lab' lag, (Command.restart.tell (node 1 ⟨endpointAt 1 9000, .machine⟩)).result dimmed =
        (.ok (), lab') ∧
      lab'.handles.map Commanded.status = [.running, .disconnected, .poweredOff] ∧
      (Command.restart.tell (node 1 ⟨endpointAt 1 9000, .machine⟩)).result lab' =
        (.ok (), lab'.onFabric fun f => { f with lagRemaining := lag })) ∧
    ∃ e, (Command.pause.tell (node 2 ⟨endpointAt 2 9000, .machine⟩)).result dimmed =
      (.error e, dimmed) := by
  have second : 1 < dimmed.handles.length := by decide +kernel
  have third : 2 < dimmed.handles.length := by decide +kernel
  have restarted := Attempt.eq_ok_of_toOption (s := dimmed) (a := ())
    (c := Command.restart.tell (node 1 ⟨endpointAt 1 9000, .machine⟩)) (by decide +kernel)
  have refused : ((Command.pause.tell (node 2 ⟨endpointAt 2 9000, .machine⟩)).result
      dimmed).1.toOption = none := by decide +kernel
  obtain ⟨lag, -, again⟩ := (tell_again second ⟨endpointAt 1 9000, .machine⟩ .restart).1 _ restarted
  refine ⟨⟨second, third⟩, ⟨_, lag, restarted, by decide +kernel, again⟩, ?_⟩
  rcases made : (Command.pause.tell (node 2 ⟨endpointAt 2 9000, .machine⟩)).result dimmed
    with ⟨outcome, lab'⟩
  rw [made] at refused
  cases outcome with
  | ok done => cases refused
  | error e =>
    obtain same | ⟨op, asked, -⟩ :=
      (tell_again third ⟨endpointAt 2 9000, .machine⟩ .pause).2 (by simp) e lab' made
    · exact ⟨e, by rw [same]⟩
    · have calm : dimmed.fabric.failNext = [] := by decide +kernel
      rw [calm] at asked
      cases asked

end Lab

end Simulation

end FaultLab
