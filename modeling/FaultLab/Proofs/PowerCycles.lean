import FaultLab.Proofs.Repetitions

/-! # Coming back from a power cycle

A member that has no power comes back in two ways: it is started, or it is given power and then started.
Both are one change of the member (`Handle.started_of_dark`, `Handle.started_poweredOn_of_dark`): the
first takes its blocks down, the second does not, so the two agree where there are none.

There are none when the power goes.  `Fabric.Dark` says that a member has no power and blocks somebody
all the same; `Handle.Does.dark` finds the one command that brings this about, a disconnect without
power, and `Lab.blocked_in_the_dark` traces every such block through a session back to it. -/

namespace FaultLab

/-- What is recorded of a live member that blocks some peers. -/
def Commanded.livingWith (peers : EndpointSet) : Commanded where
  status := if peers.isEmpty then .running else .disconnected
  peers := peers

theorem Commanded.setStatus_running (c : Commanded) : c.setStatus .running = .livingWith c.peers := by
  unfold setStatus livingWith
  cases c.peers.isEmpty <;> rfl

namespace Simulation

/-- A member with power whose process runs, and that blocks some peers. -/
def Member.livingWith (m : Member) (peers : EndpointSet) : Member :=
  { m with power := .on, status := .running, blocked := peers }

namespace Fabric
variable {e y : Endpoint} {f g : Fabric} {c d : Member → Member}

theorem update_congr {m : Member} (found : f.members.get? e = some m) (same : c m = d m) :
    f.update e c = f.update e d := by
  have members : f.members.update e c = f.members.update e d := by
    apply EndpointTable.ext
    intro x
    rw [EndpointTable.get?_update, EndpointTable.get?_update, found, Option.map_some, Option.map_some,
      same]
  simp only [Fabric.update, members]

theorem get?_livingWith {m : Member} (found : f.members.get? e = some m)
    (blocks : Member → EndpointSet) :
    (f.update e fun m => m.livingWith (blocks m)).members.get? e = some (m.livingWith (blocks m)) := by
  rw [update, touch, EndpointTable.get?_update, if_pos rfl, found, Option.map_some]

/-- Whether a member has no power and blocks somebody all the same. -/
def Dark (f : Fabric) (e y : Endpoint) : Prop := f.poweredOff e = true ∧ y ∈ f.blockedBy e

theorem dark_iff : f.Dark e y ↔ ∃ m, f.members.get? e = some m ∧ m.power = .off ∧ y ∈ m.blocked := by
  unfold Dark poweredOff blockedBy
  cases f.members.get? e with
  | none => simp
  | some m => simp

/-- What spares the power and the blocks of a member spares both. -/
theorem dark_update (power : ∀ m, (c m).power = m.power) (blocked : ∀ m, (c m).blocked = m.blocked) :
    (f.update e c).Dark e y ↔ f.Dark e y := by
  rw [dark_iff, dark_iff, update, touch, EndpointTable.get?_update, if_pos rfl]
  cases f.members.get? e with
  | none => simp
  | some m => simp [power, blocked]

theorem not_dark_update (cleared : ∀ m, (c m).blocked = .empty) : ¬ (f.update e c).Dark e y := by
  rw [dark_iff, update, touch, EndpointTable.get?_update, if_pos rfl]
  rintro ⟨m, found, -, blocked⟩
  obtain ⟨old, -, rfl⟩ := Option.map_eq_some_iff.mp found
  rw [cleared] at blocked
  exact EndpointSet.not_mem_empty y blocked

theorem dark_of_ground (ground : g.ground e = f.ground e) : g.Dark e y ↔ f.Dark e y := by
  have seen : ∀ f : Fabric, f.Dark e y ↔ ∃ m, f.ground e = some m ∧ m.power = .off ∧ y ∈ m.blocked := by
    intro f
    rw [dark_iff, Fabric.ground]
    cases f.members.get? e with
    | none => simp
    | some m => simp
  rw [seen, seen, ground]

end Fabric

namespace Handle
variable {h : Handle} {s t : Seat} {cmd : Command} {y : Endpoint}

/-! ### Two ways back -/

/-- A start gives power and takes the blocks down. -/
theorem started_of_dark (machine : h.flavor = .machine) (off : h.poweredOff s = true) :
    h.started s = ⟨s.fabric.update h.id fun m => m.livingWith .empty, .livingWith .empty⟩ := by
  have keeps : h.startsAnew s = false := by simp [startsAnew, machine]
  have lit : h.lit s = h.clearBlocks (h.update (fun m => { m with power := .on }) s) := by
    rw [Handle.lit, if_pos off, energize, if_pos off]
  rw [started_eq, keeps, if_neg Bool.false_ne_true, lit]
  simp only [settle, clearBlocks, update, Fabric.update_update, Commanded.setStatus_running]
  rfl

/-- A member that is given power first keeps its blocks. -/
theorem started_poweredOn_of_dark (machine : h.flavor = .machine) (off : h.poweredOff s = true) :
    h.started (h.poweredOn s) =
      ⟨s.fabric.update h.id fun m => m.livingWith m.blocked, .livingWith s.commanded.peers⟩ := by
  have keeps : h.startsAnew (h.poweredOn s) = false := by simp [startsAnew, machine]
  have fabric : (h.poweredOn s).fabric = s.fabric.update h.id fun m => { m with power := .on } := by
    simp only [poweredOn, energize, if_pos off]
    split <;> rfl
  have peers : (h.poweredOn s).commanded.peers = s.commanded.peers := by
    simp only [poweredOn, energize, if_pos off]
    split <;> rfl
  rw [started_of_lit (h.poweredOff_poweredOn s), keeps, if_neg Bool.false_ne_true]
  simp only [settle, fabric, Fabric.update_update, Commanded.setStatus_running, peers]
  rfl

/-- The two ways back are one where there are no blocks, and only there. -/
theorem started_eq_iff {m : Member} (machine : h.flavor = .machine)
    (found : s.fabric.members.get? h.id = some m) (off : m.power = .off)
    (same : s.commanded.peers = m.blocked) :
    h.started s = h.started (h.poweredOn s) ↔ m.blocked = .empty := by
  have dark : h.poweredOff s = true := by rw [poweredOff_eq found, off, decide_eq_true rfl]
  rw [started_of_dark machine dark, started_poweredOn_of_dark machine dark, same]
  constructor
  · intro one
    have members := congrArg (fun s : Seat => s.fabric.members.get? h.id) one
    rw [Fabric.get?_livingWith found fun _ => .empty, Fabric.get?_livingWith found Member.blocked]
      at members
    exact (congrArg Member.blocked (Option.some.inj members)).symm
  · intro none
    have fabric : (s.fabric.update h.id fun m => m.livingWith .empty) =
        s.fabric.update h.id fun m => m.livingWith m.blocked := by
      apply Fabric.update_congr found
      rw [none]
    rw [fabric, none]

/-! ### Blocks without power -/

theorem Spares.poweredOff (spares : Spares s t) : h.poweredOff t = h.poweredOff s := by
  simp only [Handle.poweredOff, Fabric.poweredOff, spares.members h.id]
  cases s.fabric.members.get? h.id with
  | none => rfl
  | some m => rfl

theorem dark_settle (status : NodeStatus) :
    (h.settle status s).fabric.Dark h.id y ↔ s.fabric.Dark h.id y :=
  Fabric.dark_update (c := fun m => { m with status := status }) (fun _ => rfl) fun _ => rfl

theorem not_dark_clearBlocks (h : Handle) (s : Seat) : ¬ (h.clearBlocks s).fabric.Dark h.id y :=
  Fabric.not_dark_update (c := fun m => { m with blocked := .empty }) fun _ => rfl

theorem dark_stopped : (h.stopped s).fabric.Dark h.id y ↔ s.fabric.Dark h.id y := by
  unfold stopped
  split
  · exact Iff.rfl
  · split
    · exact Fabric.dark_update (c := fun m => { m with status := .stopped }) (fun _ => rfl) fun _ => rfl
    · exact dark_settle .stopped

theorem not_dark_started (h : Handle) (s : Seat) : ¬ (h.started s).fabric.Dark h.id y :=
  fun dark => absurd dark.1 (Bool.eq_false_iff.mp (h.poweredOff_started s))

theorem dark_of_killed (dark : (h.killed s).fabric.Dark h.id y) : s.fabric.Dark h.id y := by
  unfold killed at dark
  split at dark
  · exact (dark_settle .killed).mp dark
  · exact dark

theorem dark_of_paused (dark : (h.paused s).2.fabric.Dark h.id y) : s.fabric.Dark h.id y := by
  unfold paused at dark
  split at dark
  · exact dark
  · split at dark
    · exact dark
    · exact (dark_settle .paused).mp dark

theorem dark_of_resumed (dark : (h.resumed s).fabric.Dark h.id y) : s.fabric.Dark h.id y := by
  unfold resumed at dark
  split at dark
  · exact (dark_settle .running).mp dark
  · exact dark

theorem spares_disconnected (h : Handle) (peers : List Endpoint) (s : Seat) :
    Spares s (h.disconnected peers s) := .foldl (.block h) _ s

theorem dark_of_disconnected {peers : List Endpoint}
    (dark : (h.disconnected peers s).fabric.Dark h.id y) :
    s.fabric.Dark h.id y ∨ y ∈ peers ∧ h.poweredOff s = true := by
  have off : h.poweredOff s = true := (h.spares_disconnected peers s).poweredOff.symm.trans dark.1
  rcases mem_blockedBy_disconnected dark.2 with old | ⟨-, told⟩
  · exact .inl ⟨off, old⟩
  · exact .inr ⟨told, off⟩

theorem dark_of_reconnected {peers : List Endpoint}
    (dark : (h.reconnected peers s).fabric.Dark h.id y) : s.fabric.Dark h.id y := by
  have spares : Spares s (h.reconnected peers s) := .foldl (.unblock h) peers s
  exact ⟨spares.poweredOff.symm.trans dark.1, (mem_blockedBy_reconnected.mp dark.2).1⟩

/-- **Who is blocked by a member without power.**  After a step of a command this is somebody who was
blocked by it without power before, or whom it was told to block without power. -/
theorem Does.dark (does : h.Does cmd s t) (dark : t.fabric.Dark h.id y) :
    s.fabric.Dark h.id y ∨ ∃ peers, cmd = .disconnect peers ∧ y ∈ peers ∧ h.poweredOff s = true := by
  cases does with
  | idle => exact .inl dark
  | refused op asked => exact .inl dark
  | changed change able =>
    cases cmd with
    | start =>
      rw [List.mem_singleton.mp able] at dark
      exact absurd dark (h.not_dark_started s)
    | stop grace =>
      rw [List.mem_singleton.mp able] at dark
      exact .inl (dark_stopped.mp dark)
    | kill =>
      rw [List.mem_singleton.mp able] at dark
      exact .inl (dark_of_killed dark)
    | pause =>
      rw [List.mem_singleton.mp able] at dark
      exact .inl (dark_of_paused dark)
    | resume =>
      rw [List.mem_singleton.mp able] at dark
      exact .inl (dark_of_resumed dark)
    | disconnect peers =>
      rw [List.mem_singleton.mp able] at dark
      rcases dark_of_disconnected dark with old | ⟨told, off⟩
      · exact .inl old
      · exact .inr ⟨peers, rfl, told, off⟩
    | reconnect peers =>
      rw [List.mem_singleton.mp able] at dark
      exact .inl (dark_of_reconnected dark)
    | restart =>
      rcases List.mem_cons.mp able with rfl | able
      · exact .inl (dark_stopped.mp dark)
      · rw [List.mem_singleton.mp able] at dark
        exact absurd dark (h.not_dark_started s)
    | destroy =>
      rw [List.mem_singleton.mp able] at dark
      exact absurd dark (Fabric.not_dark_update fun _ => rfl)
    | powerOff =>
      obtain ⟨-, rfl⟩ := machine_of_mem able
      exact absurd dark (h.not_dark_clearBlocks _)
    | powerOn =>
      obtain ⟨-, rfl⟩ := machine_of_mem able
      exact absurd dark.1 (Bool.eq_false_iff.mp (h.poweredOff_poweredOn s))
    | reboot =>
      obtain ⟨-, rfl⟩ := machine_of_mem able
      exact absurd dark (h.not_dark_clearBlocks _)
    | powerState => cases able

/-- Whom to block has nothing to do with the power. -/
theorem Does.poweredOff {peers : List Endpoint} (does : h.Does (.disconnect peers) s t) :
    h.poweredOff t = h.poweredOff s := by
  cases does with
  | idle => rfl
  | refused op asked => rfl
  | changed change able =>
    rw [List.mem_singleton.mp able]
    exact (h.spares_disconnected peers s).poweredOff

end Handle

/-! ### In a lab -/

namespace Lab
variable {lab made : Lab} {d : Deed} {number : Nat} {h : Handle} {y : Endpoint}

/-- Whether a handle was told to block somebody while its member had no power, which has not come back
since. -/
def ToldInTheDark (lab : Lab) (number : Nat) (h : Handle) (y : Endpoint) (ds : List Deed) : Prop :=
  ∃ before peers deadline later,
    ds = before ++ .command number h (.disconnect peers) deadline :: later ∧ y ∈ peers ∧
      ∀ soon, soon <+: .command number h (.disconnect peers) deadline :: later →
        (lab.after (before ++ soon)).fabric.poweredOff h.id = true

/-- A command to a handle has its member block somebody without power who was not blocked so before only
if it says this, and if there was no power before. -/
theorem dark_own_command {cmd : Command} {deadline : Option Nat}
    (dark : (lab.perform (.command number h cmd deadline)).fabric.Dark h.id y) :
    lab.fabric.Dark h.id y ∨
      ∃ peers, cmd = .disconnect peers ∧ y ∈ peers ∧ lab.fabric.poweredOff h.id = true := by
  let Traced := fun lab' : Lab =>
    (lab'.fabric.Dark h.id y → lab.fabric.Dark h.id y ∨
      ∃ peers, cmd = .disconnect peers ∧ y ∈ peers ∧ lab.fabric.poweredOff h.id = true) ∧
    ∀ peers, cmd = .disconnect peers → lab'.fabric.poweredOff h.id = lab.fabric.poweredOff h.id
  have step : ∀ lab' lab'', (∃ t, h.Does cmd ((seat number).get lab') t ∧
      lab'' = (seat number).set t lab') → Traced lab' → Traced lab'' := by
    rintro lab' _ ⟨t, does, rfl⟩ ⟨traced, power⟩
    refine ⟨fun dark => ?_, fun peers asked => ?_⟩
    · rcases does.dark dark with old | ⟨peers, asked, told, off⟩
      · exact traced old
      · refine .inr ⟨peers, asked, told, ?_⟩
        rw [← power peers asked]
        exact off
    · subst asked
      rw [← power peers rfl]
      exact does.poweredOff
  rw [perform] at dark
  split at dark
  · have start : Traced lab := ⟨.inl, fun _ _ => rfl⟩
    exact ((steps_within_does number h cmd deadline).keeps step start).1 dark
  · exact .inl dark

/-- What leaves the member to its handle has it block somebody without power, who was not blocked so
before, only if it is a command that says this, and if there was no power before. -/
theorem dark_perform (alone : d.LeavesTo number h) (dark : (lab.perform d).fabric.Dark h.id y) :
    lab.fabric.Dark h.id y ∨ ∃ peers deadline, d = .command number h (.disconnect peers) deadline ∧
      y ∈ peers ∧ lab.fabric.poweredOff h.id = true := by
  by_cases own : ∃ cmd deadline, d = .command number h cmd deadline
  · obtain ⟨cmd, deadline, rfl⟩ := own
    rcases dark_own_command dark with old | ⟨peers, rfl, told, off⟩
    · exact .inl old
    · exact .inr ⟨peers, deadline, rfl, told, off⟩
  · left
    refine (Fabric.dark_of_ground ?_).mp dark
    exact ground_perform alone fun cmd deadline same => own ⟨cmd, deadline, same⟩

/-- **Blocks without power are commands without power.**  As long as a member is left to its handle, it
blocks somebody without power only if it did so from the beginning, or its handle was told so while it
had no power, which has not come back since. -/
theorem blocked_in_the_dark (ds : List Deed) (alone : ∀ d ∈ ds, d.LeavesTo number h)
    (dark : (lab.after ds).fabric.Dark h.id y) :
    lab.fabric.Dark h.id y ∨ lab.ToldInTheDark number h y ds := by
  -- by induction on the deeds from the last one, so that what is blocked is traced back
  induction ds using List.reverseRecOn with
  | nil => exact .inl dark
  | append_singleton ds d ih =>
    have now : (lab.after (ds ++ [d])).fabric.poweredOff h.id = true := dark.1
    rw [after_append] at dark
    rcases dark_perform (alone d (by simp)) dark with old | ⟨peers, deadline, rfl, told, off⟩
    · rcases ih (fun x hx => alone x (List.mem_append_left _ hx)) old with first | traced
      · exact .inl first
      · right
        obtain ⟨before, peers, deadline, later, rfl, told, since⟩ := traced
        refine ⟨before, peers, deadline, later ++ [d], by simp, told, fun soon within => ?_⟩
        rw [← List.cons_append] at within
        rcases List.prefix_concat_iff.mp within with all | sooner
        · rw [all, ← List.append_assoc]
          exact now
        · exact since soon sooner
    · refine .inr ⟨ds, peers, deadline, [], rfl, told, fun soon within => ?_⟩
      have within : soon <+: [] ++ [.command number h (.disconnect peers) deadline] := within
      rcases List.prefix_concat_iff.mp within with all | none
      · rw [all]
        exact now
      · rw [List.prefix_nil.mp none, List.append_nil]
        exact off

theorem not_dark_provision {flavor : Flavor} {index : Nat} {fixture : Fixture} {node : Node Lab}
    (provisioned : Attempt.result ((backend flavor).provision index fixture) lab = (.ok node, made)) :
    ¬ made.fabric.Dark node.id y := by
  rw [result_provision] at provisioned
  split at provisioned
  · cases provisioned
  · cases provisioned
    rw [Fabric.dark_iff]
    rintro ⟨m, found, off, -⟩
    have anew : (lab.fabric.members.insert (endpointAt index fixture.backend.memberPort) .fresh).get?
        (endpointAt index fixture.backend.memberPort) = some m := found
    rw [EndpointTable.get?_insert, if_pos rfl] at anew
    cases anew
    cases off

theorem result_change_calm (there : number < lab.handles.length) {op : Operation} (f : Seat → Seat)
    (calm : (h.id, op) ∉ lab.fabric.failNext) :
    Attempt.result ((h.change op f).focus (seat number)) lab =
      (.ok (), (seat number).set (f ((seat number).get lab)) lab) :=
  (Post.result_change (p := ⟨number, h⟩) there op f).trans
    (if_neg fun asked => calm (List.contains_iff_mem.mp asked))

/-- A machine that agrees with its handle and has no power comes back in both ways. -/
theorem ways_of_inStep {m : Member} (machine : h.flavor = .machine) (agrees : lab.InStep number h)
    (found : lab.fabric.members.get? h.id = some m) (off : m.power = .off)
    (calm : (h.id, Operation.start) ∉ lab.fabric.failNext)
    (calm' : (h.id, Operation.powerOn) ∉ lab.fabric.failNext) :
    ∃ direct lit detour, (node number h).start.result lab = (.ok (), direct) ∧
      (Command.powerOn.tell (node number h)).result lab = (.ok (), lit) ∧
      (node number h).start.result lit = (.ok (), detour) ∧
      (direct.fabric.members.get? h.id = some (m.livingWith .empty) ∧
        (node number h).commanded direct = .livingWith .empty) ∧
      (detour.fabric.members.get? h.id = some (m.livingWith m.blocked) ∧
        (node number h).commanded detour = .livingWith m.blocked) ∧
      (direct = detour ↔ m.blocked = .empty) := by
  obtain ⟨there, m', found', agrees⟩ := agrees
  have here : ((seat number).get lab).fabric.members.get? h.id = some m := found
  rw [here] at found'
  cases found'
  have same := agrees.bonds.peers
  have dark : h.poweredOff ((seat number).get lab) = true := by
    rw [Handle.poweredOff_eq here, off, decide_eq_true rfl]
  have first := Handle.started_of_dark machine dark
  have second := Handle.started_poweredOn_of_dark machine dark
  have lawful := lawful_seat number
  have commanded : ∀ t, (node number h).commanded ((seat number).set t lab) = t.commanded :=
    fun t => congrArg Seat.commanded (lawful.get_set t lab there)
  have able : Command.powerOn.tell (node number h) =
      (h.change .powerOn h.poweredOn).focus (seat number) := by
    rw [node, Command.tell_focus]
    simp only [Command.tell, Handle.requirePower_eq_ok machine]
    rfl
  -- what is asked for of the member with power is not to fail either
  have still : (h.id, Operation.start) ∉
      ((seat number).set (h.poweredOn ((seat number).get lab)) lab).fabric.failNext :=
    Handle.Local.calm .poweredOn calm
  refine ⟨_, _, _, result_change_calm there h.started calm, ?_,
    result_change_calm (lawful.stays _ lab there) h.started still, ?_⟩
  · rw [able]
    exact result_change_calm there h.poweredOn calm'
  · rw [lawful.get_set _ lab there, lawful.set_set]
    refine ⟨⟨?_, ?_⟩, ⟨?_, ?_⟩, ?_⟩
    · change (h.started ((seat number).get lab)).fabric.members.get? h.id = _
      rw [first]
      exact Fabric.get?_livingWith here fun _ => .empty
    · rw [commanded, first]
    · change (h.started (h.poweredOn ((seat number).get lab))).fabric.members.get? h.id = _
      rw [second]
      exact Fabric.get?_livingWith here Member.blocked
    · rw [commanded, second, same]
    · rw [← Handle.started_eq_iff machine here off same]
      constructor
      · intro one
        have seats := congrArg (seat number).get one
        rwa [lawful.get_set _ lab there, lawful.get_set _ lab there] at seats
      · intro one
        rw [one]

/-- **Two ways back from a power cycle.**  A machine that was provisioned, and was left to its handle
since, has no power.  If it is started, and if it is given power and then started, it runs, whatever it
was told before, and handle and member agree.  The first way leaves it without blocks, the second one
leaves it the blocks that it has, so that the two lead to the same if and only if it has none; and each
block that it has was asked for while it had no power, which has not come back since. -/
theorem back_from_power_cycle {index : Nat} {fixture : Fixture} {node : Node Lab}
    (provisioned : Attempt.result ((backend .machine).provision index fixture) lab = (.ok node, made))
    (ds : List Deed) (alone : ∀ d ∈ ds, Deed.LeavesTo lab.handles.length ⟨node.id, .machine⟩ d)
    {m : Member} (found : (made.after ds).fabric.members.get? node.id = some m) (off : m.power = .off)
    (calm : (node.id, Operation.start) ∉ (made.after ds).fabric.failNext ∧
      (node.id, Operation.powerOn) ∉ (made.after ds).fabric.failNext) :
    ∃ direct lit detour, node.start.result (made.after ds) = (.ok (), direct) ∧
      (Command.powerOn.tell node).result (made.after ds) = (.ok (), lit) ∧
      node.start.result lit = (.ok (), detour) ∧
      (direct.fabric.members.get? node.id = some (m.livingWith .empty) ∧
        node.commanded direct = .livingWith .empty) ∧
      (detour.fabric.members.get? node.id = some (m.livingWith m.blocked) ∧
        node.commanded detour = .livingWith m.blocked) ∧
      (direct = detour ↔ m.blocked = .empty) ∧
      ∀ y ∈ m.blocked, made.ToldInTheDark lab.handles.length ⟨node.id, .machine⟩ y ds := by
  obtain ⟨handle, start⟩ := inStep_provision provisioned
  have stays : (made.after ds).InStep lab.handles.length ⟨node.id, .machine⟩ :=
    after_keeps (fun d hd _ hs => inStep_perform hs (alone d hd)) start
  obtain ⟨direct, lit, detour, ways⟩ := ways_of_inStep rfl stays found off calm.1 calm.2
  rw [← handle] at ways
  obtain ⟨begun, given, resumed, short, long, one⟩ := ways
  refine ⟨direct, lit, detour, begun, given, resumed, short, long, one, fun y blocked => ?_⟩
  have dark : (made.after ds).fabric.Dark node.id y := Fabric.dark_iff.mpr ⟨m, found, off, blocked⟩
  exact (blocked_in_the_dark ds alone dark).resolve_left (not_dark_provision provisioned)

/-- A machine was made. -/
def plugged : Lab := empty.perform (.provision .machine 0 (.simulated 2))

/-- It loses its power and is told meanwhile to block another one. -/
def unplugging : List Deed :=
  let h : Handle := ⟨endpointAt 0 9000, .machine⟩
  [.provision .machine 1 (.simulated 2), .command 0 h .powerOff none,
    .command 0 h (.disconnect [endpointAt 1 9000]) none]

theorem back_from_power_cycle_unplugged :
    ∃ node, Attempt.result ((backend .machine).provision 0 (.simulated 2)) empty =
        (.ok node, plugged) ∧
      (∀ d ∈ unplugging, Deed.LeavesTo 0 ⟨node.id, .machine⟩ d) ∧
      (∃ m, (plugged.after unplugging).fabric.members.get? node.id = some m ∧ m.power = .off) ∧
      ∃ direct lit detour, node.start.result (plugged.after unplugging) = (.ok (), direct) ∧
        (Command.powerOn.tell node).result (plugged.after unplugging) = (.ok (), lit) ∧
        node.start.result lit = (.ok (), detour) ∧
        (node.commanded direct).status = .running ∧ (node.commanded detour).status = .disconnected ∧
        direct ≠ detour ∧
        plugged.ToldInTheDark 0 ⟨node.id, .machine⟩ (endpointAt 1 9000) unplugging := by
  have provisioned : Attempt.result ((backend .machine).provision 0 (.simulated 2)) empty =
      (.ok (node 0 ⟨endpointAt 0 9000, .machine⟩), plugged) := by
    rw [plugged, perform, result_provision]
    rfl
  have alone : ∀ d ∈ unplugging, Deed.LeavesTo 0 ⟨endpointAt 0 9000, .machine⟩ d := by
    have other : endpointAt 1 (Fixture.simulated 2).backend.memberPort ≠ endpointAt 0 9000 := by decide
    simp [unplugging, Deed.LeavesTo, other]
  have found : (plugged.after unplugging).fabric.members.get? (endpointAt 0 9000) =
      some ⟨.stopped, .off, .ofList [endpointAt 1 9000], false, 0⟩ := by decide +kernel
  obtain ⟨direct, lit, detour, begun, given, resumed, ⟨-, short⟩, ⟨-, long⟩, one, told⟩ :=
    back_from_power_cycle provisioned unplugging alone found rfl (by decide +kernel)
  refine ⟨_, provisioned, alone, ⟨_, found, rfl⟩, direct, lit, detour, begun, given, resumed,
    ?_, ?_, ?_, ?_⟩
  · rw [short]
    rfl
  · rw [long]
    decide
  · rw [Ne, one]
    decide
  · exact told _ (by decide)

/-- Started at once, the machine blocks nobody; given power first, it goes on blocking the other one. -/
theorem block_outlives_power_cycle :
    let h : Handle := ⟨endpointAt 0 9000, .machine⟩
    let dark := plugged.after unplugging
    let direct := dark.perform (.command 0 h .start none)
    let detour := dark.after [.command 0 h .powerOn none, .command 0 h .start none]
    dark.fabric.poweredOff h.id = true ∧
      (direct.fabric.blockedBy h.id = .empty ∧ direct.commandedBy 0 = .ofStatus .running) ∧
      detour.fabric.blockedBy h.id = .ofList [endpointAt 1 9000] ∧
      (detour.commandedBy 0).status = .disconnected := by
  decide +kernel

end Lab

end Simulation

end FaultLab
