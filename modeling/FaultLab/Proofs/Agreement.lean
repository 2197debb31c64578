import FaultLab.Proofs.Sessions

/-! # Handles agree with their members

A handle keeps what it has commanded, and the fabric keeps what its member physically is.  Nothing
ties the two together but the operations, which change both.

* `Bonds` says that the blocks agree, and that a live command says whether there are any.
* `Standing` says how a member that was not given back stands to the command: it has power and its
  process is as commanded, or it has none and the command says so.
* `Handle.Move.inStep` shows that each step of a command keeps both (`Agrees`).
* `Lab.inStep_perform` carries them through everything else that can happen in a lab, as long as
  it leaves the member to the handle (`Deed.LeavesTo`). -/

namespace FaultLab

namespace NodeStatus

/-- The status of the process of a member with a status: one that is cut off runs. -/
def process : NodeStatus → NodeStatus
  | disconnected => running
  | s => s

theorem isLive_process (s : NodeStatus) : s.process.isLive = s.isLive := by cases s <;> rfl

theorem eq_poweredOff_of_process {s : NodeStatus} (h : s.process = .poweredOff) :
    s = .poweredOff := by
  cases s with
  | poweredOff => rfl
  | _ => cases h

end NodeStatus

namespace Commanded
variable {c : Commanded} {s : NodeStatus} {e : Endpoint}

theorem process_setStatus (s : NodeStatus) (c : Commanded) :
    (c.setStatus s).status.process = s.process := by
  rw [setStatus]
  simp only
  split
  · rename_i live
    cases s with
    | running => rfl
    | disconnected => rfl
    | _ => cases live
  · rfl

theorem process_addPeer (e : Endpoint) (c : Commanded) :
    (c.addPeer e).status.process = c.status.process := by
  rw [addPeer]
  cases c.status <;> rfl

theorem process_withPeers (peers : EndpointSet) (c : Commanded) :
    (c.withPeers peers).status.process = c.status.process := by
  rw [withPeers]
  simp only
  split
  · rename_i last
    have apart : c.status = .disconnected := by simpa using (Bool.and_eq_true_iff.mp last).2
    rw [apart]
    rfl
  · rfl

/-- A live status says whether any peer is blocked. -/
structure Tallies (c : Commanded) : Prop where
  apart : c.status = .disconnected → c.peers ≠ .empty
  together : c.status = .running → c.peers = .empty

namespace Tallies

theorem setStatus (plain : s ≠ .disconnected) (c : Commanded) : (c.setStatus s).Tallies := by
  refine ⟨fun apart => ?_, fun running => ?_⟩
  · rw [Commanded.setStatus] at apart
    simp only at apart
    split at apart
    · rename_i cutOff
      intro none
      rw [Commanded.peers_setStatus] at none
      rw [none] at cutOff
      simp [EndpointSet.isEmpty, EndpointSet.empty] at cutOff
    · exact absurd apart plain
  · rw [Commanded.setStatus] at running
    simp only at running
    split at running
    · cases running
    · rename_i whole
      subst running
      simpa [NodeStatus.isLive] using whole

theorem withPeers {peers : EndpointSet} (together : c.status = .running → peers = .empty) :
    (c.withPeers peers).Tallies := by
  refine ⟨fun apart => ?_, fun running => ?_⟩
  · rw [Commanded.withPeers] at apart
    simp only at apart
    split at apart
    · cases apart
    · rename_i some
      intro none
      have none : peers = .empty := none
      exact some (by simp [none, apart, EndpointSet.isEmpty, EndpointSet.empty])
  · rw [Commanded.withPeers] at running
    simp only at running
    split at running
    · rename_i last
      exact EndpointSet.isEmpty_iff.mp (Bool.and_eq_true_iff.mp last).1
    · exact together running

theorem addPeer (e : Endpoint) (c : Commanded) : (c.addPeer e).Tallies := by
  refine ⟨fun _ none => ?_, fun running => ?_⟩
  · have some : e ∈ (c.addPeer e).peers := EndpointSet.mem_insert.mpr (.inl rfl)
    rw [none] at some
    exact EndpointSet.not_mem_empty e some
  · rw [Commanded.addPeer] at running
    simp only at running
    split at running
    · cases running
    · rename_i still
      rw [running] at still
      exact absurd rfl still

theorem removePeer (tallies : c.Tallies) (e : Endpoint) : (c.removePeer e).Tallies := by
  refine .withPeers fun running => ?_
  rw [tallies.together running]
  rfl

/-- A member is told to be cut off exactly if it is live and some peer is blocked. -/
theorem disconnected_iff (tallies : c.Tallies) :
    c.status = .disconnected ↔ c.status.isLive = true ∧ c.peers ≠ .empty := by
  constructor
  · intro apart
    refine ⟨?_, tallies.apart apart⟩
    rw [apart]
    rfl
  · rintro ⟨live, blocked⟩
    cases status : c.status with
    | disconnected => rfl
    | running => exact absurd (tallies.together status) blocked
    | _ =>
      rw [status] at live
      cases live

end Tallies

end Commanded

namespace Simulation

/-! ### A member and what was commanded of it -/

/-- The blocks of a member are those that were commanded, it does not block itself, and a live
command says whether there are any. -/
structure Bonds (own : Endpoint) (m : Member) (c : Commanded) : Prop where
  peers : c.peers = m.blocked
  others : own ∉ c.peers
  apart : c.status = .disconnected → c.peers ≠ .empty
  together : c.status = .running → c.peers = .empty

/-- How a member stands to what was commanded of it. -/
inductive Standing (m : Member) (c : Commanded) : Prop
  /-- It has power, and its process is as commanded. -/
  | powered (on : m.power = .on) (process : m.status = c.status.process)
    (lit : c.status.process ≠ .poweredOff)
  /-- It has no power and no process, and the command says so. -/
  | dark (off : m.power = .off) (ended : m.status = .stopped)
    (dark : c.status.process = .poweredOff)

/-- A member and what was commanded of it agree. -/
structure Agrees (own : Endpoint) (m : Member) (c : Commanded) : Prop where
  bonds : Bonds own m c
  standing : m.destroyed = false → Standing m c

section agreement
variable {own e : Endpoint} {m m' : Member} {c : Commanded} {status : NodeStatus}

namespace Bonds

/-- Only the blocks of the member matter. -/
theorem of_blocked (h : Bonds own m c) (same : m'.blocked = m.blocked) : Bonds own m' c :=
  ⟨h.peers.trans same.symm, h.others, h.apart, h.together⟩

theorem setStatus (h : Bonds own m c) (plain : status ≠ .disconnected) :
    Bonds own m (c.setStatus status) := by
  have tallies := Commanded.Tallies.setStatus plain c
  exact ⟨h.peers, h.others, tallies.apart, tallies.together⟩

theorem withPeers {peers : EndpointSet} (h : Bonds own m c) (same : peers = m'.blocked)
    (others : own ∉ peers) (fewer : c.peers = .empty → peers = .empty) :
    Bonds own m' (c.withPeers peers) := by
  have tallies := Commanded.Tallies.withPeers fun running => fewer (h.together running)
  exact ⟨same, others, tallies.apart, tallies.together⟩

theorem clearPeers (h : Bonds own m c) (clear : m'.blocked = .empty) :
    Bonds own m' c.clearPeers :=
  h.withPeers clear.symm (EndpointSet.not_mem_empty own) fun _ => rfl

theorem removePeer (h : Bonds own m c) (let_through : m'.blocked = m.blocked.erase e) :
    Bonds own m' (c.removePeer e) := by
  refine h.withPeers (by rw [h.peers, let_through]) ?_ ?_
  · intro mem
    exact h.others (EndpointSet.mem_erase.mp mem).1
  · intro none
    rw [none]
    rfl

theorem addPeer (h : Bonds own m c) (other : e ≠ own)
    (blocked : m'.blocked = m.blocked.insert e) : Bonds own m' (c.addPeer e) := by
  have tallies := Commanded.Tallies.addPeer e c
  refine ⟨by rw [Commanded.peers_addPeer, h.peers, blocked], ?_, tallies.apart, tallies.together⟩
  intro mem
  cases EndpointSet.mem_insert.mp mem with
  | inl same => exact other same.symm
  | inr mem => exact h.others mem

end Bonds

theorem agrees_fresh (own : Endpoint) : Agrees own .fresh Lab.firstCommand := by
  refine ⟨⟨rfl, EndpointSet.not_mem_empty own, ?_, fun _ => rfl⟩, fun _ => ?_⟩
  · intro apart
    cases apart
  · refine .powered rfl rfl ?_
    decide

namespace Agrees

/-- Where a member that was not given back has power, a command for its process settles what it
stands to. -/
theorem settle (bonds : Bonds own m c) (on : m.destroyed = false → m.power = .on)
    (plain : status.process = status) (lit : status ≠ .poweredOff) :
    Agrees own { m with status := status } (c.setStatus status) := by
  have apart : status ≠ .disconnected := by
    rintro rfl
    cases plain
  refine ⟨(bonds.setStatus apart).of_blocked rfl, fun there => ?_⟩
  refine .powered (on there) ?_ ?_
  · rw [Commanded.process_setStatus, plain]
  · rw [Commanded.process_setStatus, plain]
    exact lit

theorem rebind {c' : Commanded} (h : Agrees own m c) (bonds : Bonds own m' c')
    (destroyed : m'.destroyed = m.destroyed) (power : m'.power = m.power)
    (status : m'.status = m.status) (process : c'.status.process = c.status.process) :
    Agrees own m' c' := by
  refine ⟨bonds, fun there => ?_⟩
  rw [destroyed] at there
  cases h.standing there with
  | powered on same lit =>
    refine .powered (power.trans on) ?_ ?_
    · rw [status, same, process]
    · rw [process]
      exact lit
  | dark off ended dark => exact .dark (power.trans off) (status.trans ended) (process.trans dark)

theorem resets {n : Nat} (h : Agrees own m c) : Agrees own { m with resets := n } c :=
  h.rebind (h.bonds.of_blocked rfl) rfl rfl rfl rfl

/-- A member whose process is there has power. -/
theorem on_of_process (h : Agrees own m c) (some : m.status ≠ .stopped) :
    m.destroyed = false → m.power = .on := by
  intro there
  cases h.standing there with
  | powered on => exact on
  | dark off ended => exact absurd ended some

/-- A member that was not told to be without power has power. -/
theorem on_of_command (h : Agrees own m c) (lit : c.status ≠ .poweredOff) :
    m.destroyed = false → m.power = .on := by
  intro there
  cases h.standing there with
  | powered on => exact on
  | dark off ended dark => exact absurd (NodeStatus.eq_poweredOff_of_process dark) lit

theorem poweredOff_iff (h : Agrees own m c) (there : m.destroyed = false) :
    c.status = .poweredOff ↔ m.power = .off := by
  cases h.standing there with
  | powered on process lit =>
    rw [on]
    refine ⟨fun dark => ?_, fun off => ?_⟩
    · rw [dark] at lit
      exact absurd rfl lit
    · cases off
  | dark off ended dark =>
    rw [off, NodeStatus.eq_poweredOff_of_process dark]
    exact ⟨fun _ => rfl, fun _ => rfl⟩

theorem status_eq (h : Agrees own m c) (there : m.destroyed = false) (on : m.power = .on) :
    m.status = c.status.process := by
  cases h.standing there with
  | powered on process lit => exact process
  | dark off =>
    rw [on] at off
    cases off

/-- The detector sees a member up exactly if the command is a live one. -/
theorem isUp_eq (h : Agrees own m c) (there : m.destroyed = false) :
    m.isUp = c.status.isLive := by
  cases h.standing there with
  | powered on process =>
    rw [Member.isUp, there, on, process, NodeStatus.isLive_process]
    rfl
  | dark off ended dark =>
    rw [Member.isUp, there, off, NodeStatus.eq_poweredOff_of_process dark]
    rfl

end Agrees

end agreement

/-! ### What a handle sees -/

namespace Handle
variable {h : Handle} {s t : Seat} {m : Member} {c : Commanded} {P Q : Member → Commanded → Prop}

/-- Whether something holds of the member of a handle and of what was commanded of it. -/
def Holds (h : Handle) (P : Member → Commanded → Prop) (s : Seat) : Prop :=
  ∃ m, s.fabric.members.get? h.id = some m ∧ P m s.commanded

/-- Whether a handle agrees with its member. -/
def InStep (h : Handle) (s : Seat) : Prop := h.Holds (Agrees h.id) s

theorem Holds.and (hs : h.Holds P s) (hs' : h.Holds Q s) :
    h.Holds (fun m c => P m c ∧ Q m c) s := by
  obtain ⟨m, found, holds⟩ := hs
  obtain ⟨m', found', holds'⟩ := hs'
  rw [found] at found'
  cases found'
  exact ⟨m, found, holds, holds'⟩

theorem Holds.mono (hs : h.Holds P s) (weaker : ∀ m c, P m c → Q m c) : h.Holds Q s := by
  obtain ⟨m, found, holds⟩ := hs
  exact ⟨m, found, weaker m _ holds⟩

/-- A change of the member that goes along with a change of the command. -/
theorem Holds.update {change : Member → Member} (hs : h.Holds P s)
    (step : ∀ m, s.fabric.members.get? h.id = some m → P m s.commanded → Q (change m) c) :
    h.Holds Q ⟨s.fabric.update h.id change, c⟩ := by
  obtain ⟨m, found, holds⟩ := hs
  refine ⟨change m, ?_, step m found holds⟩
  change (s.fabric.members.update h.id change).get? h.id = some (change m)
  rw [EndpointTable.get?_update, if_pos rfl, found]
  rfl

theorem Holds.of_ground (hs : h.Holds P s) (blind : ∀ m c n, P m c → P { m with resets := n } c)
    (ground : t.fabric.ground h.id = s.fabric.ground h.id) (command : t.commanded = s.commanded) :
    h.Holds P t := by
  obtain ⟨m, found, holds⟩ := hs
  rw [Fabric.ground, Fabric.ground, found] at ground
  obtain ⟨m', found', same⟩ := Option.map_eq_some_iff.mp ground
  refine ⟨m', found', ?_⟩
  have alike : m' = { m with resets := m'.resets } := by
    obtain ⟨status, power, blocked, destroyed, n⟩ := m
    obtain ⟨status', power', blocked', destroyed', n'⟩ := m'
    simp only [Member.mk.injEq] at same ⊢
    exact ⟨same.1, same.2.1, same.2.2.1, same.2.2.2.1, trivial⟩
  rw [command, alike]
  exact blind m _ _ holds

theorem physical_eq (found : s.fabric.members.get? h.id = some m) : h.physical s = m.status := by
  rw [physical, Fabric.status?, found]
  rfl

theorem poweredOff_eq (found : s.fabric.members.get? h.id = some m) :
    h.poweredOff s = decide (m.power = .off) := by
  rw [poweredOff, Fabric.poweredOff, found]

/-! ### Every move keeps step -/

theorem inStep_settle {status : NodeStatus}
    (hs : h.Holds (fun m c => Bonds h.id m c ∧ (m.destroyed = false → m.power = .on)) s)
    (plain : status.process = status) (lit : status ≠ .poweredOff) :
    h.InStep (h.settle status s) :=
  hs.update fun _ _ holds => .settle holds.1 holds.2 plain lit

/-- Starting gives power first, and in both flavors the blocks that are lost are lost on both
sides. -/
theorem inStep_started (hs : h.InStep s) : h.InStep (h.started s) := by
  rw [started]
  have powered : h.Holds (fun m c => Bonds h.id m c ∧ (m.destroyed = false → m.power = .on))
      (if h.poweredOff s then h.clearBlocks (h.energize s) else s) := by
    obtain ⟨m, found, agrees⟩ := hs
    split
    · rename_i off
      rw [energize, if_pos off]
      have lit : h.Holds (fun m c => Bonds h.id m c ∧ m.power = .on)
          (h.update (fun m => { m with power := .on }) s) :=
        Holds.update ⟨m, found, agrees⟩ fun _ _ agrees => ⟨agrees.bonds.of_blocked rfl, rfl⟩
      exact lit.update fun _ _ holds => ⟨holds.1.clearPeers rfl, fun _ => holds.2⟩
    · rename_i lit
      refine ⟨m, found, agrees.bonds, fun there => ?_⟩
      cases agrees.standing there with
      | powered on => exact on
      | dark off =>
        rw [poweredOff_eq found, off] at lit
        exact absurd rfl lit
  generalize (if h.poweredOff s then h.clearBlocks (h.energize s) else s) = u at powered
  have anew : h.Holds (fun m c => Bonds h.id m c ∧ (m.destroyed = false → m.power = .on))
      (if h.startsAnew u then h.clearBlocks u else u) := by
    split
    · exact powered.update fun _ _ holds => ⟨holds.1.clearPeers rfl, holds.2⟩
    · exact powered
  refine inStep_settle anew rfl ?_
  intro same
  cases same

theorem inStep_stopped (hs : h.InStep s) : h.InStep (h.stopped s) := by
  rw [stopped]
  split
  · exact hs
  · split
    · rename_i dark
      refine hs.update fun m _ agrees => ⟨agrees.bonds.of_blocked rfl, fun there => ?_⟩
      cases agrees.standing there with
      | powered on process lit =>
        rw [dark] at lit
        exact absurd rfl lit
      | dark off ended dark => exact .dark off rfl dark
    · rename_i lit
      obtain ⟨m, found, agrees⟩ := hs
      refine inStep_settle ⟨m, found, agrees.bonds, agrees.on_of_command lit⟩ rfl ?_
      intro same
      cases same

theorem inStep_settle_of_process {status : NodeStatus} (hs : h.InStep s)
    (some : h.physical s ≠ .stopped) (plain : status.process = status)
    (lit : status ≠ .poweredOff) : h.InStep (h.settle status s) := by
  obtain ⟨m, found, agrees⟩ := hs
  rw [physical_eq found] at some
  exact inStep_settle ⟨m, found, agrees.bonds, agrees.on_of_process some⟩ plain lit

theorem ne_stopped_of_isLive {status : NodeStatus} (live : status.isLive = true) :
    status ≠ .stopped := by
  rintro rfl
  cases live

theorem inStep_killed (hs : h.InStep s) : h.InStep (h.killed s) := by
  rw [killed]
  split
  · rename_i some
    refine inStep_settle_of_process hs ?_ rfl ?_
    · cases some with
      | inl live => exact ne_stopped_of_isLive live
      | inr frozen =>
        rw [frozen]
        decide
    · decide
  · exact hs

theorem inStep_paused (hs : h.InStep s) : h.InStep (h.paused s).2 := by
  rw [paused]
  split
  · exact hs
  · split
    · exact hs
    · rename_i runs
      rw [Bool.or_eq_true, not_or, Bool.not_eq_true', Bool.not_eq_false] at runs
      refine inStep_settle_of_process hs (ne_stopped_of_isLive runs.1) rfl ?_
      decide

theorem inStep_resumed (hs : h.InStep s) : h.InStep (h.resumed s) := by
  rw [resumed]
  split
  · rename_i frozen
    refine inStep_settle_of_process hs ?_ rfl ?_
    · rw [frozen]
      decide
    · decide
  · exact hs

theorem inStep_block {peer : Endpoint} (hs : h.InStep s) (other : peer ≠ h.id) :
    h.InStep (h.block s peer) :=
  hs.update fun _ _ agrees => agrees.rebind (agrees.bonds.addPeer other rfl) rfl rfl rfl
    (Commanded.process_addPeer peer s.commanded)

theorem inStep_unblock (hs : h.InStep s) (peer : Endpoint) : h.InStep (h.unblock s peer) :=
  hs.update fun _ _ agrees => agrees.rebind (agrees.bonds.removePeer rfl) rfl rfl rfl
    (Commanded.process_withPeers _ s.commanded)

theorem inStep_disconnected (hs : h.InStep s) (peers : List Endpoint) :
    h.InStep (h.disconnected peers s) := by
  rw [disconnected]
  have others : ∀ e ∈ (s.commanded.notBlocked peers).filter fun e => e ≠ h.id, e ≠ h.id := by
    intro e he
    simpa using (List.mem_filter.mp he).2
  generalize (s.commanded.notBlocked peers).filter (fun e => e ≠ h.id) = es at others
  induction es generalizing s with
  | nil => exact hs
  | cons e es ih =>
    rw [List.foldl_cons]
    exact ih (inStep_block hs (others e List.mem_cons_self))
      fun x hx => others x (List.mem_cons_of_mem e hx)

theorem inStep_reconnected (hs : h.InStep s) (peers : List Endpoint) :
    h.InStep (h.reconnected peers s) := by
  rw [reconnected]
  induction peers generalizing s with
  | nil => exact hs
  | cons e es ih =>
    rw [List.foldl_cons]
    exact ih (inStep_unblock hs e)

theorem inStep_destroyed (hs : h.InStep s) : h.InStep (h.destroyed s) := by
  refine hs.update fun m _ agrees => ⟨?_, fun there => ?_⟩
  · exact (agrees.bonds.clearPeers rfl).setStatus (by decide)
  · cases there

/-- Without blocks and process, only the power is left to agree on. -/
theorem inStep_powerCycled {power : PowerState} {status : NodeStatus} (hs : h.InStep s)
    (plain : status ≠ .disconnected)
    (stands : ∀ m c, m.power = power → m.status = .stopped → c.status.process = status →
      Standing m c) :
    h.InStep (h.powerCycled power status s) := by
  rw [powerCycled]
  have ended : h.Holds (fun m c => Bonds h.id m c ∧ m.power = power ∧ m.status = .stopped)
      (h.update (fun m => { m with power := power, status := .stopped }) s) :=
    hs.update fun m _ agrees => ⟨agrees.bonds.of_blocked rfl, rfl, rfl⟩
  have cleared : h.Holds (fun m c => Bonds h.id m c ∧ m.power = power ∧ m.status = .stopped)
      (h.clearBlocks (h.update (fun m => { m with power := power, status := .stopped }) s)) :=
    ended.update fun m _ holds => ⟨holds.1.clearPeers rfl, holds.2⟩
  obtain ⟨m, found, bonds, lit, stopped⟩ := cleared
  refine ⟨m, found, bonds.setStatus plain, fun _ => stands m _ lit stopped ?_⟩
  have process := Commanded.process_setStatus status
    (h.clearBlocks (h.update (fun m => { m with power := power, status := .stopped }) s)).commanded
  refine process.trans ?_
  cases status with
  | disconnected => exact absurd rfl plain
  | _ => rfl

/-- A member that gets its power back has no process, and a member that has power stays as it is. -/
theorem inStep_poweredOn (hs : h.InStep s) : h.InStep (h.poweredOn s) := by
  have lit : h.Holds (fun m c => Bonds h.id m c ∧ (m.destroyed = false → m.power = .on ∧
      m.status = if c.status = .poweredOff then .stopped else c.status.process))
      (h.energize s) := by
    obtain ⟨m, found, agrees⟩ := hs
    rw [energize]
    split
    · rename_i off
      rw [poweredOff_eq found, decide_eq_true_eq] at off
      refine Holds.update (P := Agrees h.id) ⟨m, found, agrees⟩ fun m' found' agrees' => ?_
      rw [found] at found'
      cases found'
      refine ⟨agrees.bonds.of_blocked rfl, fun there => ⟨rfl, ?_⟩⟩
      cases agrees.standing there with
      | powered on =>
        rw [off] at on
        cases on
      | dark off ended dark =>
        rw [if_pos (NodeStatus.eq_poweredOff_of_process dark)]
        exact ended
    · rename_i on
      rw [poweredOff_eq found, decide_eq_true_eq] at on
      refine ⟨m, found, agrees.bonds, fun there => ?_⟩
      cases agrees.standing there with
      | powered on process lit =>
        refine ⟨on, ?_⟩
        rw [if_neg]
        · exact process
        · intro dark
          rw [dark] at lit
          exact lit rfl
      | dark off => exact absurd off on
  obtain ⟨m, found, bonds, standing⟩ := lit
  rw [poweredOn]
  by_cases dark : (h.energize s).commanded.status = .poweredOff
  · simp only [if_pos dark] at standing ⊢
    refine ⟨m, found, bonds.setStatus (by decide), fun there => ?_⟩
    obtain ⟨on, ended⟩ := standing there
    have process := Commanded.process_setStatus .stopped (h.energize s).commanded
    refine .powered on (ended.trans process.symm) ?_
    intro same
    cases process.symm.trans same
  · simp only [if_neg dark] at standing ⊢
    refine ⟨m, found, bonds, fun there => ?_⟩
    obtain ⟨on, process⟩ := standing there
    refine .powered on process fun same => ?_
    exact dark (NodeStatus.eq_poweredOff_of_process same)

/-- **Every move keeps step.** -/
theorem Move.inStep (move : h.Move s t) (hs : h.InStep s) : h.InStep t := by
  cases move with
  | idle => exact hs
  | refused op => exact hs
  | started => exact inStep_started hs
  | stopped => exact inStep_stopped hs
  | killed => exact inStep_killed hs
  | paused => exact inStep_paused hs
  | resumed => exact inStep_resumed hs
  | disconnected peers => exact inStep_disconnected hs peers
  | reconnected peers => exact inStep_reconnected hs peers
  | destroyed => exact inStep_destroyed hs
  | poweredOff =>
    refine inStep_powerCycled hs (by decide) fun m c off ended process => ?_
    exact .dark off ended process
  | poweredOn => exact inStep_poweredOn hs
  | rebooted =>
    refine inStep_powerCycled hs (by decide) fun m c on ended process => ?_
    refine .powered on (ended.trans process.symm) ?_
    rw [process]
    decide

end Handle

/-! ### Handles in a lab -/

/-- Whether a deed leaves the member of a handle to the handle: the member is not made anew, and
no other handle on it is used. -/
def Deed.LeavesTo (number : Nat) (h : Handle) : Deed → Prop
  | .register e => e ≠ h.id
  | .provision _ index fixture => endpointAt index fixture.backend.memberPort ≠ h.id
  | .command n g _ _ => if n = number then g = h else g.id ≠ h.id
  | _ => True

namespace Lab
variable {lab made : Lab} {d : Deed} {number : Nat} {h : Handle}

/-- Whether the handle with a number is there and agrees with its member. -/
def InStep (number : Nat) (h : Handle) (lab : Lab) : Prop :=
  number < lab.handles.length ∧ h.InStep ((seat number).get lab)

/-- Only the handle, and the member up to the number of its resets, matter. -/
theorem InStep.of_ground {lab' : Lab} (hs : lab.InStep number h)
    (ground : lab'.fabric.ground h.id = lab.fabric.ground h.id)
    (there : number < lab'.handles.length)
    (command : lab'.commandedBy number = lab.commandedBy number) : lab'.InStep number h :=
  ⟨there, hs.2.of_ground (fun _ _ _ => Agrees.resets) ground command⟩

theorem commandedBy_append {more : List Commanded} (there : number < lab.handles.length) :
    { lab with handles := lab.handles ++ more }.commandedBy number = lab.commandedBy number := by
  rw [commandedBy, commandedBy, List.getElem?_append_left there]

theorem lawful_seat (number : Nat) :
    (seat number).LawfulOn fun lab => number < lab.handles.length where
  stays a lab h := by simpa [seat] using h
  get_set a lab h := by simp [seat, commandedBy, h]
  set_set a b lab := by simp [seat]
  set_get lab h := by
    obtain ⟨f, handles, memories⟩ := lab
    simp only at h
    simp [seat, commandedBy, h]

theorem handles_request (lab : Lab) (n : Nat) (req : Request) :
    (lab.perform (.request n req)).handles = lab.handles := by
  by_cases there : n < lab.memories.length
  · rw [perform_request there]
    rfl
  · rw [perform, if_neg there]

/-- Its own commands keep a handle in step. -/
theorem inStep_own_command (hs : lab.InStep number h) (cmd : Command) (deadline : Option Nat) :
    (lab.perform (.command number h cmd deadline)).InStep number h := by
  refine command_keeps (fun lab t there move hs => ?_) hs cmd deadline
  have lawful := lawful_seat number
  refine ⟨lawful.stays t lab there, ?_⟩
  rw [lawful.get_set t lab there]
  exact move.inStep hs.2

/-- What leaves the member to the handle, and is no command of the handle, leaves the member alone but
for its resets. -/
theorem ground_perform (alone : d.LeavesTo number h)
    (other : ∀ cmd deadline, d ≠ .command number h cmd deadline) :
    (lab.perform d).fabric.ground h.id = lab.fabric.ground h.id := by
  have anew : ∀ e, e ≠ h.id → (lab.fabric.register e).ground h.id = lab.fabric.ground h.id := by
    intro e other
    rw [Fabric.ground, Fabric.ground, Fabric.register, Fabric.touch, EndpointTable.get?_insert,
      if_neg other.symm]
  cases d with
  | register e => exact anew e alone
  | provision flavor index fixture =>
    rw [perform, result_provision]
    split
    · rfl
    · exact anew _ alone
  | attach g => rfl
  | command n g cmd deadline =>
    have beyond : g.id ≠ h.id := by
      rw [Deed.LeavesTo] at alone
      split at alone
      · rename_i own
        subst own
        subst alone
        exact absurd rfl (other cmd deadline)
      · exact alone
    have moves : ∀ lab' t, n < lab'.handles.length → g.Move ((seat n).get lab') t →
        lab'.fabric.ground h.id = lab.fabric.ground h.id →
        ((seat n).set t lab').fabric.ground h.id = lab.fabric.ground h.id := by
      intro lab' t _ move same
      have kept : t.fabric.members.get? h.id = lab'.fabric.members.get? h.id :=
        move.alikeBeyond.member h.id (Ne.symm beyond)
      have alike : t.fabric.ground h.id = lab'.fabric.ground h.id := by
        rw [Fabric.ground, Fabric.ground, kept]
      exact alike.trans same
    exact command_keeps moves rfl cmd deadline
  | connect => rfl
  | request n req => exact sameGround_request lab n req h.id
  | set setting => exact Fabric.SameGround.of_members (kept_apply setting lab.fabric).2 h.id

/-- The commands of other handles leave it to a handle what it was told. -/
theorem commandedBy_command {n : Nat} {g : Handle} (there : number < lab.handles.length)
    (other : n ≠ number) (cmd : Command) (deadline : Option Nat) :
    number < (lab.perform (.command n g cmd deadline)).handles.length ∧
      (lab.perform (.command n g cmd deadline)).commandedBy number = lab.commandedBy number := by
  have moves : ∀ lab' t, n < lab'.handles.length → g.Move ((seat n).get lab') t →
      (number < lab'.handles.length ∧ lab'.commandedBy number = lab.commandedBy number) →
      number < ((seat n).set t lab').handles.length ∧
        ((seat n).set t lab').commandedBy number = lab.commandedBy number := by
    rintro lab' t - - ⟨there, command⟩
    refine ⟨?_, ?_⟩
    · rw [seat, List.length_set]
      exact there
    · rw [← command, commandedBy, commandedBy, seat, List.getElem?_set_ne other]
  exact command_keeps moves ⟨there, rfl⟩ cmd deadline

/-- What leaves the member to the handle leaves the handle in step. -/
theorem inStep_perform (hs : lab.InStep number h) (alone : d.LeavesTo number h) :
    (lab.perform d).InStep number h := by
  by_cases own : ∃ cmd deadline, d = .command number h cmd deadline
  · obtain ⟨cmd, deadline, rfl⟩ := own
    exact inStep_own_command hs cmd deadline
  · have other : ∀ cmd deadline, d ≠ .command number h cmd deadline :=
      fun cmd deadline same => own ⟨cmd, deadline, same⟩
    have ground : (lab.perform d).fabric.ground h.id = lab.fabric.ground h.id :=
      ground_perform alone other
    have there : ∀ more : List Commanded, number < (lab.handles ++ more).length := by
      intro more
      have := hs.1
      rw [List.length_append]
      omega
    cases d with
    | register e => exact hs.of_ground ground hs.1 rfl
    | provision flavor index fixture =>
      rw [perform, result_provision] at ground ⊢
      split
      · exact hs
      · rename_i made
        rw [if_neg made] at ground
        exact hs.of_ground ground (there _) (commandedBy_append hs.1)
    | attach g => exact hs.of_ground ground (there _) (commandedBy_append hs.1)
    | command n g cmd deadline =>
      have beyond : n ≠ number := by
        rintro rfl
        rw [Deed.LeavesTo, if_pos rfl] at alone
        subst alone
        exact other cmd deadline rfl
      obtain ⟨there, command⟩ := commandedBy_command (g := g) hs.1 beyond cmd deadline
      exact hs.of_ground ground there command
    | connect => exact hs.of_ground ground hs.1 rfl
    | request n req =>
      have handles := handles_request lab n req
      refine hs.of_ground ground ?_ ?_
      · rw [handles]
        exact hs.1
      · rw [commandedBy, commandedBy, handles]
    | set setting => exact hs.of_ground ground hs.1 rfl

/-- A handle is in step with a member that was just made for it. -/
theorem inStep_provision {flavor : Flavor} {index : Nat} {fixture : Fixture} {node : Node Lab}
    (provisioned : Attempt.result ((backend flavor).provision index fixture) lab =
      (.ok node, made)) :
    node = Lab.node lab.handles.length ⟨node.id, flavor⟩ ∧
      made.InStep lab.handles.length ⟨node.id, flavor⟩ := by
  rw [result_provision] at provisioned
  split at provisioned
  · cases provisioned
  · cases provisioned
    refine ⟨rfl, ?_, .fresh, ?_, ?_⟩
    · rw [List.length_append]
      exact Nat.lt_succ_self _
    · change (lab.fabric.members.insert _ .fresh).get? _ = some .fresh
      rw [EndpointTable.get?_insert]
      exact if_pos rfl
    · have first : (lab.handles ++ [firstCommand])[lab.handles.length]? = some firstCommand :=
        List.getElem?_concat_length
      simp only [seat, commandedBy, first]
      exact agrees_fresh _

/-- **Handle and member never drift apart.**  As long as a member that was provisioned is left to
its handle, whatever the handle is told, and whether it succeeds, fails or is cut off: the blocks
agree and the member is none of them; a command for a live process says whether there are any; and
until the member is given back, the command says whether it has power, the process is as commanded,
and the detector sees it up exactly if the command is a live one. -/
theorem handle_agrees_with_member {flavor : Flavor} {index : Nat} {fixture : Fixture}
    {node : Node Lab} (provisioned : Attempt.result ((backend flavor).provision index fixture) lab =
      (.ok node, made)) (ds : List Deed)
    (alone : ∀ d ∈ ds, Deed.LeavesTo lab.handles.length ⟨node.id, flavor⟩ d) :
    node = Lab.node lab.handles.length ⟨node.id, flavor⟩ ∧
      ∃ m c, (made.after ds).fabric.members.get? node.id = some m ∧
        node.commanded (made.after ds) = c ∧
        (c.peers = (made.after ds).fabric.blockedBy node.id ∧ node.id ∉ c.peers) ∧
        (c.status = .disconnected → c.peers ≠ .empty) ∧
        (c.status = .running → c.peers = .empty) ∧
        (m.destroyed = false →
          (c.status = .poweredOff ↔ m.power = .off) ∧
          (m.power = .on → m.status = c.status.process) ∧
          (made.after ds).fabric.isUp node.id = c.status.isLive) := by
  obtain ⟨handle, start⟩ := inStep_provision provisioned
  have stays : (made.after ds).InStep lab.handles.length ⟨node.id, flavor⟩ :=
    after_keeps (fun d hd _ hs => inStep_perform hs (alone d hd)) start
  obtain ⟨_, m, found, agrees⟩ := stays
  have found : (made.after ds).fabric.members.get? node.id = some m := found
  have agrees : Agrees node.id m ((made.after ds).commandedBy lab.handles.length) := agrees
  have commanded : node.commanded (made.after ds) =
      (made.after ds).commandedBy lab.handles.length := by
    rw [handle]
    rfl
  have blocked : (made.after ds).fabric.blockedBy node.id = m.blocked := by
    rw [Fabric.blockedBy, found]
  have up : (made.after ds).fabric.isUp node.id = m.isUp := by rw [Fabric.isUp, found]
  refine ⟨handle, m, _, found, commanded, ⟨?_, agrees.bonds.others⟩, agrees.bonds.apart,
    agrees.bonds.together, fun there => ?_⟩
  · rw [blocked]
    exact agrees.bonds.peers
  · rw [up]
    exact ⟨agrees.poweredOff_iff there, agrees.status_eq there, agrees.isUp_eq there⟩

/-- A kill that fails, a block, a restart that is cut off before its second half, and a start. -/
def troubled : List Deed :=
  let h : Handle := ⟨endpointAt 0 9000, .machine⟩
  [.register ⟨"b:1"⟩, .set (.failOnce h.id .kill), .command 0 h .kill none,
    .command 0 h (.disconnect [⟨"b:1"⟩, h.id]) none, .set (.latency h.id 50),
    .command 0 h .restart (some 70), .command 0 h .start none]

theorem handle_agrees_with_member_troubled :
    ∃ node made, Attempt.result ((backend .machine).provision 0 (.simulated 1)) empty =
        (.ok node, made) ∧
      (∀ d ∈ troubled, Deed.LeavesTo 0 ⟨node.id, .machine⟩ d) ∧
      (node.commanded (made.after troubled)).status = .disconnected ∧
      (made.after troubled).fabric.blockedBy node.id = .ofList [⟨"b:1"⟩] := by
  have provisioned : Attempt.result ((backend .machine).provision 0 (.simulated 1)) empty =
      (.ok (node 0 ⟨endpointAt 0 9000, .machine⟩),
        { empty with
          fabric := empty.fabric.register (endpointAt 0 9000)
          handles := [firstCommand] }) :=
    result_provision .machine 0 (.simulated 1) empty
  have alone : ∀ d ∈ troubled, Deed.LeavesTo 0 ⟨endpointAt 0 9000, .machine⟩ d := by
    have other : (⟨"b:1"⟩ : Endpoint) ≠ endpointAt 0 9000 := by decide
    simp [troubled, Deed.LeavesTo, other]
  obtain ⟨-, m, c, -, commanded, ⟨peers, -⟩, -⟩ :=
    handle_agrees_with_member provisioned troubled alone
  refine ⟨_, _, provisioned, alone, ?_, ?_⟩
  · decide +kernel
  · refine peers.symm.trans ?_
    rw [← commanded]
    decide +kernel

end Lab

end Simulation

end FaultLab
