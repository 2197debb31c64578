import FaultLab.Container.Backend
import FaultLab.Proofs.Commands
import FaultLab.Proofs.PeerBlocking

/-! # Handles follow their containers

A `State` is all that matters of a container: whether it runs or is frozen, and the wall in its network
while it has one.  `Handle.Controls` is a daemon that does as it is told and nobody else touching the
container: a container that is started has an empty wall, scripts run in those that run, and commands are
refused in others.

What a handle has commanded is `Held` against its container: the status is that of the process, and the
rules are those against the recorded peers.  Every command but the last one keeps this or fails and changes
nothing (`Handle.Controls.settles_tell`); so what was commanded follows the container from provisioning on
(`Project.Controls.commanded_follows_container`). -/

namespace FaultLab.Container

open Firewall Attempt

/-- How a container is, with the wall of its network. -/
inductive State where
  | idle
  | running (wall : Wall)
  | paused (wall : Wall)

namespace State

/-- What the daemon may report of a container. -/
def Reported : State → Option RunState → Prop
  | idle, r => r = some .created ∨ r = some .exited
  | running _, r => r = some .running
  | paused _, r => r = some .paused

/-- How a container does. -/
def condition : State → Condition
  | idle => .idle
  | running _ => .running
  | paused _ => .paused

/-- A container that is not frozen any more. -/
def thawed : State → State
  | paused wall => running wall
  | v => v

/-- The wall of a container that has one. -/
def wall? : State → Option Wall
  | idle => none
  | running wall => some wall
  | paused wall => some wall

/-- The status of the process in a container. -/
def Shows : State → NodeStatus → Prop
  | idle, s => s = .stopped ∨ s = .killed
  | running _, s => s = .running
  | paused _, s => s = .paused

theorem Reported.condition {v : State} {r : Option RunState} (h : v.Reported r) :
    Condition.ofState r = v.condition := by
  cases v with
  | idle => obtain rfl | rfl := h <;> rfl
  | running wall | paused wall =>
    cases h
    rfl

end State

namespace Handle
variable {σ : Type} {h : Handle σ} {state : σ → State} {v : State} {wall : Wall} {c : Commanded}

/-- What there is to see of a container and its handle. -/
def sight (h : Handle σ) (state : σ → State) (s : σ) : State × Commanded :=
  (state s, h.commanded.get s)

/-- The daemon does with a container what it is told, as far as that can be, and nobody else does. -/
structure Controls (h : Handle σ) (state : σ → State) : Prop where
  inspects : ∀ v c, (h.daemon.inspect h.container).Yields (h.sight state) (v, c) v.Reported (v, c)
  starts : ∀ c, (h.daemon.start h.container).Leads (h.sight state) (.idle, c) (.running .bare, c)
  stops : ∀ seconds wall c, (h.daemon.stop h.container seconds).Leads (h.sight state)
    (.running wall, c) (.idle, c)
  kills : ∀ wall c, (h.daemon.kill h.container).Leads (h.sight state) (.running wall, c) (.idle, c)
  pauses : ∀ wall c, (h.daemon.pause h.container).Leads (h.sight state)
    (.running wall, c) (.paused wall, c)
  unpauses : ∀ wall c, (h.daemon.unpause h.container).Leads (h.sight state)
    (.paused wall, c) (.running wall, c)
  restarts : ∀ seconds v c, (∀ wall, v ≠ .paused wall) →
    (h.daemon.restart h.container seconds).Leads (h.sight state) (v, c) (.running .bare, c)
  runs : ∀ task wall c s, IsPlain task.peer → h.sight state s = (.running wall, c) →
    ∃ e code wall' t, task.script.Runs wall e [] wall' ∧ (code = 0 ↔ e = .success) ∧
      h.daemon.Executes h.container (.firewall task) s code t ∧ h.sight state t = (.running wall', c)
  refuses : ∀ command v c, (∀ wall, v ≠ .running wall) →
    (h.daemon.prepareCommand h.container command).Balks (h.sight state) (v, c)
  get_set : ∀ c s, h.commanded.get (h.commanded.set c s) = c
  state_set : ∀ c s, state (h.commanded.set c s) = state s

namespace Controls

theorem leads_record (controls : h.Controls state) (f : Commanded → Commanded) (v : State)
    (c : Commanded) : (h.record f).Leads (h.sight state) (v, c) (v, f c) :=
  leads_change controls.get_set controls.state_set f v c

theorem leads_recorded (controls : h.Controls state) (f : Commanded → Commanded) (message : String)
    (fields : List (String × FieldText)) (v : State) (c : Commanded) :
    (h.record f >>= fun _ => h.report message fields).Leads (h.sight state) (v, c) (v, f c) :=
  (controls.leads_record f v c).bind fun _ => leads_log _ _

theorem yields_present (h : Handle σ) (state : σ → State) (v : State) (c : Commanded) :
    h.present.Yields (h.sight state) (v, c) (· = c) (v, c) :=
  yields_read Prod.snd (fun _ => rfl) (v, c)

theorem yields_condition (controls : h.Controls state) (operation : String) (v : State)
    (c : Commanded) :
    (h.condition operation).Yields (h.sight state) (v, c) (· = v.condition) (v, c) := by
  refine ((controls.inspects v c).mapError _).bind fun r reported => ?_
  exact yields_pure (· = v.condition) reported.condition _

theorem yields_unfreeze (controls : h.Controls state) (operation : String) (v : State)
    (c : Commanded) :
    (h.unfreeze operation).Yields (h.sight state) (v, c) (· = v.thawed.condition) (v.thawed, c) := by
  refine (controls.yields_condition operation v c).bind ?_
  rintro _ rfl
  cases v with
  | idle => exact yields_pure (· = Condition.idle) rfl _
  | running wall => exact yields_pure (· = Condition.running) rfl _
  | paused wall =>
    refine Leads.bind ((controls.unpauses wall c).mapError _) fun _ => ?_
    exact yields_pure (· = Condition.running) rfl _

/-! ### What the operations do -/

/-- A container that does not run is started, which leaves nobody blocked. -/
theorem leads_start_idle (controls : h.Controls state) (c : Commanded) :
    h.start.Leads (h.sight state) (.idle, c) (.running .bare, c.clearPeers.setStatus .running) := by
  refine (controls.yields_unfreeze "start" .idle c).bind ?_
  rintro _ rfl
  refine Leads.bind ((controls.starts c).mapError _) fun _ => ?_
  refine Leads.bind (controls.leads_record Commanded.clearPeers _ c) fun _ => ?_
  exact controls.leads_recorded _ _ _ _ _

theorem leads_start (controls : h.Controls state) (runs : v.thawed = .running wall) (c : Commanded) :
    h.start.Leads (h.sight state) (v, c) (.running wall, c.setStatus .running) := by
  refine (controls.yields_unfreeze "start" v c).bind ?_
  rw [runs]
  rintro _ rfl
  exact controls.leads_recorded _ _ _ _ _

theorem leads_stop_idle (controls : h.Controls state) (grace : Nat) (c : Commanded) :
    (h.stop grace).Leads (h.sight state) (.idle, c)
      (.idle, if c.status.isLive ∨ c.status = .paused then c.setStatus .stopped else c) := by
  refine (controls.yields_unfreeze "stop" .idle c).bind ?_
  rintro _ rfl
  refine Yields.bind (yields_present h state .idle c) ?_
  rintro _ rfl
  split
  · exact controls.leads_record _ _ _
  · exact yields_pure _ trivial _

theorem leads_stop (controls : h.Controls state) (grace : Nat) (runs : v.thawed = .running wall)
    (c : Commanded) :
    (h.stop grace).Leads (h.sight state) (v, c) (.idle, c.setStatus .stopped) := by
  refine (controls.yields_unfreeze "stop" v c).bind ?_
  rw [runs]
  rintro _ rfl
  refine Leads.bind ((controls.stops (stopSeconds grace) wall c).mapError _) fun _ => ?_
  exact controls.leads_recorded _ _ _ _ _

theorem leads_kill (controls : h.Controls state) (v : State) (c : Commanded) :
    h.kill.Leads (h.sight state) (v, c) (.idle, c.setStatus .killed) := by
  refine (controls.yields_unfreeze "kill" v c).bind ?_
  rintro _ rfl
  cases v with
  | idle => exact controls.leads_record _ _ _
  | running wall | paused wall =>
    refine Leads.bind ((controls.kills wall c).mapError _) fun _ => ?_
    exact controls.leads_recorded _ _ _ _ _

theorem leads_pause (controls : h.Controls state) (runs : v.thawed = .running wall) (c : Commanded) :
    h.pause.Leads (h.sight state) (v, c) (.paused wall, c.setStatus .paused) := by
  refine (controls.yields_condition "pause" v c).bind ?_
  rintro _ rfl
  cases v with
  | idle => cases runs
  | running inner =>
    cases runs
    refine Leads.bind ((controls.pauses wall c).mapError _) fun _ => ?_
    exact (leads_log _ _).bind fun _ => controls.leads_record _ _ _
  | paused inner =>
    cases runs
    exact controls.leads_record _ _ _

theorem balks_pause (controls : h.Controls state) (c : Commanded) :
    h.pause.Balks (h.sight state) (.idle, c) := by
  refine (controls.yields_condition "pause" .idle c).bind_balks ?_
  rintro _ rfl
  refine Yields.bind_balks (yields_present h state .idle c) ?_
  rintro _ rfl
  exact balks_give _ _

theorem leads_resume (controls : h.Controls state) (v : State) (c : Commanded) :
    h.resume.Leads (h.sight state) (v, c)
      (v.thawed, if c.status = .paused then c.setStatus .running else c) := by
  have settled : ∀ u, (h.present >>= fun x => if x.status = .paused then
      h.record (Commanded.setStatus .running) else pure ()).Leads (h.sight state) (u, c)
        (u, if c.status = .paused then c.setStatus .running else c) := by
    intro u
    refine (yields_present h state u c).bind ?_
    rintro _ rfl
    split
    · exact controls.leads_record _ _ _
    · exact yields_pure _ trivial _
  refine (controls.yields_condition "resume" v c).bind ?_
  rintro _ rfl
  cases v with
  | idle => exact settled .idle
  | running wall => exact settled (.running wall)
  | paused wall =>
    refine Leads.bind ((controls.unpauses wall c).mapError _) fun _ => ?_
    exact (leads_log _ _).bind fun _ => settled (.running wall)

theorem leads_restart (controls : h.Controls state) (v : State) (c : Commanded) :
    h.restart.Leads (h.sight state) (v, c)
      (.running .bare, c.clearPeers.setStatus .running) := by
  refine (controls.yields_unfreeze "restart" v c).bind fun _ _ => ?_
  have thawed : ∀ wall, v.thawed ≠ .paused wall := by
    intro wall
    cases v <;> nofun
  refine Leads.bind ((controls.restarts _ v.thawed c thawed).mapError _) fun _ => ?_
  refine Leads.bind (controls.leads_record Commanded.clearPeers _ c) fun _ => ?_
  exact controls.leads_recorded _ _ _ _ _

theorem calm_peerBlocker (controls : h.Controls state) :
    h.peerBlocker.Calm (h.sight state) fun wall c => (.running wall, c) where
  carries task wall c plain s hs := by
    obtain ⟨e, code, wall', t, ran, same, executes, ht⟩ := controls.runs task wall c s plain hs
    obtain ⟨rfl, rfl⟩ := Task.runs_calm_iff.mp ran
    obtain ⟨f, result⟩ := result_runScript executes task.change.operation.name
    rw [if_pos (same.mpr rfl)] at result
    exact ⟨(), t, result, trivial, ht⟩
  reads s wall c hs := congrArg Prod.snd hs
  notes f wall c := controls.leads_record f (.running wall) c

theorem balks_carry (controls : h.Controls state) (still : ∀ wall, v ≠ .running wall) (c : Commanded)
    (task : Task) : (h.peerBlocker.carry task).Balks (h.sight state) (v, c) :=
  (((controls.refuses (.firewall task) v c still).bind _).mapError _).bind _

end Controls

end Handle

/-! ### A container and what was commanded of it -/

/-- What was commanded follows a container: a live status while it runs, a paused one while it is frozen,
one of the others while it does not run; and while it has a network the hosts that are blocked there
are those of the recorded peers. -/
structure Follows (v : State) (c : Commanded) : Prop where
  live : c.status.isLive = true ↔ ∃ wall, v = .running wall
  paused : c.status = .paused ↔ ∃ wall, v = .paused wall
  ended : c.status = .stopped ∨ c.status = .killed ↔ v = .idle
  blocked : ∀ wall, v.wall? = some wall → wall.Shuts c.peers

/-- What was commanded of a container fits it, and some peers are all that may be blocked. -/
structure Held (named : Endpoint → Prop) (v : State) (c : Commanded) : Prop where
  shows : v.Shows c.status.process
  shut : ∀ wall, v.wall? = some wall → wall.Shuts c.peers
  named : ∀ p ∈ c.peers, named p

namespace Held
variable {named : Endpoint → Prop} {v v' : State} {wall : Wall} {c : Commanded} {s : NodeStatus}

/-- A new status, where nothing became of the rules. -/
theorem setStatus (held : Held named v c) (shows : v'.Shows s.process)
    (same : ∀ wall, v'.wall? = some wall → v.wall? = some wall) :
    Held named v' (c.setStatus s) where
  shows := (Commanded.process_setStatus s c).symm ▸ shows
  shut wall hwall := held.shut wall (same wall hwall)
  named := held.named

theorem anew (named : Endpoint → Prop) (c : Commanded) :
    Held named (.running .bare) (c.clearPeers.setStatus .running) where
  shows := Commanded.process_setStatus .running c.clearPeers
  shut wall hwall := by
    cases hwall
    exact Wall.shuts_bare rfl
  named p hp := absurd hp (EndpointSet.not_mem_empty p)

theorem made (held : Held named (.running wall) c) (change : Change) (elevated : Bool)
    (distinct : ∀ p q, named p → named q → p.host = q.host → p = q) {ps : List Endpoint}
    (hps : ∀ p ∈ ps, named p) :
    Held named (.running (change.made elevated ps (wall, c)).1)
      (change.made elevated ps (wall, c)).2 := by
  obtain ⟨shuts, names⟩ :=
    Change.shuts_made change elevated distinct hps held.named (held.shut wall rfl)
  refine ⟨?_, fun wall' hwall => ?_, names⟩
  · exact (Change.process_made change elevated ps wall c).trans held.shows
  · cases hwall
    exact shuts

theorem follows (held : Held named v c) : Follows v c := by
  have live := NodeStatus.isLive_iff_process (s := c.status)
  have paused := NodeStatus.eq_iff_process (s := c.status) (p := .paused) rfl
  have stopped := NodeStatus.eq_iff_process (s := c.status) (p := .stopped) rfl
  have killed := NodeStatus.eq_iff_process (s := c.status) (p := .killed) rfl
  have shows := held.shows
  cases v with
  | idle =>
    obtain process | process := shows <;>
    · refine ⟨?_, ?_, ?_, held.shut⟩ <;> simp [live, paused, stopped, killed, process]
  | running wall | paused wall =>
    have process : c.status.process = _ := shows
    refine ⟨?_, ?_, ?_, held.shut⟩ <;> simp [live, paused, stopped, killed, process]

theorem ne_paused (held : Held named v c) (moves : v.thawed = v) : c.status ≠ .paused := by
  intro frozen
  obtain ⟨wall, rfl⟩ := held.follows.paused.mp frozen
  cases moves

end Held

namespace Handle
variable {σ : Type} {h : Handle σ} {state : σ → State} {v : State} {wall : Wall} {c : Commanded}

/-- A command succeeds, and then what was commanded fits the container again, or it fails and changes
neither. -/
theorem Controls.settles_tell {named : Endpoint → Prop} (controls : h.Controls state) (held : Held named v c)
    (plain : ∀ p, named p → IsPlain p.host)
    (distinct : ∀ p q, named p → named q → p.host = q.host → p = q) {cmd : Simulation.Command}
    (other : cmd ≠ .destroy) (names : ∀ p ∈ cmd.peers, named p) :
    (cmd.tell h.node).Settles (h.sight state) (fun x => Held named x.1 x.2) (v, c) := by
  have orders : ∀ change peers, (∀ p ∈ peers, named p) →
      (h.peerBlocker.order change peers).Settles (h.sight state) (fun x => Held named x.1 x.2) (v, c) := by
    intro change peers hpeers
    by_cases runs : ∃ wall, v = .running wall
    · obtain ⟨wall, rfl⟩ := runs
      obtain ⟨targets, among, leads⟩ :=
        controls.calm_peerBlocker.leads_order change wall c fun p hp => plain p (hpeers p hp)
      exact leads.settles (held.made change _ distinct fun p hp => hpeers p (among p hp))
    · have refuses := controls.balks_carry (fun wall hv => runs ⟨wall, hv⟩) c
      exact (PeerBlocker.leads_or_balks_order refuses fun s hs => congrArg Prod.snd hs).imp_left
        fun leads => ⟨(v, c), leads, held⟩
  cases cmd with
  | start =>
    cases v with
    | idle => exact (controls.leads_start_idle c).settles (.anew named c)
    | running wall | paused wall =>
      exact (controls.leads_start rfl c).settles (held.setStatus rfl fun _ same => same)
  | stop grace =>
    cases v with
    | idle =>
      refine (controls.leads_stop_idle grace c).settles ?_
      dsimp only
      split
      · exact held.setStatus (.inl rfl) fun _ same => same
      · exact held
    | running wall | paused wall =>
      exact (controls.leads_stop grace rfl c).settles (held.setStatus (.inl rfl) nofun)
  | kill => exact (controls.leads_kill v c).settles (held.setStatus (.inr rfl) nofun)
  | pause =>
    cases v with
    | idle => exact (controls.balks_pause c).settles
    | running wall | paused wall =>
      exact (controls.leads_pause rfl c).settles (held.setStatus rfl fun _ same => same)
  | resume =>
    refine (controls.leads_resume v c).settles ?_
    dsimp only
    cases v with
    | idle | running wall =>
      rw [if_neg (held.ne_paused rfl)]
      exact held
    | paused wall =>
      rw [if_pos ((NodeStatus.eq_iff_process rfl).mpr held.shows)]
      exact held.setStatus rfl fun _ same => same
  | disconnect peers => exact orders .block peers names
  | reconnect peers => exact orders .unblock peers names
  | restart => exact (controls.leads_restart v c).settles (.anew named c)
  | destroy => exact absurd rfl other
  | powerOff | powerOn | reboot | powerState => exact ((balks_give _ _).bind _).settles

end Handle

/-! ### From provisioning on -/

namespace Project
variable {σ : Type} {p : Project σ} {state : String → σ → State}

/-- The daemon of a project does with its containers what it is told and nobody else does; a container
that was made does not run yet, and what handles have commanded is kept apart. -/
structure Controls (p : Project σ) (state : String → σ → State) : Prop where
  makes : ∀ name plan s t, (p.daemon.make name plan).result s = (.ok (), t) → state name t = .idle
  rooms : ∀ c s name, state name ((p.room c).result s).2 = state name s
  noted : ∀ c s, ((p.room c).result s).1.get ((p.room c).result s).2 = c
  handles : ∀ c s (h : Handle σ), h.daemon = p.daemon → h.commanded = ((p.room c).result s).1 →
    h.Controls (state h.container)

/-- What was provisioned is a handle on a container that runs, with nobody blocked. -/
theorem Controls.provisioned (controls : p.Controls state) {index : Nat} {f : Fixture} {s t : σ}
    {node : Node σ} (made : (p.provision index f).result s = (.ok node, t)) :
    ∃ h : Handle σ, node = h.node ∧ h.container = containerName p.name index ∧
      h.Controls (state (containerName p.name index)) ∧
      h.sight (state (containerName p.name index)) t =
        (.running .bare, (Commanded.ofStatus .stopped).clearPeers.setStatus .running) := by
  obtain ⟨spec, s₁, -, made⟩ := Attempt.bind_eq_ok made
  obtain ⟨address, s₂, -, made⟩ := Attempt.bind_eq_ok made
  obtain ⟨_, s₃, created, made⟩ := Attempt.bind_eq_ok made
  obtain ⟨commanded, s₄, roomed, made⟩ := Attempt.bind_eq_ok made
  obtain ⟨_, s₅, started, made⟩ := Attempt.bind_eq_ok made
  cases made
  have roomed := Attempt.lift_eq_ok roomed
  have idle := controls.makes _ _ _ _ (Attempt.mapError_eq_ok created)
  let h : Handle σ := ⟨Endpoint.ofParts address spec.memberPort, containerName p.name index,
    f.faults.stopGrace, p.daemon, commanded⟩
  have controlled : h.Controls (state h.container) :=
    controls.handles (.ofStatus .stopped) s₃ h rfl (congrArg Prod.fst roomed.symm)
  have before : h.sight (state h.container) s₄ = (.idle, .ofStatus .stopped) := by
    have apart := controls.rooms (.ofStatus .stopped) s₃ h.container
    have noted := controls.noted (.ofStatus .stopped) s₃
    rw [roomed] at apart noted
    exact Prod.ext (apart.trans idle) noted
  have after := (controlled.leads_start_idle (.ofStatus .stopped)).view_result before
  exact ⟨h, rfl, rfl, controlled, (congrArg (h.sight _) (congrArg Prod.snd started).symm).trans after⟩

/-- **From provisioning on, whatever a handle on a container is told to do and whatever becomes of it,
what was commanded follows the container; and a command that fails changes neither.** -/
theorem Controls.commanded_follows_container (controls : p.Controls state) {index : Nat} {f : Fixture}
    {s t : σ} {node : Node σ} (made : (p.provision index f).result s = (.ok node, t))
    (cmds : List Simulation.Command) (cmd : Simulation.Command)
    (others : ∀ cmd' ∈ cmds ++ [cmd], cmd' ≠ .destroy)
    (plain : ∀ p ∈ (cmds ++ [cmd]).flatMap Simulation.Command.peers, IsPlain p.host)
    (distinct : ∀ p ∈ (cmds ++ [cmd]).flatMap Simulation.Command.peers,
      ∀ q ∈ (cmds ++ [cmd]).flatMap Simulation.Command.peers, p.host = q.host → p = q) :
    Follows (state (containerName p.name index) (Simulation.Command.obeyed node cmds t))
        (node.commanded (Simulation.Command.obeyed node cmds t)) ∧
      ∀ e u, (cmd.tell node).result (Simulation.Command.obeyed node cmds t) = (.error e, u) →
        state (containerName p.name index) u =
            state (containerName p.name index) (Simulation.Command.obeyed node cmds t) ∧
          node.commanded u = node.commanded (Simulation.Command.obeyed node cmds t) := by
  obtain ⟨h, rfl, -, controlled, sight⟩ := controls.provisioned made
  generalize state (containerName p.name index) = state at controlled sight ⊢
  let named := fun p : Endpoint => p ∈ (cmds ++ [cmd]).flatMap Simulation.Command.peers
  have step : ∀ cmd' ∈ cmds ++ [cmd], ∀ x : State × Commanded, Held named x.1 x.2 →
      (cmd'.tell h.node).Settles (h.sight state) (fun x => Held named x.1 x.2) x :=
    fun cmd' hcmd x held => controlled.settles_tell held plain (fun p q hp hq => distinct p hp q hq)
      (others cmd' hcmd) fun p hp => List.mem_flatMap.mpr ⟨cmd', hcmd, hp⟩
  have fresh : Held named (h.sight state t).1 (h.sight state t).2 := by
    rw [sight]
    exact .anew named _
  obtain ⟨held, stays⟩ := Simulation.Command.good_obeyed (h.sight state) step fresh
  exact ⟨held.follows, fun e u failed => Prod.mk.inj (stays e u failed)⟩

end Project

/-! ### A daemon that does as it is told -/

/-- Some containers, and what a handle on one of them has commanded. -/
structure ContainerHost where
  states : String → State
  commanded : Commanded
  /-- The task that was set up in a container. -/
  task : Option (String × Task)

namespace ContainerHost

/-- Nothing was made yet. -/
def empty : ContainerHost := ⟨fun _ => .idle, .ofStatus .stopped, none⟩

/-- Something becomes of a container. -/
def turned (name : String) (v : State) (s : ContainerHost) : ContainerHost :=
  { s with states := fun other => if other = name then v else s.states other }

/-- Have something become of a container, unless it is refused. -/
def turn (name : String) (turns : State → Option State) : Attempt ContainerHost DaemonError Unit :=
  Attempt.ofCall (Call.atomically fun s => match turns (s.states name) with
    | some v => (.ok (), s.turned name v)
    | none => (.error ⟨409, "not allowed"⟩, s))

/-- A container that was started, stopped, frozen, unfrozen or started again, where that is allowed. -/
def started : State → Option State
  | .idle => some (.running .bare)
  | _ => none

@[inherit_doc started]
def stopped : State → Option State
  | .running _ => some .idle
  | _ => none

@[inherit_doc started]
def frozen : State → Option State
  | .running wall => some (.paused wall)
  | _ => none

@[inherit_doc started]
def unfrozen : State → Option State
  | .paused wall => some (.running wall)
  | _ => none

@[inherit_doc started]
def restarted : State → Option State
  | .paused _ => none
  | _ => some (.running .bare)

/-- The daemon. -/
def daemon : Daemon ContainerHost where
  makeNetwork _ := return ()
  removeNetwork _ := return ()
  make name _ := turn name fun _ => some .idle
  inspect name := Attempt.ofCall (Call.read fun s => .ok (match s.states name with
    | .idle => some .exited
    | .running _ => some .running
    | .paused _ => some .paused))
  start name := turn name started
  stop name _ := turn name stopped
  kill name := turn name stopped
  pause name := turn name frozen
  unpause name := turn name unfrozen
  restart name _ := turn name restarted
  remove name := turn name fun _ => some .idle
  prepareCommand name
    | .firewall task => Attempt.ofCall (Call.atomically fun s => match s.states name with
      | .running _ => (.ok 0, { s with task := some (name, task) })
      | _ => (.error ⟨409, "not running"⟩, s))
    | .words _ => Attempt.give (.error ⟨409, "not allowed"⟩)
  runCommand _ := Attempt.ofCall (Call.atomically fun s => match s.task with
    | some (name, task) => (.ok ("", ""), match s.states name with
      | .running wall => s.turned name (.running (task.carried wall))
      | _ => s)
    | none => (.ok ("", ""), s))
  inspectCommand _ := Attempt.ofCall (Call.read fun _ => .ok (some 0))

/-- What the handle has commanded. -/
def slot : Part ContainerHost Commanded := ⟨commanded, fun c s => { s with commanded := c }⟩

/-- A project with one handle. -/
def project : Project ContainerHost where
  name := "p"
  daemon := daemon
  networkMade := ⟨fun _ => true, fun _ s => s⟩
  room c := Call.atomically fun s => (slot, { s with commanded := c })

/-- How the container with a name is. -/
def state (name : String) (s : ContainerHost) : State := s.states name

section handle
variable (id : Endpoint) (name : String) (grace : Nat)

theorem leads_turn {turns : State → Option State} {v v' : State} (turned : turns v = some v')
    (c : Commanded) :
    (turn name turns).Leads (Handle.sight ⟨id, name, grace, daemon, slot⟩ (state name))
      (v, c) (v', c) := by
  intro s hs
  obtain ⟨here, noted⟩ := Prod.mk.inj hs
  refine ⟨(), s.turned name v', ?_, trivial, Prod.ext (if_pos rfl) noted⟩
  have here : s.states name = v := here
  rw [turn, Attempt.result_ofCall, Call.result_atomically, here, turned]

theorem controls_handle : Handle.Controls ⟨id, name, grace, daemon, slot⟩ (state name) where
  inspects v c s hs := by
    refine ⟨_, s, rfl, ?_, hs⟩
    rw [show s.states name = v from congrArg Prod.fst hs]
    cases v with
    | idle => exact .inr rfl
    | running wall | paused wall => rfl
  starts := leads_turn id name grace rfl
  stops _ _ := leads_turn id name grace rfl
  kills _ := leads_turn id name grace rfl
  pauses _ := leads_turn id name grace rfl
  unpauses _ := leads_turn id name grace rfl
  restarts _ v c thawed := by
    refine leads_turn id name grace ?_ c
    cases v with
    | idle | running wall => rfl
    | paused wall => exact absurd rfl (thawed wall)
  runs task wall c s _ hs := by
    obtain ⟨here, noted⟩ := Prod.mk.inj hs
    have here : s.states name = .running wall := here
    let set : ContainerHost := { s with task := some (name, task) }
    refine ⟨.success, 0, task.carried wall, set.turned name (.running (task.carried wall)),
      Task.runs_calm_iff.mpr ⟨rfl, rfl⟩, by decide, ⟨0, "", "", set, _, ?_, ?_, rfl⟩,
      Prod.ext (if_pos rfl) noted⟩
    · simp only [daemon, Attempt.result_ofCall, Call.result_atomically, here, set]
    · simp only [daemon, Attempt.result_ofCall, Call.result_atomically, here, set, turned]
  refuses command v c still s hs := by
    have here : s.states name = v := congrArg Prod.fst hs
    cases command with
    | firewall task =>
      refine ⟨⟨409, "not running"⟩, s, ?_, hs⟩
      cases v with
      | running wall => exact absurd rfl (still wall)
      | idle | paused wall =>
        simp only [daemon, Attempt.result_ofCall, Call.result_atomically, here]
    | words ws => exact ⟨⟨409, "not allowed"⟩, s, rfl, hs⟩
  get_set _ _ := rfl
  state_set _ _ := rfl

end handle

theorem controls_project : project.Controls state where
  makes name plan s t made := by
    cases made
    exact if_pos rfl
  rooms _ _ _ := rfl
  noted _ _ := rfl
  handles c s h hd hc := by
    obtain ⟨id, name, grace, d, commanded⟩ := h
    obtain rfl : d = daemon := hd
    obtain rfl : commanded = slot := hc
    exact controls_handle id name grace

/-- A fixture with one member. -/
def fixture : Fixture :=
  { Fixture.simulated 1 with
    backend := .containers ⟨"img:1", defaultMemberPort, [], [], defaultSubnet⟩ }

/-- Two peers are blocked, one of them is let through after the member was frozen in between, and the
member is ended. -/
def commands : List Simulation.Command :=
  [.disconnect [⟨"b:1"⟩, ⟨"c:1"⟩], .pause, .reconnect [⟨"b:1"⟩], .resume, .reconnect [⟨"b:1"⟩], .kill]

/-- The handle follows its container; a member that was ended cannot be frozen. -/
theorem commanded_follows_container_host :
    ∃ node t, (project.provision 0 fixture).result empty = (.ok node, t) ∧
      Follows (state (containerName "p" 0) (Simulation.Command.obeyed node commands t))
        (node.commanded (Simulation.Command.obeyed node commands t)) ∧
      ∀ e u, (Simulation.Command.tell node .pause).result
          (Simulation.Command.obeyed node commands t) = (.error e, u) →
        state (containerName "p" 0) u =
            state (containerName "p" 0) (Simulation.Command.obeyed node commands t) ∧
          node.commanded u = node.commanded (Simulation.Command.obeyed node commands t) := by
  have well : ((project.provision 0 fixture).result empty).1.toOption.isSome = true := by decide
  obtain ⟨node, some⟩ := Option.isSome_iff_exists.mp well
  have made := Attempt.eq_ok_of_toOption some
  exact ⟨node, _, made, controls_project.commanded_follows_container made commands .pause
    (by decide) (by decide) (by decide)⟩

end ContainerHost

end FaultLab.Container
