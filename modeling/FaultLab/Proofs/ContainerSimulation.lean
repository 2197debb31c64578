import FaultLab.Proofs.Agreement
import FaultLab.Proofs.ContainerRecords

/-! # Simulated containers beside real ones

A handle `Mimics` by a rule if what it answers and what it has commanded depends on the commands so far
alone: `NodeStatus.told` says what comes of a command, and `Reply` what is answered.  The rule has one
parameter, what a kill makes of a process that was stopped, and there simulated and real containers
differ: a simulated one stays stopped (`Simulation.Lab.mimics_container`), a real one counts as killed
from then on (`Container.Handle.Controls.mimics`).

* `NodeStatus.course_eq_or_late`: along any commands the two rules part with a kill of what was stopped,
  and meet again with the next start.
* `Container.Project.Controls.simulation_imitates`: so a simulated container answers every command as a real
  one does, and the two count as commanded to be the same unless the last kill since a start found the
  process stopped. -/

namespace FaultLab

open Simulation (Command)

namespace Simulation.Command

/-- A command to the process of a member that runs in a container. -/
def toProcess : Command → Bool
  | start | stop _ | kill | pause | resume | restart => true
  | _ => false

/-- A command after which a process runs anew, or goes on running. -/
def starts : Command → Bool
  | start | restart => true
  | _ => false

end Simulation.Command

namespace NodeStatus
variable {cmd : Command} {cmds : List Command} {x : NodeStatus}

/-! ### Rules -/

/-- The status of a process that was told something; a kill makes `late` of one that was stopped. -/
def told (x late : NodeStatus) : Command → NodeStatus
  | .start | .restart => .running
  | .stop _ => if x = .killed then .killed else .stopped
  | .kill => if x = .stopped then late else .killed
  | .pause => if x = .running then .paused else x
  | .resume => if x = .paused then .running else x
  | _ => x

/-- Whether a process cannot do what it is told: what has ended cannot be frozen. -/
def denies (x : NodeStatus) (cmd : Command) : Bool :=
  cmd = .pause && (x = .stopped || x = .killed)

/-- The status of a process that ran at first and was told some things. -/
def course (late : NodeStatus) (cmds : List Command) : NodeStatus :=
  cmds.foldl (fun x cmd => x.told late cmd) .running

theorem course_concat (late : NodeStatus) (cmds : List Command) (cmd : Command) :
    course late (cmds ++ [cmd]) = (course late cmds).told late cmd := by
  rw [course, List.foldl_append]
  rfl

/-- The last kill since a start found the process stopped; `stopped` says when it was. -/
def Late (stopped : List Command → Prop) (cmds : List Command) : Prop :=
  ∃ before rest, cmds = before ++ .kill :: rest ∧ stopped before ∧ ∀ c ∈ rest, c.starts = false

theorem late_concat {stopped : List Command → Prop} :
    Late stopped (cmds ++ [cmd]) ↔
      (cmd = .kill ∧ stopped cmds) ∨ (Late stopped cmds ∧ cmd.starts = false) := by
  constructor
  · rintro ⟨before, rest, split, was, still⟩
    obtain rfl | ⟨rest, last, rfl⟩ := List.eq_nil_or_concat' rest
    · obtain ⟨rfl, same⟩ := List.append_inj' split rfl
      exact .inl ⟨List.singleton_inj.mp same, was⟩
    · rw [← List.cons_append, ← List.append_assoc] at split
      obtain ⟨same, last'⟩ := List.append_inj' split rfl
      rw [List.singleton_inj.mp last']
      exact .inr ⟨⟨before, rest, same, was, fun c hc => still c (List.mem_append_left _ hc)⟩,
        still last (List.mem_append_right _ (List.mem_singleton_self last))⟩
  · rintro (⟨rfl, was⟩ | ⟨⟨before, rest, rfl, was, still⟩, goes⟩)
    · exact ⟨cmds, [], rfl, was, fun c hc => absurd hc List.not_mem_nil⟩
    · refine ⟨before, rest ++ [cmd], by rw [List.append_assoc, List.cons_append], was, ?_⟩
      intro c hc
      obtain hc | hc := List.mem_append.mp hc
      · exact still c hc
      · rwa [List.mem_singleton.mp hc]

/-- It matters only what the process was like after a part of the commands. -/
theorem late_congr {P Q : List Command → Prop}
    (same : ∀ before, before <+: cmds → (P before ↔ Q before)) : Late P cmds ↔ Late Q cmds := by
  constructor
  · rintro ⟨before, rest, rfl, was, still⟩
    exact ⟨before, rest, rfl, (same before (List.prefix_append _ _)).mp was, still⟩
  · rintro ⟨before, rest, rfl, was, still⟩
    exact ⟨before, rest, rfl, (same before (List.prefix_append _ _)).mpr was, still⟩

/-- The two rules part where a kill finds the process stopped, and meet again at the next start. -/
theorem course_eq_or_late (toProcess : ∀ c ∈ cmds, c.toProcess = true) :
    (¬ Late (fun before => course .stopped before = .stopped) cmds ∧
        course .stopped cmds = course .killed cmds) ∨
      (Late (fun before => course .stopped before = .stopped) cmds ∧
        course .stopped cmds = .stopped ∧ course .killed cmds = .killed) := by
  -- The last command decides: either both are level before it, or the kill is still the last word.
  induction cmds using List.reverseRecOn with
  | nil =>
    refine .inl ⟨?_, rfl⟩
    rintro ⟨before, rest, split, -⟩
    exact absurd split.symm (List.append_ne_nil_of_right_ne_nil _ (List.cons_ne_nil _ _))
  | append_singleton cmds cmd ih =>
    have able := toProcess cmd (List.mem_append_right _ (List.mem_singleton_self cmd))
    simp only [late_concat, course_concat]
    obtain ⟨level, same⟩ | ⟨late, simulated, real⟩ :=
      ih fun c hc => toProcess c (List.mem_append_left _ hc)
    · rw [← same]
      by_cases strikes : cmd = .kill ∧ course .stopped cmds = .stopped
      · obtain ⟨rfl, was⟩ := strikes
        refine .inr ⟨.inl ⟨rfl, was⟩, ?_, ?_⟩ <;> simp only [told, was, if_true]
      · refine .inl ⟨?_, ?_⟩
        · rintro (now | ⟨late, -⟩)
          · exact strikes now
          · exact level late
        · cases cmd with
          | kill => simp only [told, if_neg fun was => strikes ⟨rfl, was⟩]
          | _ => rfl
    · rw [simulated, real]
      cases cmd with
      | start | restart =>
        refine .inl ⟨?_, rfl⟩
        rintro (⟨⟨⟩, -⟩ | ⟨-, ⟨⟩⟩)
      | stop grace => exact .inr ⟨.inr ⟨late, rfl⟩, rfl, rfl⟩
      | kill => exact .inr ⟨.inr ⟨late, rfl⟩, rfl, rfl⟩
      | pause => exact .inr ⟨.inr ⟨late, rfl⟩, rfl, rfl⟩
      | resume => exact .inr ⟨.inr ⟨late, rfl⟩, rfl, rfl⟩
      | _ => cases able

end NodeStatus

/-! ### Players -/

/-- What is answered to a command: it was done, or the member is in no state to do it. -/
def Reply (denied : Bool) (outcome : Except Failure Unit) : Prop :=
  if denied then ∃ expected actual, outcome = .error (.invalidState expected actual)
  else outcome = .ok ()

/-- Both say that it was done, or both that the member is in no state to do it. -/
def Alike (r r' : Except Failure Unit) : Prop :=
  (r = .ok () ∧ r' = .ok ()) ∨ ((∃ expected actual, r = .error (.invalidState expected actual)) ∧
    ∃ expected actual, r' = .error (.invalidState expected actual))

theorem Reply.alike {denied : Bool} {r r' : Except Failure Unit} (h : Reply denied r)
    (h' : Reply denied r') : Alike r r' := by
  cases denied with
  | false => exact .inl ⟨h, h'⟩
  | true => exact .inr ⟨h, h'⟩

/-- A handle whose member goes by a rule: `At x` says that its status is `x`. -/
structure Mimics {σ : Type} (node : Node σ) (late : NodeStatus) (At : NodeStatus → σ → Prop) :
    Prop where
  shows : ∀ x s, At x s → node.commanded s = .ofStatus x
  obeys : ∀ x s cmd, cmd.toProcess = true → At x s →
    Reply (x.denies cmd) ((cmd.tell node).result s).1 ∧
      At (x.told late cmd) ((cmd.tell node).result s).2

namespace Mimics
variable {σ : Type} {node : Node σ} {late : NodeStatus} {At : NodeStatus → σ → Prop} {s : σ}
  {cmds : List Command}

theorem at_obeyed (mimics : Mimics node late At) (fresh : At .running s)
    (toProcess : ∀ c ∈ cmds, c.toProcess = true) :
    At (NodeStatus.course late cmds) (Command.obeyed node cmds s) := by
  induction cmds using List.reverseRecOn with
  | nil => exact fresh
  | append_singleton cmds cmd ih =>
    rw [NodeStatus.course_concat, Command.obeyed_concat]
    have before := ih fun c hc => toProcess c (List.mem_append_left _ hc)
    have able := toProcess cmd (List.mem_append_right _ (List.mem_singleton_self cmd))
    exact (mimics.obeys _ _ cmd able before).2

theorem commanded_obeyed (mimics : Mimics node late At) (fresh : At .running s)
    (toProcess : ∀ c ∈ cmds, c.toProcess = true) :
    node.commanded (Command.obeyed node cmds s) = .ofStatus (NodeStatus.course late cmds) :=
  mimics.shows _ _ (mimics.at_obeyed fresh toProcess)

theorem reply_obeyed (mimics : Mimics node late At) (fresh : At .running s)
    (toProcess : ∀ c ∈ cmds, c.toProcess = true) {cmd : Command} (able : cmd.toProcess = true) :
    Reply ((NodeStatus.course late cmds).denies cmd)
      ((cmd.tell node).result (Command.obeyed node cmds s)).1 :=
  (mimics.obeys _ _ cmd able (mimics.at_obeyed fresh toProcess)).1

end Mimics

/-! ### Simulated containers -/

namespace Simulation.Handle
variable {h : Handle} {s : Seat} {x : NodeStatus} {cmd : Command}

/-- A member with power whose process has a status that was commanded, and none of whose operations is
to fail. -/
structure Stands (h : Handle) (x : NodeStatus) (s : Seat) : Prop where
  calm : ∀ op, s.fabric.failNext.contains (h.id, op) = false
  commanded : s.commanded = .ofStatus x
  process : x = .running ∨ x = .stopped ∨ x = .paused ∨ x = .killed
  member : ∃ m, s.fabric.members.get? h.id = some m ∧ m.status = x ∧ m.power = .on

namespace Stands

theorem physical (stands : h.Stands x s) : h.physical s = x := by
  obtain ⟨m, found, rfl, -⟩ := stands.member
  exact physical_eq found

theorem lit (stands : h.Stands x s) : h.poweredOff s = false := by
  obtain ⟨m, found, -, on⟩ := stands.member
  rw [poweredOff_eq found, on]
  rfl

theorem settle {y : NodeStatus} (stands : h.Stands x s)
    (process : y = .running ∨ y = .stopped ∨ y = .paused ∨ y = .killed) :
    h.Stands y (h.settle y s) where
  calm := stands.calm
  commanded := by
    rw [Handle.settle, stands.commanded]
    simp [Commanded.setStatus, Commanded.ofStatus, EndpointSet.isEmpty, EndpointSet.empty]
  process := process
  member := by
    obtain ⟨m, found, -, on⟩ := stands.member
    refine ⟨{ m with status := y }, ?_, rfl, on⟩
    change (s.fabric.members.update h.id _).get? h.id = _
    rw [EndpointTable.get?_update, if_pos rfl, found]
    rfl

theorem clearBlocks (stands : h.Stands x s) : h.Stands x (h.clearBlocks s) where
  calm := stands.calm
  commanded := by
    rw [Handle.clearBlocks, stands.commanded]
    obtain rfl | rfl | rfl | rfl := stands.process <;> rfl
  process := stands.process
  member := by
    obtain ⟨m, found, status, on⟩ := stands.member
    refine ⟨{ m with blocked := .empty }, ?_, status, on⟩
    change (s.fabric.members.update h.id _).get? h.id = _
    rw [EndpointTable.get?_update, if_pos rfl, found]
    rfl

theorem started (stands : h.Stands x s) : h.Stands .running (h.started s) := by
  have anew : h.Stands x (if h.startsAnew s then h.clearBlocks s else s) := by
    split
    · exact stands.clearBlocks
    · exact stands
  have started := anew.settle (y := .running) (.inl rfl)
  rw [Handle.started, stands.lit]
  exact started

theorem stopped (stands : h.Stands x s) (grace : Nat) :
    h.Stands (x.told .stopped (.stop grace)) (h.stopped s) := by
  rw [Handle.stopped, stands.physical, NodeStatus.told]
  split
  · rename_i killed
    rw [← killed]
    exact stands
  · have lit : s.commanded.status ≠ .poweredOff := by
      rw [stands.commanded]
      obtain rfl | rfl | rfl | rfl := stands.process <;> decide
    rw [if_neg lit]
    exact stands.settle (.inr (.inl rfl))

theorem killed (stands : h.Stands x s) : h.Stands (x.told .stopped .kill) (h.killed s) := by
  have settles := stands.settle (y := .killed) (.inr (.inr (.inr rfl)))
  rw [Handle.killed, stands.physical]
  obtain rfl | rfl | rfl | rfl := stands.process
  · exact settles
  · exact stands
  · exact settles
  · exact stands

theorem paused (stands : h.Stands x s) :
    Reply (x.denies .pause) (h.paused s).1 ∧ h.Stands (x.told .stopped .pause) (h.paused s).2 := by
  have settles := stands.settle (y := .paused) (.inr (.inr (.inl rfl)))
  rw [Handle.paused, stands.physical, stands.lit]
  obtain rfl | rfl | rfl | rfl := stands.process
  · exact ⟨rfl, settles⟩
  · exact ⟨⟨_, _, rfl⟩, stands⟩
  · exact ⟨rfl, stands⟩
  · exact ⟨⟨_, _, rfl⟩, stands⟩

theorem resumed (stands : h.Stands x s) : h.Stands (x.told .stopped .resume) (h.resumed s) := by
  rw [Handle.resumed, stands.physical, NodeStatus.told]
  split
  · exact stands.settle (.inl rfl)
  · exact stands

theorem result_perform (stands : h.Stands x s) (op : Operation)
    (act : Seat → Except Failure Unit × Seat) : (h.perform op act).result s = act s := by
  rw [Handle.result_perform, guarded, if_neg]
  rw [stands.calm op]
  exact Bool.false_ne_true

/-- **A simulated container** does what its process is told; one that was stopped cannot be killed. -/
theorem tell (stands : h.Stands x s) (able : cmd.toProcess = true) :
    Reply (x.denies cmd) ((cmd.tell h.node).result s).1 ∧
      h.Stands (x.told .stopped cmd) ((cmd.tell h.node).result s).2 := by
  have change : ∀ op f, (h.change op f).result s = (.ok (), f s) := fun op f =>
    stands.result_perform op _
  cases cmd with
  | start =>
    rw [show (Command.tell h.node .start).result s = _ from change .start h.started]
    exact ⟨rfl, stands.started⟩
  | stop grace =>
    rw [show (Command.tell h.node (.stop grace)).result s = _ from change .stop h.stopped]
    exact ⟨rfl, stands.stopped grace⟩
  | kill =>
    rw [show (Command.tell h.node .kill).result s = _ from change .kill h.killed]
    exact ⟨rfl, stands.killed⟩
  | pause =>
    rw [show (Command.tell h.node .pause).result s = _ from stands.result_perform .pause h.paused]
    exact stands.paused
  | resume =>
    rw [show (Command.tell h.node .resume).result s = _ from change .resume h.resumed]
    exact ⟨rfl, stands.resumed⟩
  | restart =>
    have ended := stands.stopped 0
    have again : h.start.result (h.stopped s) = (.ok (), h.started (h.stopped s)) :=
      ended.result_perform .start _
    have both : (Command.tell h.node .restart).result s = (.ok (), h.started (h.stopped s)) := by
      refine (Attempt.result_bind h.stop (fun _ => h.start) s).trans ?_
      rw [show h.stop.result s = _ from change .stop h.stopped]
      exact again
    rw [both]
    exact ⟨rfl, ended.started⟩
  | _ => cases able

end Stands

end Simulation.Handle

namespace Simulation.Lab
variable {lab lab' : Lab} {number : Nat} {h : Handle}

/-- The handle of a simulated container goes by the rule that leaves what was stopped as it is. -/
theorem mimics_container (number : Nat) (h : Handle) :
    Mimics (node number h) .stopped fun x lab =>
      number < lab.handles.length ∧ h.Stands x ((seat number).get lab) where
  shows x lab stands := stands.2.commanded
  obeys x lab cmd able := by
    rintro ⟨there, stands⟩
    have lawful := lawful_seat number
    have told : (cmd.tell (node number h)).result lab = _ :=
      (congrArg (Attempt.result · lab) (Command.tell_focus (seat number) h.node cmd)).trans
        (Call.result_focus lawful (cmd.tell h.node).toCall there)
    obtain ⟨reply, after⟩ := stands.tell able
    rw [told]
    refine ⟨reply, lawful.stays _ lab there, ?_⟩
    rw [lawful.get_set _ lab there]
    exact after

/-- A member that was just made runs, if none of its operations is to fail. -/
theorem stands_provision {flavor : Flavor} {index : Nat} {fixture : Fixture} {sim : Node Lab}
    (calm : ∀ op, lab.fabric.failNext.contains
      (endpointAt index fixture.backend.memberPort, op) = false)
    (made : ((backend flavor).provision index fixture).result lab = (.ok sim, lab')) :
    ∃ number h, sim = node number h ∧
      number < lab'.handles.length ∧ h.Stands .running ((seat number).get lab') := by
  rw [result_provision] at made
  split at made
  · cases made
  · cases made
    refine ⟨_, _, rfl, ?_, calm, ?_, .inl rfl, .fresh, ?_, rfl, rfl⟩
    · rw [List.length_append]
      exact Nat.lt_succ_self _
    · have first : (lab.handles ++ [firstCommand])[lab.handles.length]? = some firstCommand :=
        List.getElem?_concat_length
      simp only [seat, commandedBy, first]
      rfl
    · change (lab.fabric.members.insert _ .fresh).get? _ = some .fresh
      rw [EndpointTable.get?_insert]
      exact if_pos rfl

end Simulation.Lab

/-! ### Real containers -/

namespace Container
variable {σ : Type}

namespace Handle
variable {h : Handle σ} {state : σ → State} {v : State} {c : Commanded} {s : σ} {x : NodeStatus}

/-- A container that shows the status which was commanded of it. -/
def Stands (h : Handle σ) (state : σ → State) (x : NodeStatus) (s : σ) : Prop :=
  ∃ v : State, v.Shows x ∧ h.sight state s = (v, .ofStatus x)

theorem Controls.result_pause_idle (controls : h.Controls state) (idle : h.sight state s = (.idle, c)) :
    ∃ t, h.pause.result s = (.error (.invalidState "running container" c.status.display), t) ∧
      h.sight state t = (.idle, c) := by
  obtain ⟨condition, t, inspected, rfl, same⟩ := controls.yields_condition "pause" .idle c s idle
  refine ⟨t, ?_, same⟩
  have commanded : h.commanded.get t = c := congrArg Prod.snd same
  rw [pause, Attempt.result_bind, inspected, ← commanded]
  rfl

/-- Where an attempt succeeds, the container shows what was commanded. -/
theorem stands_of_leads {attempt : Attempt σ Failure Unit} {v' : State} {c' : Commanded}
    {y : NodeStatus} (sight : h.sight state s = (v, c))
    (leads : attempt.Leads (h.sight state) (v, c) (v', c')) (noted : c' = .ofStatus y)
    (shows : v'.Shows y) :
    (attempt.result s).1 = .ok () ∧ h.Stands state y (attempt.result s).2 := by
  obtain ⟨_, t, made, -, after⟩ := leads s sight
  rw [made]
  rw [noted] at after
  exact ⟨rfl, v', shows, after⟩

/-- **A real container** does what its process is told; one that was stopped can still be killed. -/
theorem Controls.mimics (controls : h.Controls state) : Mimics h.node .killed (h.Stands state) where
  shows x s := fun ⟨_, _, sight⟩ => congrArg Prod.snd sight
  obeys x s cmd able := by
    rintro ⟨v, shows, sight⟩
    cases cmd with
    | start =>
      cases v with
      | idle =>
        obtain rfl | rfl := shows
        · exact stands_of_leads sight (controls.leads_start_idle _) rfl rfl
        · exact stands_of_leads sight (controls.leads_start_idle _) rfl rfl
      | running wall | paused wall =>
        cases shows
        exact stands_of_leads sight (controls.leads_start rfl _) rfl rfl
    | stop grace =>
      cases v with
      | idle =>
        obtain rfl | rfl := shows
        · exact stands_of_leads sight (controls.leads_stop_idle grace _) rfl (Or.inl rfl)
        · exact stands_of_leads sight (controls.leads_stop_idle grace _) rfl (Or.inr rfl)
      | running wall | paused wall =>
        cases shows
        exact stands_of_leads sight (controls.leads_stop grace rfl _) rfl (Or.inl rfl)
    | kill =>
      have killed := stands_of_leads sight (controls.leads_kill v _) rfl (Or.inr rfl)
      cases v with
      | idle =>
        obtain rfl | rfl := shows
        · exact killed
        · exact killed
      | running wall | paused wall =>
        cases shows
        exact killed
    | pause =>
      cases v with
      | idle =>
        obtain ⟨t, refused, same⟩ := controls.result_pause_idle sight
        rw [show (Simulation.Command.tell h.node .pause).result s = _ from refused]
        obtain rfl | rfl := shows
        · exact ⟨⟨_, _, rfl⟩, .idle, Or.inl rfl, same⟩
        · exact ⟨⟨_, _, rfl⟩, .idle, Or.inr rfl, same⟩
      | running wall | paused wall =>
        cases shows
        exact stands_of_leads sight (controls.leads_pause rfl _) rfl rfl
    | resume =>
      cases v with
      | idle =>
        obtain rfl | rfl := shows
        · exact stands_of_leads sight (controls.leads_resume .idle _) rfl (Or.inl rfl)
        · exact stands_of_leads sight (controls.leads_resume .idle _) rfl (Or.inr rfl)
      | running wall | paused wall =>
        cases shows
        exact stands_of_leads sight (controls.leads_resume _ _) rfl rfl
    | restart => exact stands_of_leads sight (controls.leads_restart v _) rfl rfl
    | _ => cases able

end Handle

/-! ### Side by side -/

namespace Project
variable {p : Project σ} {state : String → σ → State}

/-- **A simulated container imitates a real one** on an honest daemon, but for a kill of what was
stopped.  Told the same, both do it or neither is in a state to; and the same was commanded of both,
unless the last kill since a start found the process stopped: then the simulated one counts as stopped
and the real one as killed. -/
theorem Controls.simulation_imitates (controls : p.Controls state) {index : Nat} {f : Fixture} {s t : σ}
    {real : Node σ} (made : (p.provision index f).result s = (.ok real, t))
    {index' : Nat} {f' : Fixture} {lab lab' : Simulation.Lab} {sim : Node Simulation.Lab}
    (calm : ∀ op, lab.fabric.failNext.contains
      (Simulation.endpointAt index' f'.backend.memberPort, op) = false)
    (made' : ((Simulation.Lab.backend .container).provision index' f').result lab = (.ok sim, lab'))
    (cmds : List Simulation.Command) (cmd : Simulation.Command)
    (toProcess : ∀ c ∈ cmds ++ [cmd], c.toProcess = true) :
    let simAfter := fun cmds => Simulation.Command.obeyed sim cmds lab'
    let realAfter := fun cmds => Simulation.Command.obeyed real cmds t
    let late := NodeStatus.Late (fun before => (sim.commanded (simAfter before)).status = .stopped) cmds
    Alike ((cmd.tell sim).result (simAfter cmds)).1 ((cmd.tell real).result (realAfter cmds)).1 ∧
      (¬ late → sim.commanded (simAfter cmds) = real.commanded (realAfter cmds)) ∧
      (late → sim.commanded (simAfter cmds) = .ofStatus .stopped ∧
        real.commanded (realAfter cmds) = .ofStatus .killed) := by
  intro simAfter realAfter late
  obtain ⟨h, rfl, -, controlled, sight⟩ := controls.provisioned made
  obtain ⟨number, g, rfl, stands⟩ := Simulation.Lab.stands_provision calm made'
  have simulated := Simulation.Lab.mimics_container number g
  have mimics := controlled.mimics
  have runs : h.Stands (state (containerName p.name index)) .running t :=
    ⟨.running .bare, rfl, sight⟩
  have earlier : ∀ c ∈ cmds, c.toProcess = true := fun c hc =>
    toProcess c (List.mem_append_left _ hc)
  have able := toProcess cmd (List.mem_append_right _ (List.mem_singleton_self cmd))
  have same : late ↔
      NodeStatus.Late (fun before => NodeStatus.course .stopped before = .stopped) cmds := by
    refine NodeStatus.late_congr fun before start => ?_
    rw [simulated.commanded_obeyed stands fun c hc => earlier c (start.subset hc)]
    rfl
  have reply := simulated.reply_obeyed stands earlier able
  have reply' := mimics.reply_obeyed runs earlier able
  rw [same, simulated.commanded_obeyed stands earlier, mimics.commanded_obeyed runs earlier]
  obtain ⟨level, equal⟩ | ⟨struck, ended, ended'⟩ := NodeStatus.course_eq_or_late earlier
  · rw [← equal] at reply' ⊢
    exact ⟨reply.alike reply', fun _ => rfl, fun struck => absurd struck level⟩
  · rw [ended] at reply ⊢
    rw [ended'] at reply' ⊢
    -- Stopped or killed, a process that has ended is denied the same commands.
    have denies : NodeStatus.denies .killed cmd = NodeStatus.denies .stopped cmd := by
      cases cmd <;> rfl
    rw [denies] at reply'
    exact ⟨reply.alike reply', fun level => absurd struck level, fun _ => ⟨rfl, rfl⟩⟩

end Project

namespace ContainerHost
open Simulation (Lab)

/-- A member is frozen, stopped and then killed. -/
def overkill : List Simulation.Command := [.pause, .stop 0, .kill]

theorem simulation_imitates_overkill :
    ∃ real t sim lab', (project.provision 0 fixture).result empty = (.ok real, t) ∧
      ((Lab.backend .container).provision 0 (.simulated 1)).result Lab.empty = (.ok sim, lab') ∧
      (∀ c ∈ overkill ++ [.pause], c.toProcess = true) ∧
      Alike ((Simulation.Command.tell sim .pause).result
          (Simulation.Command.obeyed sim overkill lab')).1
        ((Simulation.Command.tell real .pause).result
          (Simulation.Command.obeyed real overkill t)).1 ∧
      sim.commanded (Simulation.Command.obeyed sim overkill lab') = .ofStatus .stopped ∧
      real.commanded (Simulation.Command.obeyed real overkill t) = .ofStatus .killed := by
  have well : ((project.provision 0 fixture).result empty).1.toOption.isSome = true := by decide
  obtain ⟨real, some⟩ := Option.isSome_iff_exists.mp well
  have made := Attempt.eq_ok_of_toOption some
  have made' := Lab.result_provision .container 0 (.simulated 1) Lab.empty
  have toProcess : ∀ c ∈ overkill ++ [.pause], c.toProcess = true := by decide
  obtain ⟨alike, -, parted⟩ := controls_project.simulation_imitates made (fun _ => rfl) made' overkill
    .pause toProcess
  exact ⟨real, _, _, _, made, made', toProcess, alike,
    parted ⟨[.pause, .stop 0], [], rfl, rfl, fun c hc => absurd hc List.not_mem_nil⟩⟩

/-- What was commanded of a simulated container is not always what was commanded of a real one. -/
theorem simulation_parts_after_overkill :
    ¬ ∀ (σ : Type) (p : Project σ) (state : String → σ → State), p.Controls state →
      ∀ index f s real t, (p.provision index f).result s = (.ok real, t) →
      ∀ index' f' lab sim lab',
        ((Lab.backend .container).provision index' f').result lab = (.ok sim, lab') →
        (∀ op, lab.fabric.failNext.contains
          (Simulation.endpointAt index' f'.backend.memberPort, op) = false) →
        ∀ cmds : List Simulation.Command, (∀ c ∈ cmds, c.toProcess = true) →
          (sim.commanded (Simulation.Command.obeyed sim cmds lab')).status =
            (real.commanded (Simulation.Command.obeyed real cmds t)).status := by
  intro imitates
  have killed : ((project.provision 0 fixture).result empty).1.toOption.map (fun real =>
      (real.commanded (Simulation.Command.obeyed real overkill
        ((project.provision 0 fixture).result empty).2)).status) = some .killed := by decide
  obtain ⟨real, some, killed⟩ := Option.map_eq_some_iff.mp killed
  have made := Attempt.eq_ok_of_toOption some
  have made' := Lab.result_provision .container 0 (.simulated 1) Lab.empty
  have same := imitates ContainerHost project state controls_project 0 fixture empty real _ made 0
    (.simulated 1) Lab.empty _ _ made' (fun _ => rfl) overkill (by decide)
  have stopped : NodeStatus.stopped = .killed := same.trans killed
  cases stopped

end ContainerHost

end Container

end FaultLab
