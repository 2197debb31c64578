import FaultLab.Machine.Backend
import FaultLab.Proofs.HypervisorCalls
import FaultLab.Proofs.PeerBlocking

/-! # Members on machines in an ideal lab

`Handle.Controls` is an ideal lab around a machine: the hypervisor does at once what it is asked for, and the
shell reaches the machine exactly while it has power.  There the commands act on the one process of the
member, which is also found while it is frozen, and scripts run against the wall of the machine.

From that, for each operation of a handle, with power and without: what becomes of the machine and of what
the handle has commanded, or that the operation fails and changes neither.  Where an operation sets a deadline,
it has to be `Deadline.Feasible`; with one that the clock will not show, the program ends half-way
(`Controls.fails_ensurePower`, `Controls.fails_stop`). -/

namespace FaultLab

namespace Machine

open Firewall Attempt

namespace Process

/-- A process that is not frozen any more. -/
def awake : Process → Process
  | frozen => running
  | p => p

/-- A process once it was asked for: one that is there is left as it is. -/
def started : Process → Process
  | absent => running
  | p => p

theorem started_of_ne_frozen {p : Process} (thawed : p ≠ frozen) : p.started = running := by
  cases p with
  | frozen => exact absurd rfl thawed
  | absent | running => rfl

theorem awake_of_ne_absent {p : Process} (there : p ≠ absent) : p.awake = running := by
  cases p with
  | absent => exact absurd rfl there
  | running | frozen => rfl

end Process

namespace Handle
variable {σ : Type} {h : Handle σ} {body : σ → Body} {knows : σ → String → Prop} {b b' : Body}
  {p : Process} {wall : Wall} {c : Commanded} {cmd : Command}

/-- What there is to see of a machine and its handle. -/
def sight (h : Handle σ) (body : σ → Body) (s : σ) : Body × Commanded := (body s, h.commanded.get s)

/-- What starting a member does once its process is not frozen any more, as far as its handle knows. -/
def ensureProcess (h : Handle σ) : Attempt σ Failure Unit := do
  if !(← h.isRunning "start") then h.run "start" (.start h.process.start)
  h.record (Commanded.setStatus .running)
  h.report "started" []

/-- What starting a member does once its machine has power. -/
def rouse (h : Handle σ) : Attempt σ Failure Unit := do
  if (← h.present).status = .paused then h.run "start" (h.signal .cont)
  h.ensureProcess

theorem start_eq (h : Handle σ) : h.start = (do
    if (← h.present).status = .poweredOff then h.ensurePower "start"
    h.rouse) := rfl

/-- A command succeeds on a machine and does something to it. -/
def Obeys (h : Handle σ) (body : σ → Body) (cmd : Command) (b b' : Body) : Prop :=
  ∀ c s, h.sight body s = (b, c) → ∃ stdout stderr t,
    (h.shell h.host cmd).result s = (.ended (some 0) stdout stderr, t) ∧ h.sight body t = (b', c)

/-- An ideal lab around a machine. -/
structure Controls (h : Handle σ) (body : σ → Body) (knows : σ → String → Prop) : Prop where
  serves : h.hypervisor.Serves h.vm (h.sight body) knows
  unreachable : ∀ cmd c s, h.sight body s = (.off, c) → ∃ stdout stderr t,
    (h.shell h.host cmd).result s = (.ended (some connectionFailure) stdout stderr, t) ∧
    h.sight body t = (.off, c)
  probes : ∀ p wall, h.Obeys body .probe (.on p wall) (.on p wall)
  finds : ∀ p wall, p ≠ .absent →
    h.Obeys body (.status h.process.status) (.on p wall) (.on p wall)
  misses : ∀ wall c s, h.sight body s = (.on .absent wall, c) → ∃ code stdout stderr t,
    code ≠ 0 ∧ code ≠ connectionFailure ∧ (h.shell h.host (.status h.process.status)).result s =
      (.ended (some code) stdout stderr, t) ∧ h.sight body t = (.on .absent wall, c)
  starts : ∀ wall, h.Obeys body (.start h.process.start) (.on .absent wall) (.on .running wall)
  stops : ∀ wall, h.Obeys body (.stop h.process.stop) (.on .running wall) (.on .absent wall)
  kills : ∀ wall, h.Obeys body (.kill h.process.kill) (.on .running wall) (.on .absent wall)
  freezes : ∀ wall, h.Obeys body (h.signal .stop) (.on .running wall) (.on .frozen wall)
  wakes : ∀ p wall, h.Obeys body (h.signal .cont) (.on p wall) (.on p.awake wall)
  filters : ∀ task p wall c s, IsPlain task.peer → h.sight body s = (.on p wall, c) →
    ∃ e code stdout stderr wall' t, task.script.Runs wall e [] wall' ∧ (code = 0 ↔ e = .success) ∧
      (h.shell h.host (.firewall task)).result s = (.ended (some code) stdout stderr, t) ∧
      h.sight body t = (.on p wall', c)
  get_set : ∀ c s, h.commanded.get (h.commanded.set c s) = c
  body_set : ∀ c s, body (h.commanded.set c s) = body s

namespace Controls

/-! ### Commands -/

theorem result_setDeadline (h : Handle σ) (span : Nat) (s : σ) :
    (h.setDeadline span).result s = (Deadline.set (h.clock s) span, s) := rfl

theorem leads_setDeadline {span : Nat} (feasible : Deadline.Feasible h.clock span) (x : Body × Commanded) :
    (h.setDeadline span).Leads (h.sight body) x x := by
  intro s hs
  refine ⟨(), s, ?_, trivial, hs⟩
  rw [result_setDeadline, Deadline.set_of_shown (feasible s)]

theorem leads_record (controls : h.Controls body knows) (f : Commanded → Commanded) (b : Body)
    (c : Commanded) : (h.record f).Leads (h.sight body) (b, c) (b, f c) :=
  leads_change controls.get_set controls.body_set f b c

theorem leads_recorded (controls : h.Controls body knows) (f : Commanded → Commanded)
    (message : String) (fields : List (String × FieldText)) (b : Body) (c : Commanded) :
    (h.record f >>= fun _ => h.report message fields).Leads (h.sight body) (b, c) (b, f c) :=
  (controls.leads_record f b c).bind fun _ => leads_log _ _

theorem yields_present (h : Handle σ) (body : σ → Body) (b : Body) (c : Commanded) :
    h.present.Yields (h.sight body) (b, c) (· = c) (b, c) :=
  yields_read Prod.snd (fun _ => rfl) (b, c)

theorem leads_run (obeys : h.Obeys body cmd b b') (operation : String) (c : Commanded) :
    (h.run operation cmd).Leads (h.sight body) (b, c) (b', c) := by
  intro s hs
  obtain ⟨stdout, stderr, t, ended, after⟩ := obeys c s hs
  obtain ⟨f, result⟩ := result_run ended operation
  exact ⟨(), t, result, trivial, after⟩

theorem yields_isRunning (controls : h.Controls body knows) (operation : String) (p : Process)
    (wall : Wall) (c : Commanded) :
    (h.isRunning operation).Yields (h.sight body) (.on p wall, c) (· = decide (p ≠ .absent))
      (.on p wall, c) := by
  intro s hs
  by_cases there : p = .absent
  · subst there
    obtain ⟨code, stdout, stderr, t, ill, reached, ended, after⟩ := controls.misses wall c s hs
    refine ⟨false, t, ?_, rfl, after⟩
    simp only [isRunning, Attempt.result_bind, Attempt.result_mapError,
      Shell.result_run_reached ended reached, Outcome.success, ill, decide_false, Attempt.result_pure]
  · obtain ⟨stdout, stderr, t, ended, after⟩ := controls.finds p wall there c s hs
    refine ⟨true, t, ?_, (decide_eq_true there).symm, after⟩
    simp only [isRunning, Attempt.result_bind, Attempt.result_mapError,
      Shell.result_run_reached ended (by decide), Outcome.success, decide_true, Attempt.result_pure]

theorem leads_awaitShell (controls : h.Controls body knows) (operation : String) (now left : Nat)
    (p : Process) (wall : Wall) (c : Commanded) :
    (h.awaitShell operation now (left + 1)).Leads (h.sight body) (.on p wall, c) (.on p wall, c) := by
  intro s hs
  obtain ⟨stdout, stderr, t, ended, after⟩ := controls.probes p wall c s hs
  have reachable : (h.shell.isReachable h.host).result s = (true, t) := by
    have ran : (h.shell.run h.host .probe).toCall.result s = (.ok ⟨stdout, stderr, 0⟩, t) :=
      Shell.result_run_reached ended (by decide)
    rw [Shell.isReachable, Call.bind_eq, Call.result_bind, ran]
    rfl
  refine ⟨(), t, ?_, trivial, after⟩
  simp only [awaitShell, Attempt.result_bind, Attempt.result_lift, Call.result_timed, reachable, if_true,
    Attempt.result_pure]

theorem leads_ensurePower_on (controls : h.Controls body knows)
    (boots : Deadline.Feasible h.clock h.bootTimeout) (operation : String) (p : Process) (wall : Wall)
    (c : Commanded) : (h.ensurePower operation).Leads (h.sight body) (.on p wall, c) (.on p wall, c) := by
  refine Yields.bind ((controls.serves.yields_powerState (.on p wall) c).mapError _) ?_
  rintro _ rfl
  refine Leads.bind (leads_setDeadline boots _) fun _ => ?_
  exact controls.leads_awaitShell operation 0 _ p wall c

theorem leads_ensurePower_off (controls : h.Controls body knows)
    (boots : Deadline.Feasible h.clock h.bootTimeout) (operation : String) (c : Commanded) :
    (h.ensurePower operation).Leads (h.sight body) (.off, c) (.booted, c.clearPeers) := by
  refine Yields.bind ((controls.serves.yields_powerState .off c).mapError _) ?_
  rintro _ rfl
  refine Leads.bind ((controls.serves.leads_powerOn c).mapError _) fun _ => ?_
  refine Leads.bind (controls.leads_record Commanded.clearPeers .booted c) fun _ => ?_
  refine Leads.bind (leads_setDeadline boots _) fun _ => ?_
  exact controls.leads_awaitShell operation 0 _ .absent .bare c.clearPeers

theorem calm_peerBlocker (controls : h.Controls body knows) (p : Process) :
    h.peerBlocker.Calm (h.sight body) fun wall c => (.on p wall, c) where
  carries task wall c plain s hs := by
    obtain ⟨e, code, stdout, stderr, wall', t, ran, same, ended, ht⟩ :=
      controls.filters task p wall c s plain hs
    obtain ⟨rfl, rfl⟩ := Task.runs_calm_iff.mp ran
    obtain ⟨f, result⟩ := result_run ended task.change.operation.name
    rw [if_pos (same.mpr rfl)] at result
    exact ⟨(), t, result, trivial, ht⟩
  reads s wall c hs := congrArg Prod.snd hs
  notes f wall c := controls.leads_record f (.on p wall) c

theorem leads_woken (controls : h.Controls body knows) (there : p ≠ .absent) (operation : String)
    (wall : Wall) (c : Commanded) :
    (h.run operation (h.signal .cont)).Leads (h.sight body) (.on p wall, c) (.on .running wall, c) := by
  have woken := leads_run (controls.wakes p wall) operation c
  rwa [Process.awake_of_ne_absent there] at woken

/-! ### Starting -/

/-- A process that is not there is started, and any other one is taken as it is. -/
theorem leads_ensureProcess (controls : h.Controls body knows) (p : Process) (wall : Wall) (c : Commanded) :
    h.ensureProcess.Leads (h.sight body) (.on p wall, c) (.on p.started wall, c.setStatus .running) := by
  refine (controls.yields_isRunning "start" p wall c).bind ?_
  rintro _ rfl
  cases p with
  | absent =>
    refine Leads.bind (leads_run (controls.starts wall) "start" _) fun _ => ?_
    exact controls.leads_recorded _ _ _ _ _
  | running | frozen => exact controls.leads_recorded _ _ _ _ _

theorem leads_rouse (controls : h.Controls body knows) (p : Process) (wall : Wall) (c : Commanded) :
    h.rouse.Leads (h.sight body) (.on p wall, c)
      (.on (if c.status = .paused then p.awake else p).started wall, c.setStatus .running) := by
  refine (yields_present h body (.on p wall) c).bind ?_
  rintro _ rfl
  split
  · exact Leads.bind (leads_run (controls.wakes p wall) "start" _) fun _ =>
      controls.leads_ensureProcess p.awake wall _
  · exact controls.leads_ensureProcess p wall _

theorem leads_start_on (controls : h.Controls body knows) (p : Process) (wall : Wall)
    (lit : c.status ≠ .poweredOff) : h.start.Leads (h.sight body) (.on p wall, c)
      (.on (if c.status = .paused then p.awake else p).started wall, c.setStatus .running) := by
  rw [start_eq]
  refine (yields_present h body (.on p wall) c).bind ?_
  rintro _ rfl
  rw [if_neg lit]
  exact controls.leads_rouse p wall _

theorem leads_awaitEnd (controls : h.Controls body knows) (grace now left : Nat) (wall : Wall)
    (c : Commanded) :
    (h.awaitEnd grace now (left + 1)).Leads (h.sight body) (.on .absent wall, c)
      (.on .absent wall, c) := by
  intro s hs
  obtain ⟨running, t, looked, rfl, ht⟩ := controls.yields_isRunning "stop" .absent wall c s hs
  have looked : (h.isRunning "stop").toCall.result s = (.ok false, t) := looked
  refine ⟨(), t, ?_, trivial, ht⟩
  simp only [awaitEnd, Attempt.result_bind, Attempt.result_lift, Call.result_timed, looked,
    Attempt.result_give, Bool.false_eq_true, if_false, Attempt.result_pure]

theorem leads_stop (controls : h.Controls body knows) {grace : Nat}
    (feasible : Deadline.Feasible h.clock grace) (there : p ≠ .absent) (wall : Wall) (c : Commanded) :
    (h.stop grace).Leads (h.sight body) (.on p wall, c) (.on .absent wall, c.setStatus .stopped) := by
  refine (controls.yields_isRunning "stop" p wall c).bind ?_
  rw [decide_eq_true there]
  rintro _ rfl
  refine Leads.bind (controls.leads_woken there "stop" wall c) fun _ => ?_
  refine Leads.bind (leads_run (controls.stops wall) "stop" c) fun _ => ?_
  refine Leads.bind (leads_setDeadline feasible _) fun _ => ?_
  refine Leads.bind (controls.leads_awaitEnd grace 0 _ wall c) fun _ => ?_
  exact controls.leads_recorded _ _ _ _ _

theorem leads_kill (controls : h.Controls body knows) (p : Process) (wall : Wall) (c : Commanded) :
    h.kill.Leads (h.sight body) (.on p wall, c) (.on .absent wall, c.setStatus .killed) := by
  refine (controls.yields_isRunning "kill" p wall c).bind ?_
  rintro _ rfl
  by_cases there : p = .absent
  · subst there
    exact controls.leads_recorded _ _ _ _ _
  · rw [decide_eq_true there]
    refine Leads.bind (controls.leads_woken there "kill" wall c) fun _ => ?_
    refine Leads.bind (leads_run (controls.kills wall) "kill" c) fun _ => ?_
    exact controls.leads_recorded _ _ _ _ _

theorem leads_pause (controls : h.Controls body knows) (wall : Wall) (thawed : c.status ≠ .paused) :
    h.pause.Leads (h.sight body) (.on .running wall, c) (.on .frozen wall, c.setStatus .paused) := by
  refine (yields_present h body (.on .running wall) c).bind ?_
  rintro _ rfl
  rw [if_neg thawed]
  refine (controls.yields_isRunning "pause" .running wall _).bind ?_
  rintro _ rfl
  refine Leads.bind (leads_run (controls.freezes wall) "pause" _) fun _ => ?_
  exact controls.leads_recorded _ _ _ _ _

theorem leads_resume (controls : h.Controls body knows) (p : Process) (wall : Wall) (c : Commanded) :
    h.resume.Leads (h.sight body) (.on p wall, c)
      (.on p.awake wall, if c.status = .paused then c.setStatus .running else c) := by
  refine Leads.bind (leads_run (controls.wakes p wall) "resume" c) fun _ => ?_
  refine (yields_present h body (.on p.awake wall) c).bind ?_
  rintro _ rfl
  split
  · exact controls.leads_recorded _ _ _ _ _
  · exact yields_pure _ trivial _

end Controls

end Handle

end Machine

end FaultLab
