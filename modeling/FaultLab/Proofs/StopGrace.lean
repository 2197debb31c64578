import Mathlib.Order.Bounds.Basic
import FaultLab.Proofs.Aging
import FaultLab.Proofs.PeerBlocking

/-! # The grace of a process

A `WatchedProcess` is a process that is watched, with all that its machine was told so far, and when.  It
heeds a wish to end unless it is frozen, and is gone some time after it has heard of it, or never.
`Handle.Attends` is a shell that passes commands on to it at once, while the time between them goes by
(`Call.aging`).

The wait for a process looks at it in every `stopPeriod`, up to the first look at which it is gone or the grace
is over (`Handle.brings_awaitEnd`).  Which look this is depends on the length of the grace and on the time that
the process takes (`lastLook`).  The deadline of the grace is set after the process was asked to end; where the
clock will not show it, the program ends there (`Handle.brings_stop_unshown`). -/

namespace FaultLab.Machine

open Attempt

/-! ### The looks at a process -/

theorem stopPeriod_pos : 0 < stopPeriod := by decide

/-- The number of the first look that comes no earlier than a given time. -/
def turns (d : Nat) : Nat := (d + stopPeriod - 1) / stopPeriod

theorem turns_le_iff {d k : Nat} : turns d ≤ k ↔ d ≤ k * stopPeriod := by
  unfold turns stopPeriod Span.ofMillis
  omega

theorem isLeast_turns (d : Nat) : IsLeast {m | stopPeriod ∣ m ∧ d ≤ m} (turns d * stopPeriod) := by
  refine ⟨⟨Nat.dvd_mul_left .., turns_le_iff.mp (Nat.le_refl _)⟩, ?_⟩
  rintro m ⟨⟨k, rfl⟩, late⟩
  rw [Nat.mul_comm stopPeriod] at late ⊢
  exact Nat.mul_le_mul_right _ (turns_le_iff.mpr late)

/-- The number of the look that ends a wait, for a process that takes some time or never ends. -/
def lastLook (ends : Option Nat) (grace : Nat) : Nat :=
  match ends with
  | none => turns grace
  | some e => min (turns e) (turns grace)

theorem lastLook_le_iff {ends : Option Nat} {grace k : Nat} :
    lastLook ends grace ≤ k ↔ (∃ e, ends = some e ∧ e ≤ k * stopPeriod) ∨ grace ≤ k * stopPeriod := by
  cases ends with
  | none => simp [lastLook, turns_le_iff]
  | some e => simp [lastLook, turns_le_iff]

theorem lastLook_le_turns (ends : Option Nat) (grace : Nat) : lastLook ends grace ≤ turns grace :=
  lastLook_le_iff.mpr (.inr (turns_le_iff.mp (Nat.le_refl _)))

theorem lastLook_of_early {e grace : Nat} (early : e ≤ turns grace * stopPeriod) :
    lastLook (some e) grace = turns e := Nat.min_eq_left (turns_le_iff.mpr early)

/-- Who does not end in time has all of the grace. -/
theorem lastLook_of_late {ends : Option Nat} {grace : Nat}
    (late : ∀ e, ends = some e → turns grace * stopPeriod < e) : lastLook ends grace = turns grace := by
  refine Nat.le_antisymm (lastLook_le_turns ends grace) ?_
  by_contra short
  rcases lastLook_le_iff.mp (Nat.le_refl (lastLook ends grace)) with ⟨e, he, gone⟩ | spent
  · have before := late e he
    have fewer := Nat.mul_le_mul_right stopPeriod (lastLook_le_turns ends grace)
    omega
  · exact short (turns_le_iff.mpr spent)

/-! ### A process that is watched -/

/-- The time, a process, and what its machine was told. -/
structure WatchedProcess where
  now : Nat
  frozen : Bool
  /-- When the process is gone, if ever. -/
  gone : Option Nat
  told : List (Nat × Command)

namespace WatchedProcess

/-- Whether the process is there. -/
def present (w : WatchedProcess) : Bool :=
  match w.gone with
  | none => true
  | some e => w.now < e

/-- Some time passes. -/
def pass (d : Nat) (w : WatchedProcess) : WatchedProcess := { w with now := w.now + d }

/-- What a command does to the process: asked to end, it is gone after a time of its own, or never. -/
def heed (ends : Option Nat) (cmd : Command) (w : WatchedProcess) : WatchedProcess :=
  match cmd with
  | .start _ => if w.present then w else { w with frozen := false, gone := none }
  | .stop _ => if w.present && !w.frozen then { w with gone := ends.map (w.now + ·) } else w
  | .kill _ => { w with gone := some w.now }
  | .signal _ .stop _ => { w with frozen := true }
  | .signal _ .cont _ => { w with frozen := false }
  | .probe | .status _ | .firewall _ | .other _ => w

/-- The machine is told a command. -/
def hear (ends : Option Nat) (cmd : Command) (w : WatchedProcess) : WatchedProcess :=
  { w.heed ends cmd with told := w.told ++ [(w.now, cmd)] }

theorem hear_status (ends : Option Nat) (text : String) (w : WatchedProcess) : w.hear ends (.status text) =
    ⟨w.now, w.frozen, w.gone, w.told ++ [(w.now, .status text)]⟩ := rfl

theorem hear_cont (ends : Option Nat) (elevated : Bool) (pattern : String) (w : WatchedProcess) :
    w.hear ends (.signal elevated .cont pattern) =
      ⟨w.now, false, w.gone, w.told ++ [(w.now, .signal elevated .cont pattern)]⟩ := rfl

theorem hear_stop {w : WatchedProcess} (there : w.present = true) (awake : w.frozen = false) (ends : Option Nat)
    (text : String) : w.hear ends (.stop text) =
      ⟨w.now, false, ends.map (w.now + ·), w.told ++ [(w.now, .stop text)]⟩ := by
  unfold hear heed
  simp [there, awake]

theorem hear_kill (ends : Option Nat) (text : String) (w : WatchedProcess) : w.hear ends (.kill text) =
    ⟨w.now, w.frozen, some w.now, w.told ++ [(w.now, .kill text)]⟩ := rfl

end WatchedProcess

theorem Shell.instant_run {σ : Type} {shell : Shell σ} {host : Host} {cmd : Command}
    (instant : (shell host cmd).Instant) : (shell.run host cmd).Instant :=
  .bind (.lift trivial) fun _ => .bind (.lift instant) fun _ => .give _

namespace Handle
variable {σ : Type} {h : Handle σ} {age : Nat → σ → σ} {watch : σ → WatchedProcess} {ends : Option Nat}

/-- What there is to see of a process and of what its handle has commanded. -/
def scene (h : Handle σ) (watch : σ → WatchedProcess) (s : σ) : WatchedProcess × Commanded :=
  (watch s, h.commanded.get s)

/-- The shell passes everything on at once, with success, and looks show whether the process is there. -/
structure Attends (h : Handle σ) (age : Nat → σ → σ) (watch : σ → WatchedProcess)
    (ends : Option Nat) : Prop where
  instant : ∀ cmd, (h.shell h.host cmd).Instant
  looks : ∀ s, ∃ code stdout stderr t, (h.shell h.host (.status h.process.status)).result s =
      (.ended (some code) stdout stderr, t) ∧ code ≠ connectionFailure ∧
    (code = 0 ↔ (watch s).present = true) ∧
    h.scene watch t = ((watch s).hear ends (.status h.process.status), h.commanded.get s)
  obeys : ∀ cmd ∈ [h.signal .cont, .stop h.process.stop, .kill h.process.kill], ∀ s, ∃ stdout stderr t,
    (h.shell h.host cmd).result s = (.ended (some 0) stdout stderr, t) ∧
    h.scene watch t = ((watch s).hear ends cmd, h.commanded.get s)
  tells : ∀ s, h.clock s = (watch s).now
  ages : ∀ d s, h.scene watch (age d s) = ((watch s).pass d, h.commanded.get s)
  sets : ∀ c s, h.scene watch (h.commanded.set c s) = (watch s, c)

namespace Attends

theorem instant_run (attends : h.Attends age watch ends) (operation : String) (cmd : Command) :
    (h.run operation cmd).Instant := by
  refine .bind (.mapError (.bind (Shell.instant_run (attends.instant cmd)) fun o => ?_) _) fun _ => .give _
  split
  · exact .give _
  · exact .give _

theorem instant_isRunning (attends : h.Attends age watch ends) (operation : String) :
    (h.isRunning operation).Instant :=
  .bind (.mapError (Shell.instant_run (attends.instant _)) _) fun _ => .give _

theorem brings_isRunning (attends : h.Attends age watch ends) (operation : String)
    (x : WatchedProcess × Commanded) :
    (h.isRunning operation).Brings age (h.scene watch) x (.ok x.1.present)
      (x.1.hear ends (.status h.process.status), x.2) 0 := by
  refine .of_instant (attends.instant_isRunning operation) ?_
  rintro s rfl
  obtain ⟨code, stdout, stderr, t, ended, reached, found, after⟩ := attends.looks s
  refine ⟨t, ?_, after⟩
  have told : decide (code = 0) = (watch s).present := by
    rw [Bool.eq_iff_iff, decide_eq_true_iff]
    exact found
  rw [isRunning, Attempt.result_bind, Attempt.result_mapError, Shell.result_run_reached ended reached]
  exact Prod.ext (congrArg Except.ok told) rfl

theorem brings_run (attends : h.Attends age watch ends) (operation : String) {cmd : Command}
    (known : cmd ∈ [h.signal .cont, .stop h.process.stop, .kill h.process.kill])
    (x : WatchedProcess × Commanded) :
    (h.run operation cmd).Brings age (h.scene watch) x (.ok ()) (x.1.hear ends cmd, x.2) 0 := by
  refine .of_instant (attends.instant_run operation cmd) ?_
  rintro s rfl
  obtain ⟨stdout, stderr, t, ended, after⟩ := attends.obeys cmd known s
  obtain ⟨f, result⟩ := result_run ended operation
  exact ⟨t, result, after⟩

theorem brings_record (attends : h.Attends age watch ends) (f : Commanded → Commanded)
    (x : WatchedProcess × Commanded) :
    (h.record f).Brings age (h.scene watch) x (.ok ()) (x.1, f x.2) 0 := by
  refine .of_instant (.lift fun s => trivial) ?_
  rintro s rfl
  exact ⟨_, rfl, attends.sets _ s⟩

theorem brings_sleep (attends : h.Attends age watch ends) (d : Nat) (x : WatchedProcess × Commanded) :
    (Attempt.lift (Call.sleep d) : Attempt σ Failure Unit).Brings age (h.scene watch) x (.ok ())
      (x.1.pass d, x.2) d := .sleep (g := fun x => (x.1.pass d, x.2)) (attends.ages d) x

theorem brings_setDeadline (attends : h.Attends age watch ends) (span : Nat) (x : WatchedProcess × Commanded) :
    (h.setDeadline span).Brings age (h.scene watch) x (Deadline.set x.1.now span) x 0 := by
  refine .of_instant (.bind (.lift fun s => trivial) fun _ => .give _) ?_
  rintro s rfl
  refine ⟨s, ?_, rfl⟩
  rw [setDeadline, Attempt.result_bind]
  exact congrArg (fun now => (Deadline.set now span, s)) (attends.tells s)

theorem brings_present (h : Handle σ) (age : Nat → σ → σ) (watch : σ → WatchedProcess)
    (x : WatchedProcess × Commanded) :
    h.present.Brings age (h.scene watch) x (.ok x.2) x 0 := by
  refine .of_instant (.lift fun s => trivial) ?_
  rintro s rfl
  exact ⟨s, rfl, rfl⟩

end Attends

/-! ### The wait -/

/-- The first looks at a process that was asked to end at some time. -/
def looks (h : Handle σ) (start k : Nat) : List (Nat × Command) :=
  (List.range k).map fun i => (start + i * stopPeriod, .status h.process.status)

/-- A process right before the look with a number, when it was asked to end at some time. -/
def waiting (h : Handle σ) (ends : Option Nat) (start : Nat) (told : List (Nat × Command)) (k : Nat) :
    WatchedProcess :=
  ⟨start + k * stopPeriod, false, ends.map (start + ·), told ++ h.looks start k⟩

/-- A process after the look with a number, if that is the last one: what is still there is ended by force. -/
def parted (h : Handle σ) (ends : Option Nat) (start : Nat) (told : List (Nat × Command)) (k : Nat) :
    WatchedProcess :=
  let w := h.waiting ends start told k
  let seen := w.hear ends (.status h.process.status)
  if w.present then seen.hear ends (.kill h.process.kill) else seen

section waiting
variable {start k : Nat} {told : List (Nat × Command)}

theorem looks_succ (h : Handle σ) (start k : Nat) :
    h.looks start (k + 1) = h.looks start k ++ [(start + k * stopPeriod, .status h.process.status)] := by
  simp [looks, List.range_succ]

theorem present_waiting :
    (h.waiting ends start told k).present = true ↔ ∀ e, ends = some e → k * stopPeriod < e := by
  cases ends with
  | none => simp [waiting, WatchedProcess.present]
  | some e => simp [waiting, WatchedProcess.present]

/-- From one look to the next. -/
theorem pass_waiting : ((h.waiting ends start told k).hear ends (.status h.process.status)).pass stopPeriod =
    h.waiting ends start told (k + 1) := by
  unfold WatchedProcess.pass WatchedProcess.hear WatchedProcess.heed waiting
  simp only [looks_succ, List.append_assoc, Nat.succ_mul, Nat.add_assoc]

theorem parted_of_gone (gone : (h.waiting ends start told k).present = false) :
    h.parted ends start told k = (h.waiting ends start told k).hear ends (.status h.process.status) := by
  unfold parted
  simp [gone]

theorem parted_of_present (there : (h.waiting ends start told k).present = true) :
    h.parted ends start told k = ((h.waiting ends start told k).hear ends (.status h.process.status)).hear ends
      (.kill h.process.kill) := by
  unfold parted
  simp [there]

/-- The wait ends with the first look at which the process is gone or the grace is over. -/
theorem Attends.brings_awaitEnd (attends : h.Attends age watch ends) {grace left : Nat} (start : Nat)
    (told : List (Nat × Command)) (c : Commanded)
    (early : k ≤ lastLook ends grace) (enough : lastLook ends grace < k + left) :
    (h.awaitEnd grace (k * stopPeriod) left).Brings age (h.scene watch)
      (h.waiting ends start told k, c) (.ok ()) (h.parted ends start told (lastLook ends grace), c)
      ((lastLook ends grace - k) * stopPeriod) := by
  induction left generalizing k with
  | zero => omega
  | succ left ih =>
    unfold awaitEnd
    have look := attends.brings_isRunning "stop" (h.waiting ends start told k, c)
    refine (Attempt.Brings.timed (attends.instant_isRunning "stop") look).bind_at_once
      ((Attempt.Brings.give _ _).bind_at_once ?_)
    have ended : lastLook ends grace ≤ k ↔ _ := lastLook_le_iff
    cases there : (h.waiting ends start told k).present with
    | false =>
      have gone : ∃ e, ends = some e ∧ e ≤ k * stopPeriod := by
        by_contra stays
        have still : (h.waiting ends start told k).present = true :=
          present_waiting.mpr fun e he => not_le.mp fun late => stays ⟨e, he, late⟩
        rw [there] at still
        cases still
      obtain rfl : k = lastLook ends grace := Nat.le_antisymm early (ended.mpr (.inl gone))
      rw [Nat.sub_self, Nat.zero_mul, parted_of_gone there]
      exact .pure () _
    | true =>
      have stays : ∀ e, ends = some e → k * stopPeriod < e := present_waiting.mp there
      simp only [if_true, Nat.add_zero]
      by_cases spent : grace ≤ k * stopPeriod
      · obtain rfl : k = lastLook ends grace := Nat.le_antisymm early (ended.mpr (.inr spent))
        rw [Nat.sub_self, Nat.zero_mul, parted_of_present there]
        refine .ite_pos spent ((Attempt.Brings.log _ _).bind_at_once ?_)
        exact attends.brings_run "stop" (by simp) _
      · have later : k < lastLook ends grace := by
          by_contra here
          rcases ended.mp (not_lt.mp here) with ⟨e, he, gone⟩ | done
          · exact absurd gone (not_le.mpr (stays e he))
          · exact spent done
        have rest := ih (k := k + 1) later (by omega)
        have slept := attends.brings_sleep stopPeriod
          ((h.waiting ends start told k).hear ends (.status h.process.status), c)
        simp only [pass_waiting] at slept
        have time : (lastLook ends grace - k) * stopPeriod =
            stopPeriod + (lastLook ends grace - (k + 1)) * stopPeriod := by
          have one : lastLook ends grace - k = lastLook ends grace - (k + 1) + 1 := by omega
          rw [one, Nat.succ_mul, Nat.add_comm]
        rw [time, ← Nat.succ_mul]
        exact .ite_neg spent (slept.bind rest)

theorem told_parted_of_gone (gone : (h.waiting ends start told k).present = false) :
    (h.parted ends start told k).told = told ++ h.looks start (k + 1) := by
  rw [parted_of_gone gone, WatchedProcess.hear_status, looks_succ]
  simp [waiting]

theorem told_parted_of_present (there : (h.waiting ends start told k).present = true) :
    (h.parted ends start told k).told =
      told ++ h.looks start (k + 1) ++ [(start + k * stopPeriod, .kill h.process.kill)] := by
  rw [parted_of_present there, WatchedProcess.hear_kill, WatchedProcess.hear_status, looks_succ]
  simp [waiting]

/-- After the last look the process is gone in any case. -/
theorem present_parted : (h.parted ends start told k).present = false := by
  cases there : (h.waiting ends start told k).present with
  | false =>
    rw [parted_of_gone there]
    exact there
  | true =>
    rw [parted_of_present there, WatchedProcess.hear_kill]
    simp [WatchedProcess.present]

end waiting

/-! ### The end of a process -/

/-- What a machine is told before the wait. -/
def requests (h : Handle σ) (start : Nat) : List (Nat × Command) :=
  [(start, .status h.process.status), (start, h.signal .cont), (start, .stop h.process.stop)]

/-- A process that is there is woken before it is asked to end, so it hears of it. -/
theorem hear_requests {w : WatchedProcess} (there : w.present = true) :
    ((w.hear ends (.status h.process.status)).hear ends (h.signal .cont)).hear ends (.stop h.process.stop) =
      h.waiting ends w.now (w.told ++ h.requests w.now) 0 := by
  have woken : ((w.hear ends (.status h.process.status)).hear ends (h.signal .cont)).present = true := there
  rw [WatchedProcess.hear_stop woken rfl]
  simp [WatchedProcess.hear_status, WatchedProcess.hear_cont, waiting, looks, requests, signal]

/-- Before the wait a process is woken and asked to end, and the deadline of its grace is set. -/
theorem Attends.brings_asked (attends : h.Attends age watch ends) {grace d : Nat} {w : WatchedProcess}
    (there : w.present = true) {c : Commanded} {r : Except Failure Unit} {y : WatchedProcess × Commanded}
    (rest : (do
      h.setDeadline grace
      h.awaitEnd grace 0 (grace / stopPeriod + 2)
      h.record (Commanded.setStatus .stopped)
      h.report "stopped" [("grace", .fixed (Span.display grace))]).Brings age (h.scene watch)
        (h.waiting ends w.now (w.told ++ h.requests w.now) 0, c) r y d) :
    (h.stop grace).Brings age (h.scene watch) (w, c) r y d := by
  rw [← hear_requests there] at rest
  unfold stop
  refine (attends.brings_isRunning "stop" _).bind_at_once (.ite_pos there ?_)
  refine (attends.brings_run "stop" (by simp) _).bind_at_once ?_
  exact (attends.brings_run "stop" (by simp) _).bind_at_once rest

/-- Right before the first look it is still the time at which the process was asked to end. -/
theorem Attends.brings_setDeadline_asked (attends : h.Attends age watch ends) (grace start : Nat)
    (told : List (Nat × Command)) (c : Commanded) :
    (h.setDeadline grace).Brings age (h.scene watch) (h.waiting ends start told 0, c)
      (Deadline.set start grace) (h.waiting ends start told 0, c) 0 := by
  have now : (h.waiting ends start told 0).now = start := by simp [waiting]
  have set := attends.brings_setDeadline grace (h.waiting ends start told 0, c)
  rwa [now] at set

theorem Attends.brings_stop (attends : h.Attends age watch ends) {grace : Nat} {w : WatchedProcess}
    (there : w.present = true) (shown : Deadline.Shown w.now grace) (c : Commanded) :
    (h.stop grace).Brings age (h.scene watch) (w, c) (.ok ())
      (h.parted ends w.now (w.told ++ h.requests w.now) (lastLook ends grace), c.setStatus .stopped)
      (lastLook ends grace * stopPeriod) := by
  have enough : lastLook ends grace < 0 + (grace / stopPeriod + 2) := by
    have within := lastLook_le_turns ends grace
    have few : turns grace ≤ grace / stopPeriod + 1 := by
      unfold turns stopPeriod Span.ofMillis
      omega
    omega
  have set := attends.brings_setDeadline_asked grace w.now (w.told ++ h.requests w.now) c
  rw [Deadline.set_of_shown shown] at set
  have wait := attends.brings_awaitEnd w.now (w.told ++ h.requests w.now) c (Nat.zero_le _) enough
  rw [Nat.zero_mul, Nat.sub_zero] at wait
  refine attends.brings_asked there (set.bind_at_once (wait.bind_then_at_once ?_))
  exact (attends.brings_record _ _).bind_at_once (.log _ _)

/-- With a grace whose end the clock will not show, the program ends as soon as the process was asked to end. -/
theorem Attends.brings_stop_unshown (attends : h.Attends age watch ends) {grace : Nat} {w : WatchedProcess}
    (there : w.present = true) (late : ¬ Deadline.Shown w.now grace) (c : Commanded) :
    (h.stop grace).Brings age (h.scene watch) (w, c) (.error (.crashed .deadline))
      (h.waiting ends w.now (w.told ++ h.requests w.now) 0, c) 0 := by
  have set := attends.brings_setDeadline_asked grace w.now (w.told ++ h.requests w.now) c
  rw [Deadline.set_of_not_shown late] at set
  exact attends.brings_asked there (set.bind_error _)

theorem Attends.brings_stop_gone (attends : h.Attends age watch ends) (grace : Nat) {w : WatchedProcess}
    (gone : w.present = false) (c : Commanded) :
    (h.stop grace).Brings age (h.scene watch) (w, c) (.ok ())
      (w.hear ends (.status h.process.status), if c.status = .killed then c else c.setStatus .stopped) 0 := by
  unfold stop
  refine (attends.brings_isRunning "stop" _).bind_at_once (.ite_neg (by simp [gone]) ?_)
  refine (brings_present h age watch _).bind_at_once ?_
  by_cases killed : c.status = .killed
  · rw [if_pos killed]
    exact .ite_neg (not_not_intro killed) (.pure () _)
  · rw [if_neg killed]
    exact .ite_pos killed (attends.brings_record _ _)

/-- **A process is given its grace, and no more**, if the clock will show the end of it.  One that is there is
woken and asked to end at once, be it frozen or not.  It is looked at in every period.  If it is gone by the first
look at which the grace is over, the wait ends with the first look at which it is gone, and nothing else is done;
if it is still there, it is ended by force then, once.  Either way it counts as stopped.  One that was gone before
is looked at and no more, whatever the grace, and keeps its record if it was killed. -/
theorem Attends.stop_keeps_grace (attends : h.Attends age watch ends) (grace : Nat) (s : σ)
    (shown : (watch s).present = true → Deadline.Shown (watch s).now grace) :
    let w := watch s
    let c := h.commanded.get s
    ∃ u took, ((h.stop grace).aging age).toCall.Leaves s (.ok ()) u took ∧
      (w.present = true → h.commanded.get u = c.setStatus .stopped ∧ (h.commanded.get u).status = .stopped ∧
        (watch u).present = false ∧ ∃ t, IsLeast {m | stopPeriod ∣ m ∧ grace ≤ m} t ∧ took ≤ t ∧
          (∀ e, ends = some e → e ≤ t → IsLeast {m | stopPeriod ∣ m ∧ e ≤ m} took ∧
            (watch u).told = w.told ++ h.requests w.now ++ h.looks w.now (took / stopPeriod + 1)) ∧
          ((∀ e, ends = some e → t < e) → took = t ∧ (watch u).told = w.told ++ h.requests w.now ++
            h.looks w.now (t / stopPeriod + 1) ++ [(w.now + t, .kill h.process.kill)])) ∧
      (w.present = false → took = 0 ∧ (watch u).told = w.told ++ [(w.now, .status h.process.status)] ∧
        h.commanded.get u = if c.status = .killed then c else c.setStatus .stopped) := by
  intro w c
  cases there : w.present with
  | false =>
    obtain ⟨u, leaves, after⟩ := attends.brings_stop_gone grace there c s rfl
    obtain ⟨seen, noted⟩ := Prod.mk.inj after
    refine ⟨u, 0, leaves, nofun, fun _ => ⟨rfl, ?_, noted⟩⟩
    rw [seen, WatchedProcess.hear_status]
  | true =>
    obtain ⟨u, leaves, after⟩ := attends.brings_stop there (shown there) c s rfl
    obtain ⟨seen, noted⟩ := Prod.mk.inj after
    refine ⟨u, _, leaves, fun _ => ⟨noted, ?_, ?_, turns grace * stopPeriod, isLeast_turns grace, ?_, ?_, ?_⟩,
      nofun⟩
    · rw [noted]
      rfl
    · rw [seen, present_parted]
    · exact Nat.mul_le_mul_right _ (lastLook_le_turns ends grace)
    · rintro e rfl early
      rw [lastLook_of_early early] at seen ⊢
      have gone : (h.waiting (some e) w.now (w.told ++ h.requests w.now) (turns e)).present = false := by
        by_contra there
        rw [Bool.not_eq_false, present_waiting] at there
        exact absurd (there e rfl) (not_lt.mpr (turns_le_iff.mp (Nat.le_refl _)))
      rw [seen, told_parted_of_gone gone, Nat.mul_div_cancel _ stopPeriod_pos]
      exact ⟨isLeast_turns e, rfl⟩
    · intro late
      rw [lastLook_of_late late] at seen ⊢
      rw [seen, told_parted_of_present (present_waiting.mpr late), Nat.mul_div_cancel _ stopPeriod_pos]
      exact ⟨rfl, rfl⟩

end Handle

/-! ### A process that will not end -/

/-- A process that is watched, and what its handle has commanded. -/
structure WatchedHost where
  process : WatchedProcess
  commanded : Commanded

namespace WatchedHost

/-- What is commanded. -/
def slot : Part WatchedHost Commanded := ⟨commanded, fun c s => { s with commanded := c }⟩

/-- The exit code of a command, where a look at a process that is gone has one of its own. -/
def code (absent : Int) (w : WatchedProcess) : Command → Int
  | .status _ => if w.present then 0 else absent
  | _ => 0

/-- The shell of such a host. -/
def shell (absent : Int) (ends : Option Nat) : Shell WatchedHost := fun _ cmd => Call.atomically fun s =>
  (.ended (some (code absent s.process cmd)) "" "", { s with process := s.process.hear ends cmd })

/-- The handle on the process; nobody needs a hypervisor. -/
def handle (absent : Int) (ends : Option Nat) : Handle WatchedHost where
  id := ⟨"a:9000"⟩
  vm := "m"
  host := ⟨"a", "root", 22, Span.ofSeconds 5⟩
  process := .default
  bootTimeout := Span.ofSeconds 60
  hypervisor := ⟨"h", "u", "p", ⟨fun _ => none, fun _ s => s⟩, fun _ => .done .refused⟩
  shell := shell absent ends
  clock s := s.process.now
  commanded := slot

/-- Some time passes. -/
def age (d : Nat) (s : WatchedHost) : WatchedHost := { s with process := s.process.pass d }

theorem attends_handle {absent : Int} (bad : absent ≠ 0) (reached : absent ≠ connectionFailure)
    (ends : Option Nat) : (handle absent ends).Attends age process ends where
  instant _ _ := trivial
  looks s := by
    refine ⟨if s.process.present then 0 else absent, "", "",
      { s with process := s.process.hear ends (.status (handle absent ends).process.status) }, rfl, ?_, ?_, rfl⟩
    · cases s.process.present with
      | false => exact reached
      | true => exact (by decide : (0 : Int) ≠ connectionFailure)
    · cases s.process.present with
      | false => simp [bad]
      | true => simp
  obeys cmd known s := by
    refine ⟨"", "", { s with process := s.process.hear ends cmd }, ?_, rfl⟩
    simp only [List.mem_cons, List.not_mem_nil, or_false] at known
    rcases known with rfl | rfl | rfl <;> rfl
  tells _ := rfl
  ages _ _ := rfl
  sets _ _ := rfl

/-- A frozen process that never ends is given seven tenths of a second, and is ended by force after a second. -/
theorem stop_keeps_grace_frozen :
    let h := handle 3 none
    ∃ u, ((h.stop (Span.ofMillis 700)).aging age).toCall.Leaves ⟨⟨0, true, none, []⟩, .ofStatus .paused⟩
        (.ok ()) u (Span.ofSeconds 1) ∧ u.commanded.status = .stopped ∧
      u.process.told = [(0, .status h.process.status), (0, .signal false .cont h.process.pattern),
        (0, .stop h.process.stop), (0, .status h.process.status),
        (Span.ofMillis 500, .status h.process.status), (Span.ofSeconds 1, .status h.process.status),
        (Span.ofSeconds 1, .kill h.process.kill)] := by
  have attends := attends_handle (by decide : (3 : Int) ≠ 0) (by decide) none
  obtain ⟨u, took, leaves, there, -⟩ := attends.stop_keeps_grace (Span.ofMillis 700)
    ⟨⟨0, true, none, []⟩, .ofStatus .paused⟩ fun _ => by decide
  obtain ⟨-, stopped, -, t, first, -, -, late⟩ := there rfl
  obtain rfl : t = Span.ofSeconds 1 := first.unique (isLeast_turns (Span.ofMillis 700))
  obtain ⟨rfl, told⟩ := late nofun
  exact ⟨u, leaves, stopped, told⟩

/-- Two processes that end as soon as they are asked to, and do not count as stopped after that: one is given a
grace whose end no clock shows, and looks at the other one exit with the code of a connection that was lost. -/
theorem stop_loses_process :
    (∃ u, (((handle 3 (some 0)).stop Span.horizon).aging age).toCall.Leaves
        ⟨⟨0, false, none, []⟩, .ofStatus .running⟩ (.error (.crashed .deadline)) u 0 ∧
      u.process.told = (handle 3 (some 0)).requests 0 ∧ u.process.present = false ∧
      u.commanded.status = .running) ∧
    ∃ e u, (((handle connectionFailure (some 0)).stop (Span.ofSeconds 1)).aging age).toCall.Leaves
        ⟨⟨0, false, none, []⟩, .ofStatus .running⟩ (.error e) u 0 ∧
      u.process.present = false ∧ u.commanded.status = .running := by
  constructor
  · have attends := attends_handle (by decide : (3 : Int) ≠ 0) (by decide) (some 0)
    obtain ⟨u, leaves, after⟩ := attends.brings_stop_unshown (w := ⟨0, false, none, []⟩) rfl
      (by decide : ¬ Deadline.Shown 0 Span.horizon) (.ofStatus .running) ⟨_, _⟩ rfl
    obtain ⟨seen, noted⟩ := Prod.mk.inj after
    have noted : u.commanded = .ofStatus .running := noted
    have seen : u.process = _ := seen
    exact ⟨u, leaves, by rw [seen]; rfl, by rw [seen]; rfl, by rw [noted]; rfl⟩
  · exact ⟨_, _, ⟨rfl, rfl⟩, rfl, rfl⟩

end WatchedHost

end FaultLab.Machine
