import FaultLab.Proofs.Batches
import FaultLab.Proofs.Repetitions

/-! # Calls that are cut off

A call that is cut off at its deadline has done what it could do until then.

* `Call.leaves_limit_bind` follows a sequence to its deadline: what ends in time is done, and the rest
  has what is left of the time.  `Call.Leaves.limit` is the case of a call that ends in time.
* An operation on a simulated member waits before it does anything, so it is done in one piece or not at
  all (`Handle.leaves_perform`, `Handle.leaves_limit_perform`).  A restart is two of them, and can
  be cut off in between.
* `Post.Ends` are the ways in which a call of a batch can come to its end, and `Fleet.batch_cut_off`
  finds them in a batch. -/

namespace FaultLab

namespace Call
variable {σ τ α β : Type} {c : Call σ α} {s t u : σ} {a : α} {d e n : Nat}

/-! ### Sequences and their deadlines -/

/-- A sequence whose first call ends in time goes on with the time that is left. -/
theorem leaves_limit_bind {f : α → Call σ β} {b : Option β} (first : c.Leaves s a t d) (early : d ≤ n)
    (next : (limit (n - d) (f a)).Leaves t b u e) : (limit n (bind c f)).Leaves s b u (d + e) := by
  obtain ⟨result, elapsed⟩ := first
  induction c generalizing s n d with
  | done a' =>
    cases result
    have none : d = 0 := elapsed.symm
    subst none
    rw [Nat.zero_add]
    exact next
  | pause d' rest ih =>
    rw [elapsed_pause] at elapsed
    have soon : d' ≤ n := by omega
    have later : n - d = n - d' - rest.elapsed s := by omega
    rw [later] at next
    obtain ⟨result', elapsed'⟩ := ih (by omega) next result rfl
    rw [bind, limit, if_pos soon]
    refine ⟨result', ?_⟩
    rw [elapsed_pause, elapsed']
    omega
  | note _ rest ih =>
    obtain ⟨result', elapsed'⟩ := ih early next result elapsed
    exact ⟨result', elapsed'⟩
  | step act rest ih =>
    obtain ⟨result', elapsed'⟩ := ih s early next result elapsed
    exact ⟨result', elapsed'⟩

theorem Leaves.limit_bind {f : α → Call σ β} (first : (c.limit n).Leaves s none t e) :
    (Call.limit n (bind c f)).Leaves s none t e := by
  obtain ⟨result, elapsed⟩ := first
  induction c generalizing s n e with
  | done a => cases result
  | pause d rest ih =>
    rw [Call.limit] at result elapsed
    rw [bind, Call.limit]
    split at result
    · rename_i soon
      rw [if_pos soon] at elapsed ⊢
      obtain ⟨result', elapsed'⟩ := ih result rfl
      refine ⟨result', ?_⟩
      rw [elapsed_pause, elapsed', ← elapsed, elapsed_pause]
    · rename_i late
      rw [if_neg late] at elapsed ⊢
      cases result
      exact ⟨rfl, elapsed⟩
  | note _ rest ih =>
    obtain ⟨result', elapsed'⟩ := ih result elapsed
    exact ⟨result', elapsed'⟩
  | step act rest ih =>
    obtain ⟨result', elapsed'⟩ := ih s result elapsed
    exact ⟨result', elapsed'⟩

/-- A call that ends in time does not notice its deadline. -/
theorem Leaves.limit (h : c.Leaves s a t d) (early : d ≤ n) : (c.limit n).Leaves s (some a) t d := by
  have ended := leaves_limit_bind (f := done) h early ⟨rfl, rfl⟩
  rw [bind_done] at ended
  exact ended

theorem leaves_limit_pause (late : n < d) (rest : Call σ α) :
    (limit n (pause d rest)).Leaves s none s n := by
  rw [limit, if_neg (Nat.not_le.mpr late)]
  exact ⟨rfl, rfl⟩

theorem limit_focus (p : Part σ τ) (c : Call τ α) (n : Nat) :
    limit n (focus p c) = focus p (limit n c) := by
  induction c generalizing n with
  | done a => rfl
  | pause d rest ih =>
    rw [focus, limit, limit]
    split
    · rw [ih, focus]
    · rfl
  | note _ rest ih => simp only [focus, limit, ih]
  | step act rest ih => simp only [focus, limit, ih]

theorem Leaves.focus {p : Part σ τ} {good : σ → Prop} (lawful : p.LawfulOn good) {c : Call τ α} {v : τ}
    (hs : good s) (h : c.Leaves (p.get s) a v d) : (c.focus p).Leaves s a (p.set v s) d := by
  obtain ⟨result, elapsed⟩ := h
  refine ⟨?_, ?_⟩
  · rw [result_focus lawful c hs, result]
  · rw [elapsed_focus lawful c hs, elapsed]

end Call

namespace Fault

/-- Whether a fault takes control over the power. -/
def ofPower : Fault → Bool
  | powerOff | powerOn | reboot => true
  | _ => false

/-- How many operations of a handle a fault is. -/
def steps : Fault → Nat
  | restart => 2
  | _ => 1

theorem steps_eq_one {f : Fault} (single : f ≠ restart) : f.steps = 1 := by
  cases f with
  | restart => exact absurd rfl single
  | _ => rfl

end Fault

namespace Simulation

open Fabric (Edit)

namespace Handle
variable {h : Handle} {f : Fault} {s : Seat} {n : Nat}

/-! ### Operations and their deadlines -/

theorem leaves_perform {α : Type} (h : Handle) (op : Operation) (act : Seat → Except Failure α × Seat)
    (s : Seat) : (h.perform op act).toCall.Leaves s (h.guarded op act s).1 (h.guarded op act s).2
      (s.fabric.latencyOf h.id) :=
  ⟨h.result_perform op act s, h.elapsed_perform op act s⟩

/-- An operation that does not end in time has done nothing. -/
theorem leaves_limit_perform {α : Type} (op : Operation) (act : Seat → Except Failure α × Seat)
    (late : n < s.fabric.latencyOf h.id) :
    (Call.limit n (h.perform op act).toCall).Leaves s none s n := by
  have some : s.fabric.latencyOf h.id ≠ 0 := Nat.ne_of_gt (Nat.zero_lt_of_lt late)
  have waits : (Call.bind (Call.sleepIfAny (s.fabric.latencyOf h.id)) fun _ =>
      Call.atomically (h.guarded op act)) =
        .pause (s.fabric.latencyOf h.id) (Call.atomically (h.guarded op act)) := by
    rw [Call.sleepIfAny, if_neg some]
    rfl
  rw [toCall_perform]
  refine ⟨?_, ?_⟩
  · change (Call.limit n (Call.bind (Call.sleepIfAny (s.fabric.latencyOf h.id)) _)).result s = _
    rw [waits, (Call.leaves_limit_pause late _).result]
  · change (Call.limit n (Call.bind (Call.sleepIfAny (s.fabric.latencyOf h.id)) _)).elapsed s = _
    rw [waits, (Call.leaves_limit_pause late _).elapsed]

theorem latency_stopped (h : Handle) (s : Seat) (e : Endpoint) :
    (h.stopped s).fabric.latencyOf e = s.fabric.latencyOf e := by
  obtain ⟨k, edit, edited⟩ := (Local.stopped (h := h)).edits s
  rw [edited]
  have frame := congrArg (fun f : Fabric => f.latencyOf e) (edit.frame s.fabric)
  exact frame

theorem apply_eq_perform (single : f ≠ .restart) (able : f.ofPower = true → h.flavor = .machine)
    (grace : Nat) : ∃ op act, f.apply grace h.node = h.perform op act := by
  cases f with
  | start => exact ⟨.start, _, rfl⟩
  | stop => exact ⟨.stop, _, rfl⟩
  | kill => exact ⟨.kill, _, rfl⟩
  | pause => exact ⟨.pause, _, rfl⟩
  | resume => exact ⟨.resume, _, rfl⟩
  | restart => exact absurd rfl single
  | powerOff =>
    rw [Fault.apply, requirePower_eq_ok (able rfl)]
    exact ⟨.powerOff, _, rfl⟩
  | powerOn =>
    rw [Fault.apply, requirePower_eq_ok (able rfl)]
    exact ⟨.powerOn, _, rfl⟩
  | reboot =>
    rw [Fault.apply, requirePower_eq_ok (able rfl)]
    exact ⟨.reboot, _, rfl⟩

theorem apply_eq_unsupported (power : f.ofPower = true) (container : h.flavor ≠ .machine) (grace : Nat) :
    f.apply grace h.node = Attempt.give (.error (.unsupported h.id "power control")) := by
  cases f with
  | start | stop | kill | pause | resume | restart => cases power
  | powerOff | powerOn | reboot =>
    rw [Fault.apply, requirePower_eq_error container]
    rfl

/-! ### Restarts and their deadlines -/

section restart
variable (calm : (h.id, Operation.stop) ∉ s.fabric.failNext)
include calm

theorem leaves_stop : h.stop.toCall.Leaves s (.ok ()) (h.stopped s) (s.fabric.latencyOf h.id) := by
  have stops := h.leaves_perform .stop (fun s => (.ok (), h.stopped s)) s
  rw [guarded_of_calm calm] at stops
  exact stops

theorem elapsed_restart : h.node.restart.toCall.elapsed s = 2 * s.fabric.latencyOf h.id := by
  have ended := h.leaves_stop calm
  have begun := h.elapsed_perform .start (fun s => (.ok (), h.started s)) (h.stopped s)
  rw [latency_stopped] at begun
  change Call.elapsed (Call.bind h.stop.toCall (ExceptT.bindCont fun _ => h.start)) s = _
  rw [Call.elapsed_bind, ended.result, ended.elapsed, Nat.two_mul]
  exact congrArg (s.fabric.latencyOf h.id + ·) begun

/-- A restart that is cut off in between has stopped the member. -/
theorem leaves_limit_restart (first : s.fabric.latencyOf h.id ≤ n)
    (late : n < 2 * s.fabric.latencyOf h.id) :
    (Call.limit n h.node.restart.toCall).Leaves s none (h.stopped s) n := by
  have left : n - s.fabric.latencyOf h.id < (h.stopped s).fabric.latencyOf h.id := by
    rw [latency_stopped]
    omega
  have begun := leaves_limit_perform .start (fun s => (.ok (), h.started s)) left
  have ended := Call.leaves_limit_bind (f := ExceptT.bindCont fun _ => h.start) (h.leaves_stop calm)
    first begun
  rw [Nat.add_sub_cancel' first] at ended
  exact ended

end restart

theorem leaves_limit_restart_early (late : n < s.fabric.latencyOf h.id) :
    (Call.limit n h.node.restart.toCall).Leaves s none s n :=
  (leaves_limit_perform .stop (fun s => (.ok (), h.stopped s)) late).limit_bind

/-- A fault that a handle is able to do takes one latency for each of its operations. -/
theorem elapsed_apply (able : f.ofPower = true → h.flavor = .machine)
    (calm : f = .restart → (h.id, Operation.stop) ∉ s.fabric.failNext) (grace : Nat) :
    (f.apply grace h.node).toCall.elapsed s = f.steps * s.fabric.latencyOf h.id := by
  by_cases restart : f = .restart
  · subst restart
    exact elapsed_restart (calm rfl)
  · obtain ⟨op, act, made⟩ := apply_eq_perform restart able grace
    rw [made, elapsed_perform, Fault.steps_eq_one restart, Nat.one_mul]

theorem leaves_limit_apply (able : f.ofPower = true → h.flavor = .machine) (grace : Nat)
    (late : n < s.fabric.latencyOf h.id) :
    (Call.limit n (f.apply grace h.node).toCall).Leaves s none s n := by
  by_cases restart : f = .restart
  · subst restart
    exact leaves_limit_restart_early late
  · obtain ⟨op, act, made⟩ := apply_eq_perform restart able grace
    rw [made]
    exact leaves_limit_perform op act late

end Handle

/-! ### Calls of a batch -/

namespace Post
variable {p : Post} {inj : Injector Lab} {f : Fault} {lab : Lab}

/-- The ways in which a call of a batch for a member can come to its end, each with its answer, the lab
that it leaves and the time that it takes. -/
inductive Ends (p : Post) (inj : Injector Lab) (f : Fault) (lab : Lab) :
    Except Failure Unit → Lab → Nat → Prop
  /-- A container gives no control over its power. -/
  | unable (power : f.ofPower = true) (container : p.handle.flavor = .container) :
    Ends p inj f lab (.error (.unsupported p.id "power control")) lab 0
  /-- What fits into the time is done as if there were no deadline. -/
  | done {result : Except Failure Unit} {lab' : Lab}
      (able : f.ofPower = true → p.handle.flavor = .machine)
      (early : f.steps * lab.fabric.latencyOf p.id ≤ inj.callTimeout)
      (made : (f.apply inj.stopGrace p.node).result lab = (result, lab')) :
    Ends p inj f lab result lab' (f.steps * lab.fabric.latencyOf p.id)
  /-- A restart has come as far as stopping the member. -/
  | halfway {lab' : Lab} (restart : f = .restart)
      (early : lab.fabric.latencyOf p.id ≤ inj.callTimeout)
      (late : inj.callTimeout < 2 * lab.fabric.latencyOf p.id)
      (stopped : (p.node.stop inj.stopGrace).result lab = (.ok (), lab')) :
    Ends p inj f lab (.error (.ofNode p.id f.name (.noResponse inj.callTimeout))) lab' inj.callTimeout
  /-- Nothing has been done. -/
  | late (able : f.ofPower = true → p.handle.flavor = .machine)
      (late : inj.callTimeout < lab.fabric.latencyOf p.id) :
    Ends p inj f lab (.error (.ofNode p.id f.name (.noResponse inj.callTimeout))) lab inj.callTimeout

theorem apply_focus (p : Post) (f : Fault) (grace : Nat) :
    f.apply grace p.node = (f.apply grace p.handle.node).focus p.seat := by
  rw [f.apply_eq_tell, f.apply_eq_tell]
  exact Command.tell_focus p.seat p.handle.node (f.command grace)

theorem leaves_single {answer : Option (Except Failure Unit)} {s : Seat} {d : Nat}
    (there : p.number < lab.handles.length)
    (made : (Call.limit inj.callTimeout (f.apply inj.stopGrace p.handle.node).toCall).Leaves
      (p.seat.get lab) answer s d) :
    (inj.single f p.node).Leaves lab answer (p.seat.set s lab) d := by
  have focused := made.focus p.lawful_seat there
  rw [← Call.limit_focus] at focused
  rw [Injector.single, apply_focus]
  exact focused

/-- Every call of a batch comes to its end in one of these ways. -/
theorem exists_ends (inj : Injector Lab) (f : Fault) (there : p.number < lab.handles.length)
    (calm : f = .restart → (p.id, Operation.stop) ∉ lab.fabric.failNext) :
    ∃ answer lab' d, (inj.single f p.node).Leaves lab answer lab' d ∧
      p.Ends inj f lab (answer.getD (.error (.ofNode p.id f.name (.noResponse inj.callTimeout))))
        lab' d := by
  have same := p.lawful_seat.set_get lab there
  by_cases able : f.ofPower = true → p.handle.flavor = .machine
  · have elapsed := Handle.elapsed_apply able (s := p.seat.get lab) calm inj.stopGrace
    by_cases early : f.steps * lab.fabric.latencyOf p.id ≤ inj.callTimeout
    · have whole := Call.Leaves.refl (f.apply inj.stopGrace p.handle.node).toCall (p.seat.get lab)
      rw [elapsed] at whole
      refine ⟨_, _, _, leaves_single there (whole.limit early), .done able early ?_⟩
      rw [apply_focus]
      exact (whole.focus p.lawful_seat there).result
    · by_cases first : lab.fabric.latencyOf p.id ≤ inj.callTimeout
      · have restart : f = .restart := by
          by_contra single
          rw [Fault.steps_eq_one single, Nat.one_mul] at early
          exact early first
        subst restart
        have late : inj.callTimeout < 2 * lab.fabric.latencyOf p.id := Nat.lt_of_not_le early
        have cut := Handle.leaves_limit_restart (s := p.seat.get lab) (calm rfl) first late
        refine ⟨_, _, _, leaves_single there cut, .halfway rfl first late ?_⟩
        exact ((Handle.leaves_stop (s := p.seat.get lab) (calm rfl)).focus p.lawful_seat there).result
      · have late : inj.callTimeout < lab.fabric.latencyOf p.id := Nat.lt_of_not_le first
        have cut := leaves_single there
          (Handle.leaves_limit_apply (s := p.seat.get lab) able inj.stopGrace late)
        rw [same] at cut
        exact ⟨_, _, _, cut, .late able late⟩
  · obtain ⟨power, container⟩ := Classical.not_imp.mp able
    have unsupported : (f.apply inj.stopGrace p.handle.node).toCall =
        .done (.error (.unsupported p.id "power control")) :=
      Handle.apply_eq_unsupported power container inj.stopGrace
    have ended : (Call.limit inj.callTimeout (f.apply inj.stopGrace p.handle.node).toCall).Leaves
        (p.seat.get lab) (some (.error (.unsupported p.id "power control"))) (p.seat.get lab) 0 := by
      rw [unsupported]
      exact ⟨rfl, rfl⟩
    have cut := leaves_single there ended
    rw [same] at cut
    refine ⟨_, _, _, cut, .unable power ?_⟩
    cases flavor : p.handle.flavor with
    | container => rfl
    | machine => exact absurd flavor container

end Post

namespace Fleet

/-- **A call that is cut off keeps what it has done.**  A call of a batch that has no control over the
power fails at once.  Any other call is done if all of its operations fit into the time; if not, it is
reported as unanswered when the time is over, and it has done nothing, but that a restart may have
stopped its member.  In a batch of a fleet every call comes to the end that it would come to alone. -/
theorem batch_cut_off (inj : Injector Lab) (f : Fault) (lab : Lab) :
    (∀ p : Post, p.number < lab.handles.length →
      (f = .restart → (p.id, Operation.stop) ∉ lab.fabric.failNext) → ∀ i, ∃ result lab' d,
        (inj.batchCall f (i, p.node)).Leaves lab ⟨i, p.id, result, d⟩ lab' d ∧
          p.Ends inj f lab result lab' d) ∧
    ∀ fleet : Fleet, inj.nodes = fleet.nodes → fleet.There lab →
      (f = .restart → ∀ e ∈ fleet.endpoints, (e, Operation.stop) ∉ lab.fabric.failNext) →
      ∀ is, inj.Names is → ∃ outcomes lab', (inj.batch f is).toCall.Leaves lab (.ok ⟨f, outcomes⟩) lab'
          ((outcomes.map NodeOutcome.elapsed).foldr max 0) ∧
        outcomes.map NodeOutcome.index = is ∧
        ∀ o ∈ outcomes, ∃ p alone, fleet.posts[o.index]? = some p ∧ o.node = p.id ∧
          p.Ends inj f lab o.result alone o.elapsed ∧ p.sight lab' = p.sight alone := by
  have ends : ∀ p : Post, p.number < lab.handles.length →
      (f = .restart → (p.id, Operation.stop) ∉ lab.fabric.failNext) → ∀ i, ∃ lab',
        ((inj.single f p.node).result lab).2 = lab' ∧
          p.Ends inj f lab (inj.alone f (i, p.node) lab).result lab'
            (inj.alone f (i, p.node) lab).elapsed := by
    intro p there calm i
    obtain ⟨answer, lab', d, leaves, ends⟩ := Post.exists_ends inj f there calm
    refine ⟨lab', by rw [leaves.result], ?_⟩
    simp only [Injector.alone, leaves.result, leaves.elapsed]
    exact ends
  constructor
  · intro p there calm i
    obtain ⟨lab', left, ends⟩ := ends p there calm i
    refine ⟨_, lab', _, ?_, ends⟩
    have leaves : (inj.batchCall f (i, p.node)).Leaves lab _ _ _ :=
      Injector.leaves_batchCall (i, p.node) lab
    rw [left] at leaves
    exact leaves
  · intro fleet members there calm is named
    obtain ⟨targets, targeted⟩ := Injector.exists_targets named
    have separate := separate_inTurn members targeted f lab
    have answer : ∀ target, ((inj.batchCall f target).result lab).1 = inj.alone f target lab :=
      fun target => congrArg Prod.fst (Injector.leaves_batchCall target lab).result
    have time : ∀ target, (inj.batchCall f target).elapsed lab = (inj.alone f target lab).elapsed :=
      fun target => (Injector.leaves_batchCall target lab).elapsed
    have together := Call.leaves_together (apart_batchCalls members targeted f) lab
    simp only [Call.longest, List.map_map, Function.comp_def, answer, time] at together
    refine ⟨_, Call.inTurn (targets.map (inj.batchCall f)) lab, ?_, separate.order, fun o mem => ?_⟩
    · simp only [List.map_map, Function.comp_def]
      exact Injector.leaves_batch targeted together
    · obtain ⟨p, here, alone, sight⟩ := separate.each o mem
      have hp := List.mem_of_getElem? here
      obtain ⟨lab', left, ends⟩ := ends p (there p hp)
        (fun restart => calm restart p.id (List.mem_map_of_mem hp)) o.index
      rw [← alone] at ends
      rw [left] at sight
      refine ⟨p, lab', here, ?_, ends, sight⟩
      rw [alone]
      rfl

/-- The first of three members takes 40 nanoseconds for an operation and has 50 for the call: told to
restart, it is stopped.  None of them can be told to switch itself off. -/
theorem batch_cut_off_trio : trioInjector.nodes = trio.nodes ∧ trio.There trioLab ∧
    (∀ e ∈ trio.endpoints, (e, Operation.stop) ∉ trioLab.fabric.failNext) ∧ trioInjector.Names [2, 0] ∧
    (∃ outcomes lab' o p alone, (trioInjector.batch .restart [2, 0]).toCall.Leaves trioLab
        (.ok ⟨.restart, outcomes⟩) lab' ((outcomes.map NodeOutcome.elapsed).foldr max 0) ∧
      o ∈ outcomes ∧ trio.posts[0]? = some p ∧ o.elapsed = 50 ∧
      o.result = .error (.ofNode p.id "restart" (.noResponse 50)) ∧ p.sight lab' = p.sight alone ∧
      (p.node.stop 10).result trioLab = (.ok (), alone)) ∧
    ∃ lab' p, trio.posts[1]? = some p ∧ (trioInjector.batchCall .powerOff (1, p.node)).Leaves trioLab
      ⟨1, p.id, .error (.unsupported p.id "power control"), 0⟩ lab' 0 := by
  have there : trio.There trioLab := by
    unfold There
    decide
  have calm : ∀ e ∈ trio.endpoints, (e, Operation.stop) ∉ trioLab.fabric.failNext := by
    decide +kernel
  have named : trioInjector.Names [2, 0] := by decide
  obtain ⟨outcomes, lab', leaves, order, ends⟩ := (batch_cut_off trioInjector .restart trioLab).2
    trio rfl there (fun _ => calm) [2, 0] named
  refine ⟨rfl, there, calm, named, ?_, ?_⟩
  · have first : 0 ∈ outcomes.map NodeOutcome.index := by
      rw [order]
      decide
    obtain ⟨o, mem, index⟩ := List.mem_map.mp first
    obtain ⟨p, alone, here, -, ended, sight⟩ := ends o mem
    rw [index] at here
    have slow : trioLab.fabric.latencyOf p.id = 40 := by
      have made : trio.posts[0]? = some ⟨0, ⟨endpointAt 0 9000, .container⟩⟩ := rfl
      cases here.symm.trans made
      decide +kernel
    have patience : trioInjector.callTimeout = 50 := rfl
    obtain ⟨outcomeIndex, node, result, elapsed⟩ := o
    refine ⟨outcomes, lab', _, p, alone, leaves, mem, here, ?_⟩
    cases ended with
    | unable power => cases power
    | done able early =>
      rw [slow, patience] at early
      exact absurd early (by decide)
    | late able late =>
      rw [slow, patience] at late
      exact absurd late (by decide)
    | halfway restart early late stopped => exact ⟨rfl, rfl, sight, stopped⟩
  · obtain ⟨result, left, d, told, ended⟩ := (batch_cut_off trioInjector .powerOff trioLab).1
      ⟨1, ⟨endpointAt 1 9000, .container⟩⟩ (by decide) (fun restart => by cases restart) 1
    refine ⟨left, _, rfl, ?_⟩
    cases ended with
    | unable power container => exact told
    | done able => cases able rfl
    | halfway restart => cases restart
    | late able => cases able rfl

end Fleet

end Simulation

end FaultLab
