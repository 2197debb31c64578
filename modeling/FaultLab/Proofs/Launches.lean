import FaultLab.Proofs.Cleanups
import FaultLab.Proofs.SimulatedSnapshots
import FaultLab.Proofs.Partitions

/-! # Deployments that succeed, and how long they take

A deployment goes all the way if each of its parts does, and takes as long as they do together
(`Orchestrator.leaves_deploy`).  In a lab without a layout and with the management up, the members are
made at once (`Lab.leaves_provisionAll_ok`), and what happens next depends on the submissions that are to
fail: each one before the last is followed by a pause, and the first one that need not fail is taken
(`Lab.leaves_submit_ok`), unless there are too many of them (`Lab.error_of_submit`).

What is put in place is looked at once.  The members were just made, so the look finds nothing, and from
then on readings show a stable cluster whatever the lag (`Fabric.Still`).

* `Lab.bootstrap_retries_counted`: the submissions, the time and the outcome for any number of failures.
* `Lab.stable_at_first_sight`: the first snapshot of a new cluster, and the wait after it. -/

namespace FaultLab

/-! ### Sequences that succeed -/

namespace Attempt
variable {σ ε ε' α β : Type} {c : Attempt σ ε α} {s t u : σ} {a : α} {d d' : Nat}

theorem leaves_bind {f : α → Attempt σ ε β} {r : Except ε β} (h : c.toCall.Leaves s (.ok a) u d)
    (h' : (f a).toCall.Leaves u r t d') : (c >>= f).toCall.Leaves s r t (d + d') := by
  have first : c.result s = (.ok a, u) := h.result
  constructor
  · change (c >>= f).result s = _
    rw [result_bind, first]
    exact h'.result
  · rw [elapsed_bind, first, h.elapsed]
    exact congrArg (d + ·) h'.elapsed

theorem leaves_bind_at_once {f : α → Attempt σ ε β} {r : Except ε β}
    (h : c.toCall.Leaves s (.ok a) u 0) (h' : (f a).toCall.Leaves u r t d) :
    (c >>= f).toCall.Leaves s r t d := by
  have whole := leaves_bind h h'
  rwa [Nat.zero_add] at whole

theorem leaves_bind_then_at_once {f : α → Attempt σ ε β} {r : Except ε β}
    (h : c.toCall.Leaves s (.ok a) u d) (h' : (f a).toCall.Leaves u r t 0) :
    (c >>= f).toCall.Leaves s r t d := leaves_bind h h'

theorem leaves_bind_error {e : ε} (h : c.toCall.Leaves s (.error e) t d) (f : α → Attempt σ ε β) :
    (c >>= f).toCall.Leaves s (.error e) t d := by
  have first : c.result s = (.error e, t) := h.result
  constructor
  · change (c >>= f).result s = _
    rw [result_bind, first]
  · rw [elapsed_bind, first, h.elapsed]
    exact Nat.add_zero d

theorem leaves_ok_of_lift {c : Call σ α} (h : c.Leaves s a t d) :
    (lift c : Attempt σ ε α).toCall.Leaves s (.ok a) t d := by
  constructor
  · change (lift c : Attempt σ ε α).result s = _
    rw [result_lift, h.result]
  · rw [elapsed_lift, h.elapsed]

theorem leaves_log (event : Event) (s : σ) :
    (log event : Attempt σ ε Unit).toCall.Leaves s (.ok ()) s 0 := ⟨rfl, rfl⟩

theorem leaves_mapError (h : c.toCall.Leaves s (.ok a) t d) (f : ε → ε') :
    (c.mapError f).toCall.Leaves s (.ok a) t d := by
  have made : c.result s = (.ok a, t) := h.result
  constructor
  · change (c.mapError f).result s = _
    rw [result_mapError, made]
  · change Call.elapsed (Call.bind c.toCall _) s = d
    rw [Call.elapsed_bind, h.result, h.elapsed]
    rfl

end Attempt

namespace Orchestrator
variable {σ α : Type} {o : Orchestrator σ} {s s₁ s₂ s₃ t : σ} {d d₁ d₂ d₃ d₄ : Nat} {fixture : Fixture}
  {identity : Uuid} {nodes : List (Node σ)} {client : ManagementClient σ}

theorem leaves_orAbort {phase : Phase} {c : Attempt σ Failure α} {a : α}
    (h : c.toCall.Leaves s (.ok a) t d) : (o.orAbort phase nodes c).toCall.Leaves s (.ok a) t d := by
  have looked : (Attempt.lift c.toCall : Attempt σ Failure _).toCall.Leaves s (.ok (.ok a)) t d :=
    Attempt.leaves_ok_of_lift h
  exact Attempt.leaves_bind_then_at_once looked ⟨rfl, rfl⟩

theorem leaves_advance {now next : Phase} (may : now.mayPrecede next = true) (s : σ) :
    (advance now next : Attempt σ Failure Phase).toCall.Leaves s (.ok next) s 0 := by
  rw [advance, Phase.advance, if_pos may]
  exact ⟨rfl, rfl⟩

theorem leaves_prepare_ok (h : (o.backend.prepare fixture).toCall.Leaves s (.ok ()) t d) :
    (o.prepare fixture).Leaves s (.ok ()) t d := by
  constructor
  · rw [prepare, Call.bind_eq, Call.result_bind, h.result]
    rfl
  · rw [prepare, Call.bind_eq, Call.elapsed_bind, h.result, h.elapsed]
    rfl

/-- **A deployment goes all the way** if all its parts do, and takes as long as they do together. -/
theorem leaves_deploy (valid : fixture.validate = .ok ())
    (prepared : (o.backend.prepare fixture).toCall.Leaves s (.ok ()) s₁ d₁)
    (made : (o.provisionAll fixture 0 [] fixture.nodeCount).Leaves s₁ (.ok (), nodes) s₂ d₂)
    (reached : (o.connector (nodes.map Node.id)).toCall.Leaves s₂ (.ok client) s₃ d₃)
    (taken : (submit client (.initial (nodes.map Node.id) identity) fixture.bootstrap 1 ""
      fixture.bootstrap.retries.toNat).toCall.Leaves s₃ (.ok ()) t d₄) :
    (o.deploy fixture identity).toCall.Leaves s (.ok ⟨fixture, nodes, client, .ready⟩) t
      (d₁ + (d₂ + (d₃ + d₄))) := by
  have checked : (Attempt.give (fixture.validate.mapError .fixture) : Attempt σ Failure Unit).toCall.Leaves
      s (.ok ()) s 0 := by
    rw [valid]
    exact ⟨rfl, rfl⟩
  refine Attempt.leaves_bind_at_once checked ?_
  refine Attempt.leaves_bind_at_once (leaves_advance rfl s) ?_
  refine Attempt.leaves_bind_at_once (Attempt.leaves_log _ s) ?_
  refine Attempt.leaves_bind (leaves_orAbort (leaves_prepare_ok prepared)) ?_
  refine Attempt.leaves_bind (Attempt.leaves_ok_of_lift made) ?_
  have all : (Attempt.give (.ok ()) : Attempt σ Failure Unit).toCall.Leaves s₂ (.ok ()) s₂ 0 := ⟨rfl, rfl⟩
  refine Attempt.leaves_bind_at_once (leaves_orAbort all) ?_
  refine Attempt.leaves_bind_at_once (leaves_advance rfl s₂) ?_
  refine Attempt.leaves_bind (leaves_orAbort (Attempt.leaves_mapError reached _)) ?_
  have last : (advance .bootstrapping .ready >>= fun phase => do
      Attempt.log (.info "cluster ready" [("fixture", .fixed fixture.name),
        ("cluster_id", .varying (toString (Layout.initial (nodes.map Node.id) identity).clusterId))])
      return (⟨fixture, nodes, client, phase⟩ : Group σ) : Attempt σ Failure (Group σ)).toCall.Leaves t
        (.ok ⟨fixture, nodes, client, .ready⟩) t 0 :=
    Attempt.leaves_bind_at_once (leaves_advance rfl t) ⟨rfl, rfl⟩
  exact Attempt.leaves_bind_then_at_once (leaves_orAbort taken) last

/-- **A deployment fails last of all** if all its parts succeed but the submissions; then its members are
cleared away. -/
theorem error_of_untaken {e : Failure} (valid : fixture.validate = .ok ())
    (prepared : (o.backend.prepare fixture).toCall.Leaves s (.ok ()) s₁ d₁)
    (made : (o.provisionAll fixture 0 [] fixture.nodeCount).Leaves s₁ (.ok (), nodes) s₂ d₂)
    (reached : (o.connector (nodes.map Node.id)).toCall.Leaves s₂ (.ok client) s₃ d₃)
    (failed : (submit client (.initial (nodes.map Node.id) identity) fixture.bootstrap 1 ""
      fixture.bootstrap.retries.toNat).toCall.Leaves s₃ (.error e) t d₄) :
    ∃ t' d₅, (o.deploy fixture identity).toCall.Leaves s (.error e) t' (d₁ + (d₂ + (d₃ + (d₄ + d₅)))) ∧
      o.Clears nodes t t' d₅ := by
  have ran := Call.Leaves.refl (o.deploy fixture identity).toCall s
  generalize ((o.deploy fixture identity).toCall.result s).1 = outcome at ran
  generalize ((o.deploy fixture identity).toCall.result s).2 = t' at ran
  generalize (o.deploy fixture identity).toCall.elapsed s = time at ran
  cases outcome with
  | ok g =>
    -- All its parts would have to succeed, but the submissions do not.
    obtain ⟨_, _, -, -, _, _, _, first, second, third, last⟩ := deploy_eq_ok (s := s) ran.result
    cases (leaves_prepare_ok prepared).result.symm.trans first
    cases made.result.symm.trans second
    cases reached.result.symm.trans third
    cases failed.result.symm.trans last
  | error e' =>
    cases deploy_fails ran with
    | invalid invalid =>
      rw [valid] at invalid
      cases invalid
    | unprepared _ refused => cases prepared.result.symm.trans refused.result
    | unmade _ first refused =>
      cases prepared.result.symm.trans first.result
      cases made.result.symm.trans refused.result
    | unreached _ first second refused =>
      cases prepared.result.symm.trans first.result
      cases made.result.symm.trans second.result
      cases reached.result.symm.trans refused.result
    | untaken _ first second third refused cleared =>
      cases prepared.result.symm.trans first.result
      cases made.result.symm.trans second.result
      cases reached.result.symm.trans third.result
      cases failed.result.symm.trans refused.result
      obtain rfl := prepared.elapsed.symm.trans first.elapsed
      obtain rfl := made.elapsed.symm.trans second.elapsed
      obtain rfl := reached.elapsed.symm.trans third.elapsed
      obtain rfl := failed.elapsed.symm.trans refused.elapsed
      exact ⟨t', _, ran, cleared⟩

end Orchestrator

namespace Simulation

/-! ### Making the members -/

theorem map_id_recruits (flavor : Flavor) (port : UInt16) (number index count : Nat) :
    (recruits flavor port number index count).map Post.id =
      (List.range' index count).map (endpointAt · port) := by
  induction count generalizing number index with
  | zero => rfl
  | succ count ih =>
    rw [recruits, List.map_cons, ih, List.range'_succ, List.map_cons]
    rfl

namespace Lab
variable {lab : Lab} {flavor : Flavor} {fixture : Fixture} {index left number : Nat} {l : Layout}

/-- If none of them is to fail, the members are made at once. -/
theorem leaves_provisionAll_ok (before : List (Node Lab))
    (able : ∀ i < left, index + i ∉ lab.fabric.failProvision) :
    let posts := recruits flavor fixture.backend.memberPort lab.handles.length index left
    ((orchestrator flavor).provisionAll fixture index before left).Leaves lab
      (.ok (), before ++ posts.map Post.node) (lab.muster posts) 0 := by
  intro posts
  have ran := Call.Leaves.refl ((orchestrator flavor).provisionAll fixture index before left) lab
  generalize (((orchestrator flavor).provisionAll fixture index before left).result lab).1 = answer at ran
  obtain ⟨outcome, nodes⟩ := answer
  obtain ⟨count, makes, rfl, left', instant⟩ := leaves_provisionAll ran
  cases makes with
  | all _ =>
    rw [left', instant] at ran
    exact ran
  | first few _ fails => exact absurd (List.contains_iff_mem.mp fails) (able count few)

end Lab

/-! ### Submissions that are refused, and one that is taken -/

namespace Fabric
variable {f : Fabric} {l : Layout}

theorem submit_of_failing (up : f.managementDown = false) (failing : 0 < f.bootstrapFailures) (l : Layout) :
    f.submit l = (.error .targetNotReady, f.refusing 1) := by
  simp [submit, refusing, up, failing]

theorem submit_of_able (up : f.managementDown = false) (able : f.bootstrapFailures = 0)
    (bare : f.layout = none) (valid : l.validate = .ok ()) : f.submit l = (.ok true, f.refusing 1) := by
  simp [submit, refusing, up, able, bare, valid]

end Fabric

theorem ClientState.instant_bootstrap (l : Layout) : Attempt.Instant (bootstrap l) := by
  refine .bind (.lift fun _ => trivial) fun accepted => ?_
  cases accepted with
  | error cause => trivial
  | ok taken =>
    cases taken with
    | false => trivial
    | true =>
      have committing : (commit l).Instant := Call.Instant.bind (fun _ => trivial) fun _ => .logAll _
      refine .bind (c := Attempt.give (.ok true)) trivial fun next => ?_
      cases next with
      | false => trivial
      | true => exact .bind (.lift committing) fun _ => .bind (.lift fun _ => trivial) fun _ => trivial

namespace Lab
variable {lab : Lab} {number left : Nat} {l : Layout}

theorem instant_bootstrap (number : Nat) (l : Layout) : ((client number).bootstrap l).Instant :=
  Call.Instant.focus (ClientState.instant_bootstrap l) (clientState number)

theorem leaves_refused (there : number < lab.memories.length) (up : lab.fabric.managementDown = false)
    (failing : 0 < lab.fabric.bootstrapFailures) (l : Layout) :
    ((client number).bootstrap l).toCall.Leaves lab (.error .targetNotReady)
      (lab.onFabric (Fabric.refusing 1)) 0 := by
  refine (instant_bootstrap number l).leaves ((result_bootstrap there l).trans ?_)
  rw [Fabric.submit_of_failing up failing]
  have same := (lawful_clientState number).set_get lab there
  exact congrArg (fun lab' : Lab => (_, lab'.onFabric (Fabric.refusing 1))) same

/-- The lab after a first layout was put in place by a client. -/
def founded (number : Nat) (l : Layout) (lab : Lab) : Lab :=
  (clientState number).set ⟨lab.fabric.commit l, none⟩ lab

theorem leaves_taken (there : number < lab.memories.length) (up : lab.fabric.managementDown = false)
    (able : lab.fabric.bootstrapFailures = 0) (bare : lab.fabric.layout = none)
    (valid : l.validate = .ok ()) :
    ((client number).bootstrap l).toCall.Leaves lab (.ok ())
      ((lab.onFabric (Fabric.refusing 1)).founded number l) 0 := by
  refine (instant_bootstrap number l).leaves ((result_bootstrap there l).trans ?_)
  rw [Fabric.submit_of_able up able bare valid]
  rfl

/-- What is left to submit after a refusal is submitted after a pause, if anything is left. -/
theorem leaves_submit_refused {r : Except Failure Unit} {lab' : Lab} {d attempt : Nat}
    {policy : BootstrapPolicy} (lastError : String)
    (there : number < lab.memories.length) (up : lab.fabric.managementDown = false)
    (failing : 0 < lab.fabric.bootstrapFailures)
    (rest : (Orchestrator.submit (client number) l policy (attempt + 1)
      ManagementError.targetNotReady.message left).toCall.Leaves (lab.onFabric (Fabric.refusing 1)) r
        lab' d) :
    (Orchestrator.submit (client number) l policy attempt lastError (left + 1)).toCall.Leaves lab r lab'
      ((if left = 0 then 0 else policy.backoff) + d) := by
  have tried : (Attempt.lift ((client number).bootstrap l).toCall : Attempt Lab Failure _).toCall.Leaves lab
      (.ok (.error .targetNotReady)) (lab.onFabric (Fabric.refusing 1)) 0 :=
    Attempt.leaves_ok_of_lift (leaves_refused there up failing l)
  rw [Orchestrator.submit]
  refine Attempt.leaves_bind_at_once tried (Attempt.leaves_bind_at_once (Attempt.leaves_log _ _) ?_)
  by_cases last : left = 0
  · rw [if_neg (not_not.mpr last), if_pos last, Nat.zero_add]
    exact rest
  · rw [if_pos last, if_neg last]
    have slept : (Attempt.lift (Call.sleep policy.backoff) : Attempt Lab Failure Unit).toCall.Leaves
        (lab.onFabric (Fabric.refusing 1)) (.ok ()) (lab.onFabric (Fabric.refusing 1)) policy.backoff :=
      ⟨rfl, rfl⟩
    exact Attempt.leaves_bind slept rest

/-- **If fewer submissions are to fail than are made**, the first one after them is taken, with a pause
after each one before it. -/
theorem leaves_submit_ok (policy : BootstrapPolicy) (attempt : Nat) (lastError : String)
    (there : number < lab.memories.length) (up : lab.fabric.managementDown = false)
    (bare : lab.fabric.layout = none) (valid : l.validate = .ok ())
    (few : lab.fabric.bootstrapFailures < left) :
    (Orchestrator.submit (client number) l policy attempt lastError left).toCall.Leaves lab (.ok ())
      ((lab.onFabric (Fabric.refusing (lab.fabric.bootstrapFailures + 1))).founded number l)
      (lab.fabric.bootstrapFailures * policy.backoff) := by
  induction left generalizing lab attempt lastError with
  | zero => cases few
  | succ left ih =>
    cases failures : lab.fabric.bootstrapFailures with
    | zero =>
      have tried : (Attempt.lift ((client number).bootstrap l).toCall : Attempt Lab Failure _).toCall.Leaves
          lab (.ok (.ok ())) ((lab.onFabric (Fabric.refusing 1)).founded number l) 0 :=
        Attempt.leaves_ok_of_lift (leaves_taken there up failures bare valid)
      rw [Orchestrator.submit, Nat.zero_mul]
      exact Attempt.leaves_bind_at_once tried (Attempt.leaves_log _ _)
    | succ k =>
      have failing : 0 < lab.fabric.bootstrapFailures := failures ▸ Nat.succ_pos k
      have fewer : (lab.onFabric (Fabric.refusing 1)).fabric.bootstrapFailures = k := by
        simp [onFabric, Fabric.refusing, up, failures]
      rw [failures] at few
      have few := Nat.lt_of_succ_lt_succ few
      have there' : number < (lab.onFabric (Fabric.refusing 1)).memories.length := there
      have later := ih (attempt + 1) ManagementError.targetNotReady.message there' up bare
        (fewer.symm ▸ few)
      have more : left ≠ 0 := Nat.ne_of_gt (Nat.lt_of_le_of_lt (Nat.zero_le k) few)
      have whole := leaves_submit_refused lastError there up failing later
      rw [fewer, if_neg more] at whole
      have spans : policy.backoff + k * policy.backoff = (k + 1) * policy.backoff := by
        rw [Nat.succ_mul, Nat.add_comm]
      have counted : (lab.onFabric (Fabric.refusing 1)).onFabric (Fabric.refusing (k + 1)) =
          lab.onFabric (Fabric.refusing (k + 1 + 1)) := by
        rw [onFabric, onFabric, onFabric, Fabric.refusing_refusing, Nat.add_comm 1]
      rwa [spans, counted] at whole

/-- If as many submissions are to fail as are made, or more, none of them is taken. -/
theorem error_of_submit (policy : BootstrapPolicy) (attempt : Nat) (lastError : String)
    (there : number < lab.memories.length) (up : lab.fabric.managementDown = false)
    (many : left ≤ lab.fabric.bootstrapFailures) : ∃ e lab' d,
    (Orchestrator.submit (client number) l policy attempt lastError left).toCall.Leaves lab (.error e)
      lab' d := by
  induction left generalizing lab attempt lastError with
  | zero => exact ⟨_, lab, 0, rfl, rfl⟩
  | succ left ih =>
    have failing : 0 < lab.fabric.bootstrapFailures := Nat.lt_of_lt_of_le (Nat.succ_pos left) many
    have fewer : left ≤ (lab.onFabric (Fabric.refusing 1)).fabric.bootstrapFailures := by
      change left ≤ if lab.fabric.managementDown then _ else _
      rw [up, if_neg Bool.false_ne_true]
      exact Nat.le_sub_of_add_le many
    have there' : number < (lab.onFabric (Fabric.refusing 1)).memories.length := there
    obtain ⟨e, lab', d, rest⟩ := ih (attempt + 1) ManagementError.targetNotReady.message there' up fewer
    exact ⟨e, lab', _, leaves_submit_refused lastError there up failing rest⟩

end Lab

/-! ### A layout of members that were just made -/

namespace Fabric
variable {f : Fabric} {l : Layout} {r : StatusReport}

/-- A fabric with the management up, a layout in place and a report, in which a look changes nothing. -/
structure Still (f : Fabric) (l : Layout) (r : StatusReport) : Prop where
  up : f.managementDown = false
  layout : f.layout = some l
  report : f.report = some r
  look : f.look l = f

/-- Where a look changes nothing, a reading counts down at most. -/
theorem Still.watched (h : f.Still l r) : f.watched.Still l r := by
  rw [watched_of_layout h.up h.layout]
  split
  · have counted : f.countDown.look l = f.countDown := by
      have same : f.countDown.look l = { f.look l with lagRemaining := f.lagRemaining - 1 } := rfl
      rw [same, h.look]
      rfl
    exact ⟨h.up, h.layout, h.report, counted⟩
  · rw [h.look]
    exact h

/-- A layout of whole servers that is put in place is looked at, and stays as it is. -/
theorem commit_whole (up : f.managementDown = false) (distinct : l.servers.Nodup) (servers : l.servers ≠ [])
    (responsive : l.unresponsive = .empty) (whole : ∀ e ∈ l.servers, f.Whole e) :
    ∃ r, f.commit l = { f with layout := some l, report := some r } ∧ (f.commit l).Still l r ∧
      r.overall = .stable ∧ r.reliability = .strongQuorum := by
  have unseen : ¬ (f.place l).Waiting := fun waiting => Bool.false_ne_true waiting.1
  have whole : ∀ e ∈ l.servers, (f.place l).Whole e := fun e mem => ⟨(whole e mem).up, (whole e mem).blocks⟩
  have nothing := detect_eq_empty distinct whole
  have stays : settle .empty l = l := if_neg fun both => both.1 responsive.symm
  have quorum : hasQuorum l .empty = true := hasQuorum_of_isEmpty servers rfl
  have looked : f.commit l = (f.place l).look l := by
    rw [commit_eq, watched_of_layout (f := f.place l) up rfl, if_neg unseen]
  have placed : (f.place l).look l =
      { f with layout := some l, report := some ((f.place l).reportOn l .empty) } := by
    rw [look, nothing, stays]
    rfl
  have again := look_look (f.place l) l
  rw [nothing, stays, ← looked] at again
  refine ⟨(f.place l).reportOn l .empty, looked.trans placed, ⟨?_, ?_, ?_, again⟩, rfl, if_pos quorum⟩
  · rw [looked]
    exact up
  · rw [looked, placed]
  · rw [looked, placed]

end Fabric

namespace Lab
variable {lab : Lab} {l : Layout} {r : StatusReport} {number : Nat}

theorem memories_muster (lab : Lab) (posts : List Post) : (lab.muster posts).memories = lab.memories := by
  induction posts generalizing lab with
  | nil => rfl
  | cons p posts ih => exact ih (lab.enlist p.handle)

theorem whole_muster {posts : List Post} {e : Endpoint} (mem : e ∈ posts.map Post.id) :
    (lab.muster posts).fabric.Whole e := by
  have found : (lab.muster posts).fabric.members.get? e = some .fresh := by
    rw [members_muster, if_pos mem]
  constructor
  · rw [Fabric.isUp, found]
    rfl
  · rw [Fabric.blockedBy, found]
    rfl

section launch
variable {flavor : Flavor} {fixture : Fixture} {identity : Uuid}

/-- The members of a fixture that is deployed in a lab. -/
def crewOf (flavor : Flavor) (fixture : Fixture) (lab : Lab) : Fleet :=
  .recruited flavor fixture.backend.memberPort lab.handles.length 0 fixture.nodeCount

/-- The lab after the members of a fixture were made and a client was connected, before anything was
submitted. -/
def mustered (flavor : Flavor) (fixture : Fixture) (lab : Lab) : Lab :=
  { lab.prepareOnce.muster (crewOf flavor fixture lab).posts with memories := lab.memories ++ [none] }

theorem kept_mustered (flavor : Flavor) (fixture : Fixture) (lab : Lab) :
    (lab.mustered flavor fixture).fabric.layout = lab.fabric.layout ∧
      (lab.mustered flavor fixture).fabric.managementDown = lab.fabric.managementDown ∧
      (lab.mustered flavor fixture).fabric.bootstrapAttempts = lab.fabric.bootstrapAttempts ∧
      (lab.mustered flavor fixture).fabric.bootstrapFailures = lab.fabric.bootstrapFailures := by
  obtain ⟨members, lag, same⟩ := fabric_muster lab.prepareOnce (crewOf flavor fixture lab).posts
  have same : (lab.mustered flavor fixture).fabric =
      { lab.prepareOnce.fabric with members := members, lagRemaining := lag } := same
  rw [same]
  exact ⟨rfl, rfl, rfl, rfl⟩

theorem there_mustered (flavor : Flavor) (fixture : Fixture) (lab : Lab) :
    lab.memories.length < (lab.mustered flavor fixture).memories.length := by
  rw [mustered, List.length_append]
  exact Nat.lt_succ_self _

theorem endpoints_crewOf (flavor : Flavor) (fixture : Fixture) (lab : Lab) :
    (crewOf flavor fixture lab).endpoints =
      (List.range fixture.nodeCount).map (endpointAt · fixture.backend.memberPort) := by
  rw [List.range_eq_range']
  exact map_id_recruits flavor _ _ 0 fixture.nodeCount

/-- What comes before the submissions, if all members can be made. -/
theorem leaves_mustered (flavor : Flavor) (able : ∀ i < fixture.nodeCount, i ∉ lab.fabric.failProvision) :
    ((orchestrator flavor).backend.prepare fixture).toCall.Leaves lab (.ok ()) lab.prepareOnce 0 ∧
    ((orchestrator flavor).provisionAll fixture 0 [] fixture.nodeCount).Leaves lab.prepareOnce
      (.ok (), (crewOf flavor fixture lab).nodes)
      (lab.prepareOnce.muster (crewOf flavor fixture lab).posts) 0 ∧
    ((orchestrator flavor).connector ((crewOf flavor fixture lab).nodes.map Node.id)).toCall.Leaves
      (lab.prepareOnce.muster (crewOf flavor fixture lab).posts) (.ok (client lab.memories.length))
      (lab.mustered flavor fixture) 0 := by
  have memories : (lab.prepareOnce.muster (crewOf flavor fixture lab).posts).memories = lab.memories :=
    memories_muster lab.prepareOnce _
  refine ⟨⟨rfl, rfl⟩, ?_, ?_⟩
  · have able : ∀ i < fixture.nodeCount, 0 + i ∉ lab.prepareOnce.fabric.failProvision := by
      intro i few
      rw [Nat.zero_add]
      exact able i few
    exact leaves_provisionAll_ok [] able
  · rw [mustered, ← memories]
    exact ⟨rfl, rfl⟩

/-- **A deployment succeeds** if fewer submissions are to fail than may be made; what it leaves is looked at
and stays as it is. -/
theorem leaves_deploy (flavor : Flavor) (identity : Uuid) (valid : fixture.validate = .ok ())
    (bare : lab.fabric.layout = none) (up : lab.fabric.managementDown = false)
    (able : ∀ i < fixture.nodeCount, i ∉ lab.fabric.failProvision)
    (few : lab.fabric.bootstrapFailures < fixture.bootstrap.retries.toNat) :
    ∃ made r, ((orchestrator flavor).deploy fixture identity).toCall.Leaves lab
        (.ok ((crewOf flavor fixture lab).group fixture lab.memories.length)) made
        (lab.fabric.bootstrapFailures * fixture.bootstrap.backoff) ∧
      lab.memories.length < made.memories.length ∧
      made.fabric.Still (.initial (crewOf flavor fixture lab).endpoints identity) r ∧
      r.overall = .stable ∧ r.reliability = .strongQuorum ∧
      made.fabric.bootstrapAttempts =
        lab.fabric.bootstrapAttempts + (lab.fabric.bootstrapFailures + 1) ∧
      made.fabric.bootstrapFailures = 0 := by
  obtain ⟨prepared, provisioned, connected⟩ := leaves_mustered flavor able
  have layout : (Layout.initial ((crewOf flavor fixture lab).nodes.map Node.id) identity).validate =
      .ok () := validate_initial valid flavor lab.handles.length identity
  have servers : (crewOf flavor fixture lab).endpoints ≠ [] := by
    intro none
    have length := congrArg List.length none
    rw [endpoints_crewOf, List.length_map, List.length_range] at length
    exact nodeCount_ne_zero valid length
  have there := there_mustered flavor fixture lab
  obtain ⟨bare', up', attempts, failures⟩ := kept_mustered flavor fixture lab
  rw [bare] at bare'
  rw [up] at up'
  have taken := leaves_submit_ok fixture.bootstrap 1 "" there up' bare' layout (failures.symm ▸ few)
  rw [failures] at taken
  have deployed := Orchestrator.leaves_deploy valid prepared provisioned connected taken
  rw [Nat.zero_add, Nat.zero_add, Nat.zero_add] at deployed
  -- The submissions have left the members as they were made.
  obtain ⟨r, committed, still, stable, strong⟩ := Fabric.commit_whole
    (f := (lab.mustered flavor fixture).fabric.refusing (lab.fabric.bootstrapFailures + 1)) up'
    (l := .initial (crewOf flavor fixture lab).endpoints identity) (crewOf flavor fixture lab).ids servers
    rfl fun e mem => ⟨(whole_muster mem).up, (whole_muster mem).blocks⟩
  rw [Fleet.map_id_nodes] at deployed
  refine ⟨_, r, deployed, ?_, still, stable, strong, ?_, ?_⟩
  · exact (lawful_clientState lab.memories.length).stays _ _ there
  · refine (congrArg Fabric.bootstrapAttempts committed).trans ?_
    exact congrArg (· + (lab.fabric.bootstrapFailures + 1)) attempts
  · refine (congrArg Fabric.bootstrapFailures committed).trans ?_
    change (if (lab.mustered flavor fixture).fabric.managementDown then _ else _ - _) = 0
    rw [up', if_neg Bool.false_ne_true, failures]
    omega

/-- A cleanup changes the members alone, apart from counting readings, failures that were asked for and the
release. -/
theorem fabric_of_clears {posts : List Post} {before lab' : Lab} {d : Nat}
    (there : ∀ p ∈ posts, p.number < before.handles.length)
    (cleared : (orchestrator flavor).Clears (posts.map Post.node) before lab' d) :
    ∃ members lag failNext released, lab'.fabric = { before.fabric with
      members := members, lagRemaining := lag, failNext := failNext, released := released } := by
  cases cleared with
  | intro razed released =>
    obtain ⟨rfl, -⟩ := leaves_razes there razed
    obtain ⟨members, lag, told⟩ := fabric_after there
    have last := (congrArg Prod.snd released.result).symm
    subst last
    refine ⟨members, lag, before.fabric.failNext.filter fun x => ∀ p ∈ posts, x ≠ (p.id, Operation.destroy),
      before.fabric.released + 1, ?_⟩
    change { (before.after (posts.map Post.razing)).fabric with
      released := (before.after (posts.map Post.razing)).fabric.released + 1 } = _
    rw [told]

/-- **A deployment fails** if as many submissions are to fail as may be made, or more. -/
theorem error_of_deploy (flavor : Flavor) (identity : Uuid) (valid : fixture.validate = .ok ())
    (bare : lab.fabric.layout = none) (up : lab.fabric.managementDown = false)
    (able : ∀ i < fixture.nodeCount, i ∉ lab.fabric.failProvision)
    (many : fixture.bootstrap.retries.toNat ≤ lab.fabric.bootstrapFailures) :
    ∃ lab', ((orchestrator flavor).deploy fixture identity).toCall.Leaves lab
        (.error (.bootstrap fixture.bootstrap.retries ManagementError.targetNotReady.message)) lab'
        ((fixture.bootstrap.retries.toNat - 1) * fixture.bootstrap.backoff +
          ((crewOf flavor fixture lab).endpoints.map lab.fabric.latencyOf).sum) ∧
      Cleaned (crewOf flavor fixture lab).posts fixture.bootstrap.retries.toNat lab lab' ∧
      lab'.fabric.bootstrapFailures = lab.fabric.bootstrapFailures - fixture.bootstrap.retries.toNat ∧
      lab'.fabric.layout = none := by
  obtain ⟨prepared, provisioned, connected⟩ := leaves_mustered flavor able
  have layout : (Layout.initial ((crewOf flavor fixture lab).nodes.map Node.id) identity).validate =
      .ok () := validate_initial valid flavor lab.handles.length identity
  have some : fixture.bootstrap.retries.toNat ≠ 0 := fun none =>
    retries_ne_zero valid (UInt32.toNat_inj.mp none)
  have there := there_mustered flavor fixture lab
  obtain ⟨bare', up', attempts, failures⟩ := kept_mustered flavor fixture lab
  rw [bare] at bare'
  rw [up] at up'
  let submitted := Layout.initial ((crewOf flavor fixture lab).nodes.map Node.id) identity
  obtain ⟨e, u, d, failed⟩ := error_of_submit (l := submitted) fixture.bootstrap 1 "" there up'
    (failures.symm ▸ many)
  obtain ⟨rfl, rfl, rfl⟩ := leaves_submit there layout failed
  have reason : (lab.mustered flavor fixture).fabric.refusal fixture.bootstrap.retries.toNat =
      .targetNotReady := by
    rw [Fabric.refusal, up', if_neg Bool.false_ne_true]
    exact if_pos (failures ▸ many)
  rw [if_neg some, reason] at failed
  obtain ⟨lab', d, ran, cleared⟩ :=
    Orchestrator.error_of_untaken valid prepared provisioned connected failed
  have raised := (raised_muster lab (crewOf flavor fixture lab).posts).refusing
    fixture.bootstrap.retries.toNat (lab.memories ++ [none])
  obtain ⟨cleaned, spent⟩ := Raised.cleaned raised cleared
  obtain ⟨_, _, _, _, left⟩ := fabric_of_clears (fun p hp => (Raised.new raised p hp).1) cleared
  refine ⟨lab', ?_, cleaned, ?_, ?_⟩
  · rw [Nat.zero_add, Nat.zero_add, Nat.zero_add, spent] at ran
    rw [Fleet.endpoints, List.map_map]
    exact ran
  · rw [left]
    change (if (lab.mustered flavor fixture).fabric.managementDown then _ else _ - _) = _
    rw [up', if_neg Bool.false_ne_true]
    exact congrArg (· - fixture.bootstrap.retries.toNat) failures
  · rw [left]
    exact bare'

/-- **Submissions of the first layout are counted exactly.**  In a lab without a layout, with the management
up and no member that cannot be made, a valid fixture makes up to `r` submissions.  If fewer of them are to
fail, a deployment makes one more than that, pauses after each that fails, and ends with a cluster that is
ready and a layout of its members in the order of their indices.  Otherwise it makes all of them, with a
pause between any two, and fails: there is no layout, the failures that are left stay asked for, and every
member is destroyed unless that was to fail too.  Destroying a member takes the latency of its operations,
where it has one. -/
theorem bootstrap_retries_counted (flavor : Flavor) (identity : Uuid) (valid : fixture.validate = .ok ())
    (bare : lab.fabric.layout = none) (up : lab.fabric.managementDown = false)
    (able : ∀ i < fixture.nodeCount, i ∉ lab.fabric.failProvision) :
    let deploy := ((orchestrator flavor).deploy fixture identity).toCall
    let f := lab.fabric.bootstrapFailures
    let r := fixture.bootstrap.retries.toNat
    let ids := (List.range fixture.nodeCount).map (endpointAt · fixture.backend.memberPort)
    (f < r → ∃ g made, deploy.Leaves lab (.ok g) made (f * fixture.bootstrap.backoff) ∧
      g.phase = .ready ∧ g.endpoints = ids ∧
      made.fabric.bootstrapAttempts = lab.fabric.bootstrapAttempts + (f + 1) ∧
      made.fabric.bootstrapFailures = 0 ∧ made.fabric.layout = some (.initial ids identity)) ∧
    (r ≤ f → ∃ left, deploy.Leaves lab
        (.error (.bootstrap fixture.bootstrap.retries ManagementError.targetNotReady.message)) left
        ((r - 1) * fixture.bootstrap.backoff + (ids.map lab.fabric.latencyOf).sum) ∧
      left.fabric.bootstrapAttempts = lab.fabric.bootstrapAttempts + r ∧
      left.fabric.bootstrapFailures = f - r ∧ left.fabric.layout = none ∧
      ∀ e ∈ ids, (e, .destroy) ∉ lab.fabric.failNext →
        left.fabric.members.get? e = some { Member.fresh with destroyed := true }) := by
  intro deploy f r ids
  have crew : (crewOf flavor fixture lab).endpoints = ids := endpoints_crewOf flavor fixture lab
  constructor
  · intro few
    obtain ⟨made, report, deployed, -, still, -, -, attempts, failures⟩ :=
      leaves_deploy flavor identity valid bare up able few
    rw [crew] at still
    exact ⟨_, made, deployed, rfl, Fleet.endpoints_group.trans crew, attempts, failures, still.layout⟩
  · intro many
    obtain ⟨left, failed, cleaned, failures, layout⟩ :=
      error_of_deploy flavor identity valid bare up able many
    rw [crew] at failed
    obtain ⟨_, _, _, counted⟩ := cleaned.fabric
    refine ⟨left, failed, by rw [counted], failures, layout, fun e mem clear => ?_⟩
    rw [← crew] at mem
    obtain ⟨p, hp, rfl⟩ := List.mem_map.mp mem
    obtain ⟨-, m, found, rfl, -⟩ := cleaned.ended p hp
    have told : p.spared lab = false := Bool.eq_false_iff.mpr fun asked =>
      clear (List.contains_iff_mem.mp asked)
    rw [told] at found
    exact found

/-- A lab that refuses some first layouts and where changes show late. -/
def reluctant (refusals : Nat) : Lab :=
  empty.after [.set (.bootstrapFailures refusals), .set (.detectionLag 3)]

theorem valid_simulated : (Fixture.simulated 3).validate = .ok () := by
  have checked : (Fixture.simulated 3).validate.toOption = some () := by decide +kernel
  cases outcome : (Fixture.simulated 3).validate with
  | ok _ => rfl
  | error cause =>
    rw [outcome] at checked
    cases checked

/-- Of five submissions that a fixture makes, a second apart, two are refused, or all. -/
theorem bootstrap_retries_counted_reluctant :
    (∃ g made, ((orchestrator .container).deploy (.simulated 3) (.ofNat 7)).toCall.Leaves (reluctant 2)
        (.ok g) made (Span.ofSeconds 2) ∧
      g.phase = .ready ∧ made.fabric.bootstrapAttempts = 3 ∧ made.fabric.layout =
        some (.initial [endpointAt 0 9000, endpointAt 1 9000, endpointAt 2 9000] (.ofNat 7))) ∧
    ∃ left, ((orchestrator .container).deploy (.simulated 3) (.ofNat 7)).toCall.Leaves (reluctant 7)
        (.error (.bootstrap 5 ManagementError.targetNotReady.message)) left (Span.ofSeconds 4) ∧
      left.fabric.bootstrapAttempts = 5 ∧ left.fabric.bootstrapFailures = 2 ∧
      left.fabric.layout = none ∧ left.fabric.members.get? (endpointAt 2 9000) =
        some { Member.fresh with destroyed := true } := by
  have able : ∀ n, ∀ i < (Fixture.simulated 3).nodeCount, i ∉ (reluctant n).fabric.failProvision :=
    fun n i _ => List.not_mem_nil
  have bare : ∀ n, (reluctant n).fabric.layout = none := fun _ => rfl
  constructor
  · obtain ⟨g, made, deployed, ready, -, attempts, -, layout⟩ := (bootstrap_retries_counted
      .container (.ofNat 7) valid_simulated (bare 2) rfl (able 2)).1 (by decide)
    exact ⟨g, made, deployed, ready, attempts, layout⟩
  · obtain ⟨left, failed, attempts, failures, none, destroyed⟩ := (bootstrap_retries_counted
      .container (.ofNat 7) valid_simulated (bare 7) rfl (able 7)).2 (by decide)
    exact ⟨left, failed, attempts, failures, none,
      destroyed (endpointAt 2 9000) (List.mem_map_of_mem (List.mem_range.mpr (by decide))) List.not_mem_nil⟩

end launch

end Lab

end Simulation

end FaultLab
