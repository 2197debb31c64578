import Mathlib.Algebra.Order.Floor.Div
import FaultLab.Poller
import FaultLab.Proofs.Timelines

/-! # Waits that keep their schedule

A client that `Plays` a script answers one fetch after the other as the script says, in no time.  The
attempts of a wait on such a client are `due` after each interval and at the deadline.

One attempt is looked at by itself: the condition holds (`poll_met`), or it does not and the deadline has
come (`poll_late`), or the wait pauses until the next attempt is due (`poll_missed`).  So a wait gets
through the attempts on which the condition does not hold (`reaches_attempt`), and what it ends with is
settled by the first one that is not of this kind (`wait_keeps_schedule`).

A signal is another end: what would come before it comes as it would, and the pause it falls into is
broken off (`wait_heeds_signal`).

All this is so where the clock will show the deadline and there are numbers for the attempts.  Otherwise the
program ends: before the first attempt if the clock will not show the deadline (`wait_unshown`), and at the
attempt for which there is no number (`waitUncancelled_worn`). -/

namespace FaultLab

namespace Condition

/-- Whether a condition holds on what was fetched. -/
def HoldsIn (c : Condition) : Except ManagementError Snapshot → Prop
  | .ok shot => c.holds shot = true
  | .error _ => False

instance (c : Condition) : DecidablePred c.HoldsIn
  | .ok shot => inferInstanceAs (Decidable (c.holds shot = true))
  | .error _ => inferInstanceAs (Decidable False)

theorem exists_of_holdsIn {c : Condition} {fetched : Except ManagementError Snapshot}
    (h : c.HoldsIn fetched) : ∃ shot, fetched = .ok shot ∧ c.holds shot = true := by
  cases fetched with
  | ok shot => exact ⟨shot, rfl, h⟩
  | error e => cases h

end Condition

/-- What there is to say about a fetch that failed. -/
def Poller.complaint : Except ManagementError Snapshot → Option String
  | .ok _ => none
  | .error e => some e.message

namespace ManagementClient
variable {σ : Type}

/-- The layout, and the report after it. -/
def fetch (client : ManagementClient σ) : Attempt σ ManagementError Snapshot := do
  let layout ← client.getLayout
  let status ← client.getStatus
  return ⟨layout, status⟩

/-- Whether a client that was told to read the layout anew answers as a script says, in no time, and so
gets from one of some states to the next. -/
structure Plays (client : ManagementClient σ) (script : Nat → Except ManagementError Snapshot)
    (states fresh : Nat → σ) : Prop where
  invalidate : ∀ k, client.invalidate.Leaves (states k) () (fresh k) 0
  fetch : ∀ k, client.fetch.toCall.Leaves (fresh k) (script k) (states (k + 1)) 0

/-- The steps of a fetch that comes after the layout was dropped. -/
def freshFetch (client : ManagementClient σ) (states fresh : Nat → σ) (k : Nat) : List (Nat × σ) :=
  client.invalidate.timeline (states k) ++ client.fetch.toCall.timeline (fresh k)

theorem Plays.snapshot {client : ManagementClient σ} {script : Nat → Except ManagementError Snapshot}
    {states fresh : Nat → σ} (plays : client.Plays script states fresh) (k : Nat) :
    client.snapshot.toCall.Reaches (states k) 0 (client.freshFetch states fresh k) (.done (script k))
      (states (k + 1)) := by
  have dropped : (Attempt.lift client.invalidate : Attempt σ ManagementError Unit).toCall.Reaches
      (states k) 0 _ (.done (.ok ())) (fresh k) := Attempt.reaches_lift (plays.invalidate k).reaches
  have whole := (Attempt.reaches_bind dropped fun _ => client.fetch).trans (plays.fetch k).reaches
  rwa [Call.later_zero] at whole

end ManagementClient

/-! ### What is known after some attempts -/

namespace Seen
variable {script : Nat → Except ManagementError Snapshot}

/-- What is known after the first attempts of a script. -/
def after (script : Nat → Except ManagementError Snapshot) : Nat → Seen
  | 0 => ⟨none, none⟩
  | n + 1 => (after script n).add (some (script n))

/-- The last snapshot among the first outcomes of a script. -/
def lastShot (script : Nat → Except ManagementError Snapshot) (n : Nat) : Option Snapshot :=
  ((List.range n).filterMap fun k => (script k).toOption).getLast?

theorem last_after (script : Nat → Except ManagementError Snapshot) (n : Nat) :
    (after script n).last = lastShot script n := by
  induction n with
  | zero => rfl
  | succ n ih =>
    rw [lastShot, List.range_succ, List.filterMap_append, after]
    cases h : script n with
    | ok shot => simp [add, h, Except.toOption]
    | error e =>
      have nothing : (script n).toOption = none := by rw [h, Except.toOption]
      simp only [List.filterMap_cons, nothing, List.filterMap_nil, List.append_nil]
      exact ih

theorem lastError_after (script : Nat → Except ManagementError Snapshot) (n : Nat) :
    (after script (n + 1)).lastError = Poller.complaint (script n) := by
  rw [after]
  cases h : script n with
  | ok shot => rfl
  | error e => rfl

end Seen

namespace Poller
variable {σ : Type} {p : Poller σ} {c : Condition} {script : Nat → Except ManagementError Snapshot}
  {states fresh : Nat → σ} {k n t : Nat}

/-! ### When attempts are due -/

/-- When an attempt is due: after so many intervals, but not after the deadline. -/
def due (p : Poller σ) (k : Nat) : Nat := min (k * p.policy.interval) p.policy.timeout

/-- The number of intervals until the deadline, the last of which may be cut short. -/
def rounds (p : Poller σ) : Nat := p.policy.timeout ⌈/⌉ p.policy.interval

theorem due_lt_iff (paced : 0 < p.policy.interval) (within : t ≤ p.policy.timeout) :
    p.due k < t ↔ k < t ⌈/⌉ p.policy.interval := by
  have ceil : t ⌈/⌉ p.policy.interval ≤ k ↔ t ≤ p.policy.interval * k := ceilDiv_le_iff_le_mul paced
  rw [Nat.mul_comm] at ceil
  unfold due
  omega

theorem due_lt_timeout_iff (paced : 0 < p.policy.interval) :
    p.due k < p.policy.timeout ↔ k < p.rounds := due_lt_iff paced (Nat.le_refl _)

theorem due_rounds (paced : 0 < p.policy.interval) : p.due p.rounds = p.policy.timeout := by
  have late := mt (due_lt_timeout_iff paced).mp (Nat.lt_irrefl p.rounds)
  have bound : p.due p.rounds ≤ p.policy.timeout := Nat.min_le_right _ _
  omega

theorem due_succ (p : Poller σ) (k : Nat) :
    p.due (k + 1) = p.due k + min p.policy.interval (p.policy.timeout - p.due k) := by
  unfold due
  rw [Nat.succ_mul]
  omega

/-- The steps of the first attempts, each of them when it is due. -/
def attempts (p : Poller σ) (states fresh : Nat → σ) (n : Nat) : List (Nat × σ) :=
  (List.range n).flatMap fun k => Call.later (p.due k) (p.client.freshFetch states fresh k)

theorem attempts_succ (p : Poller σ) (states fresh : Nat → σ) (n : Nat) :
    p.attempts states fresh (n + 1) =
      p.attempts states fresh n ++ Call.later (p.due n) (p.client.freshFetch states fresh n) := by
  simp [attempts, List.range_succ]

/-! ### One attempt -/

theorem satisfying_eq_none {fetched : Except ManagementError Snapshot} (unmet : ¬ c.HoldsIn fetched) :
    satisfying c (some fetched) = none := by
  cases fetched with
  | ok shot =>
    have no : ¬ c.holds shot = true := unmet
    rw [satisfying, if_neg no]
  | error e => rfl

section attempt
variable (plays : p.client.Plays script states fresh)
include plays

theorem reaches_fetched (k now : Nat) :
    (Call.timed (Call.limit (p.policy.timeout - now) p.client.snapshot.toCall)).Reaches (states k) 0
      (p.client.freshFetch states fresh k) (.done (some (script k), 0)) (states (k + 1)) :=
  ((plays.snapshot k).limit (Nat.zero_le _)).timed

theorem poll_met {shot : Snapshot} (fetched : script k = .ok shot) (met : c.holds shot = true)
    (now : Nat) (seen : Seen) (left : Nat) :
    (p.poll c now k seen (left + 1)).toCall.Reaches (states k) 0 (p.client.freshFetch states fresh k)
      (.done (.ok ⟨shot, k + 1, now⟩)) (states (k + 1)) := by
  have first := Attempt.reaches_lift (ε := Failure) (reaches_fetched plays k now)
  rw [poll]
  refine (Attempt.reaches_bind first _).at_once ?_
  have there : satisfying c (some (script k)) = some shot := by
    rw [fetched, satisfying, if_pos met]
  simp only [there]
  exact .note _ (.refl _ _)

/-- An attempt on which the condition does not hold is noted, and then it is the deadline that decides. -/
theorem poll_unmet (unmet : ¬ c.HoldsIn (script k)) (now : Nat) (seen : Seen) (left : Nat) :
    (p.poll c now k seen (left + 1)).toCall.Reaches (states k) 0 (p.client.freshFetch states fresh k)
      (if p.policy.timeout ≤ now then do
        Attempt.log (.warn "condition not met" (waitFields c (k + 1) now))
        Attempt.give (.error (.timedOut c.text now (k + 1) (seen.add (some (script k))).last
          (seen.add (some (script k))).lastError))
      else do
        Attempt.lift (Call.sleep (min p.policy.interval (p.policy.timeout - now)))
        p.poll c (now + min p.policy.interval (p.policy.timeout - now)) (k + 1)
          (seen.add (some (script k))) left : Attempt σ Failure PollSuccess).toCall (states (k + 1)) := by
  have first := Attempt.reaches_lift (ε := Failure) (reaches_fetched plays k now)
  have told := Attempt.reaches_lift (ε := Failure)
    (Call.reaches_logAll (fetchEvents c (k + 1) (some (script k))) (states (k + 1)))
  rw [poll]
  refine (Attempt.reaches_bind first _).at_once ?_
  simp only [satisfying_eq_none unmet, Nat.add_zero]
  exact Attempt.reaches_bind told _

theorem poll_late (unmet : ¬ c.HoldsIn (script k)) {now : Nat} (late : p.policy.timeout ≤ now)
    (seen : Seen) (left : Nat) :
    (p.poll c now k seen (left + 1)).toCall.Reaches (states k) 0 (p.client.freshFetch states fresh k)
      (.done (.error (.timedOut c.text now (k + 1) (seen.add (some (script k))).last
        (seen.add (some (script k))).lastError))) (states (k + 1)) := by
  have ends := poll_unmet plays unmet now seen left
  rw [if_pos late] at ends
  exact ends.at_once (.note _ (.refl _ _))

theorem poll_missed (unmet : ¬ c.HoldsIn (script k)) {now : Nat} (early : now < p.policy.timeout)
    (seen : Seen) (left : Nat) :
    (p.poll c now k seen (left + 1)).toCall.Reaches (states k) 0 (p.client.freshFetch states fresh k)
      (.pause (min p.policy.interval (p.policy.timeout - now))
        (p.poll c (now + min p.policy.interval (p.policy.timeout - now)) (k + 1)
          (seen.add (some (script k))) left).toCall) (states (k + 1)) := by
  have goes := poll_unmet plays unmet now seen left
  rwa [if_neg (not_le.mpr early)] at goes

/-! ### A wait -/

/-- A wait gets through the attempts on which the condition does not hold. -/
theorem reaches_attempt (paced : 0 < p.policy.interval) (within : n ≤ p.rounds)
    (missed : ∀ j < n, ¬ c.HoldsIn (script j)) (left : Nat) :
    (p.poll c 0 0 ⟨none, none⟩ (n + left)).toCall.Reaches (states 0) (p.due n)
      (p.attempts states fresh n) (p.poll c (p.due n) n (Seen.after script n) left).toCall
      (states n) := by
  induction n generalizing left with
  | zero =>
    have start : p.due 0 = 0 := by simp [due]
    rw [start, Nat.zero_add]
    exact .refl _ _
  | succ n ih =>
    have before := ih (by omega) (fun j hj => missed j (by omega)) (left + 1)
    have early : p.due n < p.policy.timeout := (due_lt_timeout_iff paced).mpr (by omega)
    have attempt := poll_missed plays (missed n (by omega)) early (Seen.after script n) left
    rw [← due_succ] at attempt
    have round := attempt.trans ((Call.Reaches.refl _ _).pause _)
    have whole := before.trans round
    simp only [Nat.zero_add, Nat.add_zero, ← due_succ, Call.later_nil, List.append_nil,
      ← attempts_succ] at whole
    rw [Nat.succ_add_eq_add_succ]
    exact whole

theorem waitUncancelled_met (paced : 0 < p.policy.interval) (within : k ≤ p.rounds)
    (counted : k < maxAttempts) {shot : Snapshot} (fetched : script k = .ok shot) (met : c.holds shot = true)
    (missed : ∀ j < k, ¬ c.HoldsIn (script j)) :
    (p.waitUncancelled c).toCall.Reaches (states 0) (p.due k) (p.attempts states fresh (k + 1))
      (.done (.ok ⟨shot, k + 1, p.due k⟩)) (states (k + 1)) := by
  obtain ⟨left, enough⟩ : ∃ left, maxAttempts = k + (left + 1) := ⟨maxAttempts - k - 1, by omega⟩
  have before := reaches_attempt plays paced within missed (left + 1)
  have last := poll_met plays fetched met (p.due k) (Seen.after script k) left
  rw [waitUncancelled, enough, attempts_succ]
  exact before.trans last

theorem waitUncancelled_late (paced : 0 < p.policy.interval) (counted : p.rounds < maxAttempts)
    (missed : ∀ j ≤ p.rounds, ¬ c.HoldsIn (script j)) :
    (p.waitUncancelled c).toCall.Reaches (states 0) p.policy.timeout
      (p.attempts states fresh (p.rounds + 1)) (.done (.error (.timedOut c.text p.policy.timeout
        (p.rounds + 1) (Seen.lastShot script (p.rounds + 1)) (complaint (script p.rounds)))))
      (states (p.rounds + 1)) := by
  obtain ⟨left, enough⟩ : ∃ left, maxAttempts = p.rounds + (left + 1) :=
    ⟨maxAttempts - p.rounds - 1, by omega⟩
  have before := reaches_attempt plays paced (Nat.le_refl _) (fun j hj => missed j (by omega)) (left + 1)
  have last := poll_late plays (missed p.rounds (Nat.le_refl _)) (Nat.le_of_eq (due_rounds paced).symm)
    (Seen.after script p.rounds) left
  have known : (Seen.after script p.rounds).add (some (script p.rounds)) =
      Seen.after script (p.rounds + 1) := rfl
  rw [known, Seen.last_after, Seen.lastError_after] at last
  have whole := before.trans last
  rw [Nat.add_zero, due_rounds paced] at whole
  rwa [waitUncancelled, enough, attempts_succ, due_rounds paced]

/-- Where there is no number for the next attempt, the wait ends the program. -/
theorem waitUncancelled_worn (paced : 0 < p.policy.interval) (many : maxAttempts ≤ p.rounds)
    (missed : ∀ j < maxAttempts, ¬ c.HoldsIn (script j)) :
    (p.waitUncancelled c).toCall.Reaches (states 0) (p.due maxAttempts)
      (p.attempts states fresh maxAttempts) (.done (.error (.crashed .count))) (states maxAttempts) := by
  have before := reaches_attempt plays paced many missed 0
  rw [Nat.add_zero] at before
  exact before

end attempt

section wait
variable {signal : Option Nat} {s u : σ} {d since : Nat} {found : List (Nat × σ)}
  {r : Except Failure PollSuccess}

/-- A deadline that the clock will not show ends the program, whatever there is to see. -/
theorem wait_unshown (late : ¬ Deadline.Shown since p.policy.timeout) (signal : Option Nat)
    (c : Condition) (s : σ) :
    (p.wait since signal c).toCall.Reaches s 0 [] (.done (.error (.crashed .deadline))) s := by
  rw [wait, Deadline.set_of_not_shown late]
  exact .refl _ _

theorem wait_result (shown : Deadline.Shown since p.policy.timeout)
    (h : (Call.interruptAt signal (p.waitUncancelled c).toCall).Reaches s d found (.done (some r)) u) :
    (p.wait since signal c).toCall.Reaches s d found (.done r) u := by
  have first := Attempt.reaches_lift (ε := Failure) h
  rw [wait, Deadline.set_of_shown shown]
  exact Attempt.reaches_bind first _

theorem wait_called_off (shown : Deadline.Shown since p.policy.timeout)
    (h : (Call.interruptAt signal (p.waitUncancelled c).toCall).Reaches s d found (.done none) u) :
    (p.wait since signal c).toCall.Reaches s d found (.done (.error (.cancelled c.text))) u := by
  have first := Attempt.reaches_lift (ε := Failure) h
  rw [wait, Deadline.set_of_shown shown]
  exact (Attempt.reaches_bind first _).at_once (.note _ (.refl _ _))

/-- Whether a signal never comes or is to come later, a wait ends as it would. -/
theorem wait_unsignalled (shown : Deadline.Shown since p.policy.timeout)
    (h : (p.waitUncancelled c).toCall.Reaches s d found (.done r) u) (after : ∀ t ∈ signal, d < t) :
    (p.wait since signal c).toCall.Reaches s d found (.done r) u := by
  refine wait_result shown ?_
  cases signal with
  | none => exact h.bind _
  | some t =>
    have early : d < t := after t rfl
    obtain ⟨left, under⟩ : ∃ left, t - d = left + 1 := ⟨t - d - 1, by omega⟩
    have whole := h.interrupt early
    rw [under] at whole
    exact whole

end wait

/-! ### A client that plays any script -/

/-- How far a script has been played, and whether the next layout is read anew. -/
structure Replay where
  played : Nat
  fresh : Bool

namespace Replay

/-- After one more outcome. -/
def next (r : Replay) : Replay := ⟨r.played + 1, false⟩

/-- Plays a script to those who have the layout read anew; the outcome of a fetch counts as played with
its last part. -/
def client (script : Nat → Except ManagementError Snapshot) : ManagementClient Replay where
  getLayout := .ofCall <| .atomically fun r =>
    if r.fresh then
      match script r.played with
      | .ok shot => (.ok shot.layout, r)
      | .error e => (.error e, r.next)
    else (.error .transport, r)
  getStatus := .ofCall <| .atomically fun r => ((script r.played).map Snapshot.status, r.next)
  invalidate := .modify fun r => { r with fresh := true }
  bootstrap _ := .give (.error .alreadyBootstrapped)
  add e _ := .give (.error (.unknownEndpoint e))
  remove e _ := .give (.error (.unknownEndpoint e))
  reset e := .give (.error (.unknownEndpoint e))

theorem plays (script : Nat → Except ManagementError Snapshot) :
    (client script).Plays script (fun k => ⟨k, false⟩) fun k => ⟨k, true⟩ := by
  refine ⟨fun k => ⟨rfl, rfl⟩, fun k => ?_⟩
  have prompt : (client script).getLayout.toCall.elapsed ⟨k, true⟩ = 0 := rfl
  cases h : script k with
  | ok shot =>
    have layout : (client script).getLayout.result ⟨k, true⟩ = (.ok shot.layout, ⟨k, true⟩) := by
      simp [client, h]
    have status : (client script).getStatus.result ⟨k, true⟩ = (.ok shot.status, ⟨k + 1, false⟩) := by
      simp [client, h, Except.map, next]
    constructor
    · change Attempt.result _ _ = _
      simp only [ManagementClient.fetch, Attempt.result_bind, layout, status, Attempt.result_pure]
    · simp only [ManagementClient.fetch, Attempt.elapsed_bind, layout, prompt, status]
      rfl
  | error e =>
    have layout : (client script).getLayout.result ⟨k, true⟩ = (.error e, ⟨k + 1, false⟩) := by
      simp [client, h, next]
    constructor
    · change Attempt.result _ _ = _
      simp only [ManagementClient.fetch, Attempt.result_bind, layout]
    · simp only [ManagementClient.fetch, Attempt.elapsed_bind, layout, prompt]

/-- A stable cluster at an epoch. -/
def shown (epoch : UInt64) : Snapshot where
  layout := { Layout.initial [] default with epoch }
  status := ⟨.stable, .empty, .empty, .strongQuorum⟩

/-- A gateway that is down at first and then shows one epoch after the other. -/
def rising : Nat → Except ManagementError Snapshot
  | 0 => .error .gatewayDown
  | k + 1 => .ok (shown k.toUInt64)

/-- A gateway that shows the first epoch. -/
def steady (_ : Nat) : Except ManagementError Snapshot := .ok (shown 1)

/-- Waits on a gateway that comes up, with a deadline in the middle of an interval. -/
def poller : Poller Replay := ⟨client rising, ⟨5, 12⟩⟩

end Replay

/-- **A wait keeps its schedule**: it ends with the first attempt on which the condition holds, or else
with the attempt at the deadline, and makes all attempts up to that one when they are due. -/
theorem wait_keeps_schedule (plays : p.client.Plays script states fresh) (paced : 0 < p.policy.interval)
    {since : Nat} (shown : Deadline.Shown since p.policy.timeout) (c : Condition) :
    (∀ k ≤ p.rounds, k < maxAttempts → ∀ shot, script k = .ok shot → c.holds shot = true →
      (∀ j < k, ¬ c.HoldsIn (script j)) →
      (p.wait since none c).toCall.Reaches (states 0) (p.due k) (p.attempts states fresh (k + 1))
        (.done (.ok ⟨shot, k + 1, p.due k⟩)) (states (k + 1))) ∧
    (p.rounds < maxAttempts → (∀ k ≤ p.rounds, ¬ c.HoldsIn (script k)) →
      (p.wait since none c).toCall.Reaches (states 0) p.policy.timeout
        (p.attempts states fresh (p.rounds + 1))
        (.done (.error (.timedOut c.text p.policy.timeout (p.rounds + 1)
          (Seen.lastShot script (p.rounds + 1)) (complaint (script p.rounds)))))
        (states (p.rounds + 1))) := by
  have unsignalled : ∀ d, ∀ t ∈ (none : Option Nat), d < t := fun _ _ h => nomatch h
  constructor
  · intro k within counted shot fetched met missed
    have ends := waitUncancelled_met plays paced within counted fetched met missed
    exact wait_unsignalled shown ends (unsignalled _)
  · intro counted missed
    exact wait_unsignalled shown (waitUncancelled_late plays paced counted missed) (unsignalled _)

/-- The second epoch is seen at the third attempt; the tenth is not seen in four attempts. -/
theorem wait_on_rising_gateway :
    (Replay.poller.wait 20 none (.epochAtLeast 1)).toCall.Reaches ⟨0, false⟩ 10
      (Replay.poller.attempts (fun k => ⟨k, false⟩) (fun k => ⟨k, true⟩) 3)
      (.done (.ok ⟨Replay.shown 1, 3, 10⟩)) ⟨3, false⟩ ∧
    (Replay.poller.wait 20 none (.epochAtLeast 9)).toCall.Reaches ⟨0, false⟩ 12
      (Replay.poller.attempts (fun k => ⟨k, false⟩) (fun k => ⟨k, true⟩) 4)
      (.done (.error (.timedOut "epoch >= 9" 12 4 (some (Replay.shown 2)) none))) ⟨4, false⟩ :=
  ⟨(wait_keeps_schedule (p := Replay.poller) (Replay.plays Replay.rising) (by decide)
      (by decide : Deadline.Shown 20 12)
      (.epochAtLeast 1)).1 2 (by decide) (by decide) _ rfl (by decide) (by decide),
    (wait_keeps_schedule (p := Replay.poller) (Replay.plays Replay.rising) (by decide)
      (by decide : Deadline.Shown 20 12)
      (.epochAtLeast 9)).2 (by decide) (by decide)⟩

/-- What is to be seen is there from the start, and two attempts would do; but as the deadline is later than
any time that a clock shows, the program ends before the first. -/
theorem wait_ends_program :
    let p : Poller Replay := ⟨Replay.client Replay.steady, ⟨Span.horizon, Span.horizon⟩⟩
    p.client.Plays Replay.steady (fun k => ⟨k, false⟩) (fun k => ⟨k, true⟩) ∧ 0 < p.policy.interval ∧
      p.rounds < maxAttempts ∧ (Condition.epochAtLeast 1).HoldsIn (Replay.steady 0) ∧
      (p.wait 0 none (.epochAtLeast 1)).toCall.Reaches ⟨0, false⟩ 0 [] (.done (.error (.crashed .deadline)))
        ⟨0, false⟩ :=
  ⟨Replay.plays Replay.steady, by decide, by decide, by decide, wait_unshown (by decide) _ _ _⟩

/-! ### Signals -/

/-- A wait that nobody calls off is over by its deadline, if only because the attempts cannot be counted. -/
theorem exists_waitUncancelled (plays : p.client.Plays script states fresh)
    (paced : 0 < p.policy.interval) (c : Condition) :
    ∃ d found r u, d ≤ p.policy.timeout ∧
      (p.waitUncancelled c).toCall.Reaches (states 0) d found (.done r) u := by
  by_cases some : ∃ k, k ≤ p.rounds ∧ k < maxAttempts ∧ c.HoldsIn (script k)
  · obtain ⟨within, counted, held⟩ := Nat.find_spec some
    obtain ⟨shot, fetched, met⟩ := Condition.exists_of_holdsIn held
    have missed : ∀ j < Nat.find some, ¬ c.HoldsIn (script j) := by
      intro j hj held
      exact Nat.find_min some hj ⟨by omega, by omega, held⟩
    exact ⟨_, _, _, _, Nat.min_le_right _ _,
      waitUncancelled_met plays paced within counted fetched met missed⟩
  · have missed : ∀ j, j ≤ p.rounds → j < maxAttempts → ¬ c.HoldsIn (script j) :=
      fun j within counted held => some ⟨j, within, counted, held⟩
    by_cases counted : p.rounds < maxAttempts
    · exact ⟨_, _, _, _, Nat.le_refl _,
        waitUncancelled_late plays paced counted fun j hj => missed j hj (by omega)⟩
    · exact ⟨_, _, _, _, Nat.min_le_right _ _,
        waitUncancelled_worn plays paced (by omega) fun j hj => missed j (by omega) hj⟩

/-- A signal that comes between two attempts breaks off the pause between them. -/
theorem interrupt_waitUncancelled (plays : p.client.Plays script states fresh)
    (paced : 0 < p.policy.interval) (within : t ≤ p.policy.timeout)
    (counted : t ⌈/⌉ p.policy.interval ≤ maxAttempts)
    (missed : ∀ k, p.due k < t → ¬ c.HoldsIn (script k)) :
    (Call.interrupt t (p.waitUncancelled c).toCall).Reaches (states 0) t
      (p.attempts states fresh (t ⌈/⌉ p.policy.interval)) (.done none)
      (states (t ⌈/⌉ p.policy.interval)) := by
  have count := fun k => due_lt_iff (k := k) paced within
  generalize t ⌈/⌉ p.policy.interval = n at count counted ⊢
  cases n with
  | zero =>
    have start : p.due 0 = 0 := by simp [due]
    have first := (count 0).not.mpr (Nat.lt_irrefl 0)
    obtain rfl : t = 0 := by omega
    exact .of_interrupt_zero _ _
  | succ m =>
    have under : p.due m < t := (count m).mpr (Nat.lt_succ_self m)
    have next := (count (m + 1)).not.mpr (Nat.lt_irrefl _)
    have early : p.due m < p.policy.timeout := by omega
    have inside : m < p.rounds := (due_lt_timeout_iff paced).mp early
    obtain ⟨left, enough⟩ : ∃ left, maxAttempts = m + (left + 1) := ⟨maxAttempts - m - 1, by omega⟩
    have before := reaches_attempt plays paced (Nat.le_of_lt inside)
      (fun j hj => missed j ((count j).mpr (by omega))) (left + 1)
    have last := poll_missed plays (missed m under) early (Seen.after script m) left
    have paused := (before.trans last).interrupt (n := t) under
    obtain ⟨short, remains⟩ : ∃ short, t - p.due m = short + 1 := ⟨t - p.due m - 1, by omega⟩
    rw [due_succ] at next
    simp only [Nat.add_zero] at paused
    rw [remains, Call.interrupt, if_neg (by omega)] at paused
    have whole := paused.trans ((Call.Reaches.refl _ _).pause _)
    have ends : p.due m + (short + 1 + 0) = t := by omega
    rw [ends, Call.later_nil, Call.later_nil, List.append_nil, ← attempts_succ] at whole
    rwa [waitUncancelled, enough]

/-- **A wait heeds its signal**: before the signal it goes on as if there was none, and at the instant of
the signal it is called off. -/
theorem wait_heeds_signal (p : Poller σ) {since : Nat} (shown : Deadline.Shown since p.policy.timeout)
    (c : Condition) :
    (∀ s, (p.wait since (some 0) c).toCall.Reaches s 0 [] (.done (.error (.cancelled c.text))) s) ∧
    ∀ script states fresh, p.client.Plays script states fresh → 0 < p.policy.interval → ∀ t,
      (∀ k ≤ p.rounds, k < maxAttempts → p.due k < t → ∀ shot, script k = .ok shot → c.holds shot = true →
        (∀ j < k, ¬ c.HoldsIn (script j)) →
        (p.wait since (some t) c).toCall.Reaches (states 0) (p.due k) (p.attempts states fresh (k + 1))
          (.done (.ok ⟨shot, k + 1, p.due k⟩)) (states (k + 1))) ∧
      (p.policy.timeout < t → ∀ d found r u,
        (p.wait since none c).toCall.Reaches (states 0) d found (.done r) u →
        (p.wait since (some t) c).toCall.Reaches (states 0) d found (.done r) u) ∧
      (t ≤ p.policy.timeout → t ⌈/⌉ p.policy.interval ≤ maxAttempts →
        (∀ k, p.due k < t → ¬ c.HoldsIn (script k)) →
        (p.wait since (some t) c).toCall.Reaches (states 0) t
          (p.attempts states fresh (t ⌈/⌉ p.policy.interval)) (.done (.error (.cancelled c.text)))
          (states (t ⌈/⌉ p.policy.interval)) ∧
        ∀ k, p.due k < t ↔ k < t ⌈/⌉ p.policy.interval) := by
  refine ⟨fun s => wait_called_off shown (.of_interrupt_zero _ s),
    fun script states fresh plays paced t => ⟨?before, ?never, ?within⟩⟩
  case before =>
    intro k within counted early shot fetched met missed
    refine wait_unsignalled shown (waitUncancelled_met plays paced within counted fetched met missed) ?_
    rintro _ ⟨⟩
    exact early
  case never =>
    intro late d found r u h
    obtain ⟨d', found', r', u', bound, ends⟩ := exists_waitUncancelled plays paced c
    have same : (p.wait since none c).toCall.Reaches (states 0) d' found' (.done r') u' :=
      wait_unsignalled shown ends fun _ h => nomatch h
    obtain ⟨rfl, rfl, rfl, rfl⟩ := h.unique same
    refine wait_unsignalled shown ends ?_
    rintro _ ⟨⟩
    omega
  case within =>
    intro within counted missed
    exact ⟨wait_called_off shown (interrupt_waitUncancelled plays paced within counted missed),
      fun k => due_lt_iff paced within⟩

/-- Called off at seven, a wait has made two attempts; with a signal at eleven the condition has come about
before, and with one at thirteen the deadline has come. -/
theorem wait_on_rising_gateway_heeds_signal :
    (Replay.poller.wait 20 (some 7) (.epochAtLeast 1)).toCall.Reaches ⟨0, false⟩ 7
      (Replay.poller.attempts (fun k => ⟨k, false⟩) (fun k => ⟨k, true⟩) 2)
      (.done (.error (.cancelled "epoch >= 1"))) ⟨2, false⟩ ∧
    (Replay.poller.wait 20 (some 11) (.epochAtLeast 1)).toCall.Reaches ⟨0, false⟩ 10
      (Replay.poller.attempts (fun k => ⟨k, false⟩) (fun k => ⟨k, true⟩) 3)
      (.done (.ok ⟨Replay.shown 1, 3, 10⟩)) ⟨3, false⟩ ∧
    ∀ d found r u,
      (Replay.poller.wait 20 none (.epochAtLeast 9)).toCall.Reaches ⟨0, false⟩ d found (.done r) u →
      (Replay.poller.wait 20 (some 13) (.epochAtLeast 9)).toCall.Reaches ⟨0, false⟩ d found (.done r) u := by
  have heeds := fun c t => (wait_heeds_signal Replay.poller (by decide : Deadline.Shown 20 12) c).2 _ _ _
    (Replay.plays Replay.rising) (by decide) t
  refine ⟨?within, ?before, ?never⟩
  case within =>
    refine ((heeds (.epochAtLeast 1) 7).2.2 (by decide) (by decide) fun k early => ?_).1
    have first : k < 2 := (due_lt_iff (p := Replay.poller) (by decide) (by decide)).mp early
    have missed : ∀ k < 2, ¬ (Condition.epochAtLeast 1).HoldsIn (Replay.rising k) := by decide
    exact missed k first
  case before =>
    exact (heeds (.epochAtLeast 1) 11).1 2 (by decide) (by decide) (by decide) _ rfl (by decide) (by decide)
  case never => exact (heeds (.epochAtLeast 9) 13).2.1 (by decide)

/-- Two waits that are to be called off and end the program instead: one with a signal that is there already,
as no clock shows its deadline, and one that makes an attempt every other nanosecond and has no number for
the last before its signal. -/
theorem signal_comes_too_late :
    (let p : Poller Replay := ⟨Replay.client Replay.steady, ⟨5, Span.horizon⟩⟩
     (p.wait 0 (some 0) (.epochAtLeast 9)).toCall.Reaches ⟨0, false⟩ 0 []
       (.done (.error (.crashed .deadline))) ⟨0, false⟩) ∧
    (let p : Poller Replay := ⟨Replay.client Replay.steady, ⟨2, 2 ^ 34⟩⟩
     Deadline.Shown 0 p.policy.timeout ∧ p.due (maxAttempts - 1) < p.due maxAttempts ∧
       p.due maxAttempts < 2 ^ 33 - 1 ∧ 2 ^ 33 - 1 < p.due (maxAttempts + 1) ∧
       (p.wait 0 (some (2 ^ 33 - 1)) (.epochAtLeast 9)).toCall.Reaches ⟨0, false⟩ (p.due maxAttempts)
         (p.attempts (fun k => ⟨k, false⟩) (fun k => ⟨k, true⟩) maxAttempts)
         (.done (.error (.crashed .count))) ⟨maxAttempts, false⟩) := by
  refine ⟨wait_unshown (by decide) _ _ _, ?_⟩
  intro p
  have shown : Deadline.Shown 0 p.policy.timeout := by decide
  have before : p.due maxAttempts < 2 ^ 33 - 1 := by decide
  have missed : ¬ (Condition.epochAtLeast 9).HoldsIn (.ok (Replay.shown 1)) := by decide
  have worn := waitUncancelled_worn (p := p) (Replay.plays Replay.steady) (by decide) (by decide)
    fun j _ => missed
  refine ⟨shown, by decide, before, by decide, wait_unsignalled shown worn ?_⟩
  rintro _ ⟨⟩
  exact before

end Poller

end FaultLab
