import FaultLab.Failure
import FaultLab.Fixture

/-! # Waiting for a condition

A cluster takes its time to notice what was done to it, so a test waits.  A `Poller` takes a fresh
snapshot, looks whether the condition holds, and if not pauses for a fixed interval, until the
deadline has come.  The last snapshot is taken at the deadline itself.  A snapshot that cannot be
had counts as one on which the condition does not hold.

The deadline has to be a time that the clock will show, and the attempts are counted in thirty-two bits;
where either has no room the program ends. -/

namespace FaultLab

/-- What a test waits for, in words and as a property of snapshots. -/
structure Condition where
  text : String
  holds : Snapshot → Bool

namespace Condition

/-- The cluster is stable. -/
def stable : Condition := ⟨"cluster STABLE", Snapshot.isStable⟩

/-- The cluster is degraded. -/
def degraded : Condition := ⟨"cluster DEGRADED", Snapshot.isDegraded⟩

/-- The cluster is unavailable. -/
def unavailable : Condition := ⟨"cluster UNAVAILABLE", Snapshot.isUnavailable⟩

/-- So many servers are considered unresponsive. -/
def unresponsiveCount (n : Nat) : Condition :=
  ⟨s!"{n} unresponsive servers", Snapshot.unresponsiveCountIs n⟩

/-- An endpoint is considered unresponsive. -/
def unresponsive (e : Endpoint) : Condition := ⟨s!"{e} unresponsive", Snapshot.isUnresponsive e⟩

/-- An endpoint is not considered unresponsive. -/
def responsive (e : Endpoint) : Condition := ⟨s!"{e} responsive", Snapshot.isResponsive e⟩

/-- The layout is later than an epoch. -/
def layoutChange (baseline : UInt64) : Condition :=
  ⟨s!"epoch > {baseline.toNat}", Snapshot.epochAfter baseline⟩

/-- The layout has reached an epoch. -/
def epochAtLeast (epoch : UInt64) : Condition :=
  ⟨s!"epoch >= {epoch.toNat}", Snapshot.epochAtLeast epoch⟩

/-- A property of the layout. -/
def ofLayout (text : String) (holds : Layout → Bool) : Condition :=
  ⟨text, fun s => holds s.layout⟩

end Condition

/-- A condition that came about; the attempts include the one that saw it. -/
structure PollSuccess where
  snapshot : Snapshot
  attempts : Nat
  elapsed : Nat
deriving DecidableEq

/-- What became known in the attempts so far. -/
structure Seen where
  last : Option Snapshot
  lastError : Option String

/-- What an attempt adds to what is known; without an outcome the deadline came first. -/
def Seen.add (seen : Seen) : Option (Except ManagementError Snapshot) → Seen
  | some (.ok snapshot) => ⟨some snapshot, none⟩
  | some (.error e) => ⟨seen.last, some e.message⟩
  | none => ⟨seen.last, some "snapshot fetch did not finish before the deadline"⟩

/-- Waits for conditions on the snapshots of a client. -/
structure Poller (σ : Type) where
  client : ManagementClient σ
  policy : PollPolicy

namespace Poller

variable {σ : Type}

/-- The snapshot of an attempt on which the condition holds. -/
def satisfying (c : Condition) : Option (Except ManagementError Snapshot) → Option Snapshot
  | some (.ok snapshot) => if c.holds snapshot then some snapshot else none
  | _ => none

/-- The event that a snapshot cannot be had. -/
def fetchEvents (c : Condition) (attempts : Nat) :
    Option (Except ManagementError Snapshot) → List Event
  | some (.error e) => [.debug "snapshot fetch failed"
      [("condition", .fixed c.text), ("attempts", .ofNat attempts),
        ("error", .unless e.varies e.message)]]
  | _ => []

/-- The fields that say how long a wait took. -/
def waitFields (c : Condition) (attempts elapsed : Nat) : List (String × FieldText) :=
  [("condition", .fixed c.text), ("attempts", .ofNat attempts),
    ("elapsed", .fixed (Span.display elapsed))]

/-- The last number that attempts are counted with. -/
def maxAttempts : Nat := 0xffffffff

/-- Make attempts from the time `now` on; `attempts` were made, and there are numbers for `left` more. -/
def poll (p : Poller σ) (c : Condition) (now attempts : Nat) (seen : Seen) :
    Nat → Attempt σ Failure PollSuccess
  | 0 => Attempt.give (.error (.crashed .count))
  | left + 1 => do
    let attempts := attempts + 1
    let (fetched, took) ← Attempt.lift
      (Call.timed (Call.limit (p.policy.timeout - now) p.client.snapshot.toCall))
    let now := now + took
    match satisfying c fetched with
    | some snapshot =>
      Attempt.log (.debug "condition met" (waitFields c attempts now))
      return ⟨snapshot, attempts, now⟩
    | none =>
      Attempt.lift (Call.logAll (fetchEvents c attempts fetched))
      let seen := seen.add fetched
      if p.policy.timeout ≤ now then
        Attempt.log (.warn "condition not met" (waitFields c attempts now))
        Attempt.give (.error (.timedOut c.text now attempts seen.last seen.lastError))
      else
        Attempt.lift (Call.sleep (min p.policy.interval (p.policy.timeout - now)))
        poll p c (now + min p.policy.interval (p.policy.timeout - now)) attempts seen left

/-- Wait for a condition that nobody calls off. -/
def waitUncancelled (p : Poller σ) (c : Condition) : Attempt σ Failure PollSuccess :=
  p.poll c 0 0 ⟨none, none⟩ maxAttempts

/-- Wait for a condition; `since` is what the clock shows when the wait begins, and `signal` is when the
wait is called off, if it is. -/
def wait (p : Poller σ) (since : Nat) (signal : Option Nat) (c : Condition) :
    Attempt σ Failure PollSuccess := do
  Attempt.give (Deadline.set since p.policy.timeout)
  match ← Attempt.lift (Call.interruptAt signal (p.waitUncancelled c).toCall) with
  | some result => Attempt.give result
  | none =>
    Attempt.log (.info "wait cancelled" [("condition", .fixed c.text)])
    Attempt.give (.error (.cancelled c.text))

/-- Wait for a layout later than the present one. -/
def waitForNextEpoch (p : Poller σ) (since : Nat) (signal : Option Nat) :
    Attempt σ Failure PollSuccess := do
  let (fetched, took) ← Attempt.lift (Call.timed p.client.snapshot.toCall)
  match fetched with
  | .error e => Attempt.give (.error (.management e))
  | .ok snapshot =>
    p.wait (since + took) (signal.map fun t => t - took) (.layoutChange snapshot.layout.epoch)

end Poller

end FaultLab
