import FaultLab.Span
import FaultLab.Event
import FaultLab.Part

/-! # Calls in virtual time

A `Call σ α` is a computation over a shared state `σ` that answers with an `α`.  It is a tree of
four kinds of node: it is `done`; it lets time `pause` for a span; it adds a `note` to the
journal; or it takes one atomic `step` on the shared state and goes on according to the state it
found.  Time moves in pauses alone, and nothing else can happen between two of them, so a
`step` is what a lock protects and a `pause` is where other calls get their turn.  Pauses and limits are
exact to the nanosecond; that the timers of a runtime tick in milliseconds is idealised away.

* `Call.run` lets a call run by itself from a state and gives its answer, the state it leaves,
  the time it took and the events it noted.
* `Call.limit` cuts a call off at a deadline, `Call.interrupt` at the instant of an outside
  signal.  The two differ on a call that wakes at that very instant: it still makes the
  deadline, but the signal comes first.
* `Call.beside` and `Call.together` let several calls take turns in order of time; of calls that
  wake at the same instant the earlier in the list goes first.
* `Call.focus` lets a call on a part of the state run on the whole. -/

namespace FaultLab

/-- A computation on the shared state `σ` in virtual time, with answer `α`. -/
inductive Call (σ α : Type) where
  /-- The answer. -/
  | done (value : α)
  /-- Let `span` pass, then go on. -/
  | pause (span : Nat) (rest : Call σ α)
  /-- Add to the journal, then go on. -/
  | note (event : Event) (rest : Call σ α)
  /-- Replace the state `s` by `act s` and go on as `rest s`. -/
  | step (act : σ → σ) (rest : σ → Call σ α)

namespace Call

variable {σ τ α β γ : Type}

/-- Go on with `f` at the answer of a call. -/
def bind : Call σ α → (α → Call σ β) → Call σ β
  | done a, f => f a
  | pause d rest, f => pause d (bind rest f)
  | note e rest, f => note e (bind rest f)
  | step act rest, f => step act fun s => bind (rest s) f

instance : Monad (Call σ) where
  pure := done
  bind := bind

@[simp] theorem pure_eq (a : α) : (pure a : Call σ α) = done a := rfl

@[simp] theorem bind_eq (c : Call σ α) (f : α → Call σ β) : c >>= f = bind c f := rfl

theorem bind_done (c : Call σ α) : bind c done = c := by
  induction c with
  | done a => rfl
  | pause d rest ih => simp [bind, ih]
  | note e rest ih => simp [bind, ih]
  | step act rest ih => simp [bind, ih]

theorem bind_assoc (c : Call σ α) (f : α → Call σ β) (g : β → Call σ γ) :
    bind (bind c f) g = bind c fun a => bind (f a) g := by
  induction c with
  | done a => rfl
  | pause d rest ih => simp [bind, ih]
  | note e rest ih => simp [bind, ih]
  | step act rest ih => simp [bind, ih]

instance : LawfulMonad (Call σ) :=
  LawfulMonad.mk' (Call σ) bind_done (fun _ _ => rfl) bind_assoc

/-- One atomic section: `f` gives the answer and the state that it leaves. -/
def atomically (f : σ → α × σ) : Call σ α := step (fun s => (f s).2) fun s => done (f s).1

/-- One atomic change of the state. -/
def modify (f : σ → σ) : Call σ Unit := step f fun _ => done ()

/-- One atomic look at the state. -/
def read (f : σ → α) : Call σ α := step id fun s => done (f s)

/-- Let time pass. -/
def sleep (span : Nat) : Call σ Unit := pause span (done ())

/-- Let time pass unless the span is empty. -/
def sleepIfAny (span : Nat) : Call σ Unit := if span = 0 then done () else sleep span

/-- Add an event to the journal. -/
def log (event : Event) : Call σ Unit := note event (done ())

/-- Add some events to the journal. -/
def logAll : List Event → Call σ Unit
  | [] => done ()
  | e :: es => note e (logAll es)

/-! ### Running a call by itself -/

/-- What a finished call leaves behind. -/
structure Run (σ α : Type) where
  value : α
  state : σ
  elapsed : Nat
  events : List Event

/-- Run a call by itself from the state `s`. -/
def run : Call σ α → σ → Run σ α
  | done a, s => ⟨a, s, 0, []⟩
  | pause d rest, s => let r := run rest s; { r with elapsed := d + r.elapsed }
  | note e rest, s => let r := run rest s; { r with events := e :: r.events }
  | step act rest, s => run (rest s) (act s)

@[simp] theorem run_done (a : α) (s : σ) : (done a).run s = ⟨a, s, 0, []⟩ := rfl

@[simp] theorem run_atomically (f : σ → α × σ) (s : σ) :
    (atomically f).run s = ⟨(f s).1, (f s).2, 0, []⟩ := rfl

theorem run_bind (c : Call σ α) (f : α → Call σ β) (s : σ) :
    (bind c f).run s =
      let r := c.run s
      let q := (f r.value).run r.state
      ⟨q.value, q.state, r.elapsed + q.elapsed, r.events ++ q.events⟩ := by
  induction c generalizing s with
  | done a => simp [bind, run]
  | pause d rest ih => simp [bind, run, ih, Nat.add_assoc]
  | note e rest ih => simp [bind, run, ih]
  | step act rest ih => simp [bind, run, ih]

/-! ### Deadlines, interruptions and clocks -/

/-- Cut a call off when `span` has passed; a call that finishes just then has made it. -/
def limit : Nat → Call σ α → Call σ (Option α)
  | _, done a => done (some a)
  | t, pause d rest => if d ≤ t then pause d (limit (t - d) rest) else pause t (done none)
  | t, note e rest => note e (limit t rest)
  | t, step act rest => step act fun s => limit t (rest s)

/-- Break a call off at the instant of a signal that comes after `span`; what would happen at that
very instant no longer does. -/
def interrupt : Nat → Call σ α → Call σ (Option α)
  | 0, _ => done none
  | _ + 1, done a => done (some a)
  | t + 1, pause d rest =>
    if d < t + 1 then pause d (interrupt (t + 1 - d) rest) else pause (t + 1) (done none)
  | t + 1, note e rest => note e (interrupt (t + 1) rest)
  | t + 1, step act rest => step act fun s => interrupt (t + 1) (rest s)

/-- Break a call off at a signal, if there is one. -/
def interruptAt (signal : Option Nat) (c : Call σ α) : Call σ (Option α) :=
  match signal with
  | none => bind c fun a => done (some a)
  | some t => interrupt t c

/-- The answer of a call with the time that the call took. -/
def timed : Call σ α → Call σ (α × Nat)
  | done a => done (a, 0)
  | pause d rest => pause d (bind (timed rest) fun (a, t) => done (a, d + t))
  | note e rest => note e (timed rest)
  | step act rest => step act fun s => timed (rest s)

/-! ### Calls side by side -/

/-- Let `c` run while `d` passes and hand what is left of it to `next`.  A step of `c` that is due
when `d` has passed is left. -/
def during (d : Nat) (next : Call σ β → Call σ γ) : Call σ β → Call σ γ
  | done b => pause d (next (done b))
  | pause e rest =>
    if d ≤ e then pause d (next (pause (e - d) rest)) else pause e (during (d - e) next rest)
  | note e rest => note e (during d next rest)
  | step act rest => step act fun s => during d next (rest s)

/-- Run the first call while the second takes its turns in the pauses; the answer comes with what
is left of the second call. -/
def beside : Call σ α → Call σ β → Call σ (α × Call σ β)
  | done a, other => done (a, other)
  | pause d rest, other => during d (fun left => beside rest left) other
  | note e rest, other => note e (beside rest other)
  | step act rest, other => step act fun s => beside (rest s) other

/-- Run calls side by side until all are done. -/
def together : List (Call σ α) → Call σ (List α)
  | [] => done []
  | c :: cs =>
    bind (beside c (together cs)) fun (a, left) => bind left fun as => done (a :: as)

/-! ### Parts of the state -/

/-- Run a call on a part of the state. -/
def focus (p : Part σ τ) : Call τ α → Call σ α
  | done a => done a
  | pause d rest => pause d (focus p rest)
  | note e rest => note e (focus p rest)
  | step act rest => step (p.modify act) fun s => focus p (rest (p.get s))

end Call

namespace Part

variable {σ τ : Type}

/-- Look at a part. -/
def read (p : Part σ τ) : Call σ τ := Call.read p.get

/-- Replace a part. -/
def write (p : Part σ τ) (a : τ) : Call σ Unit := Call.modify (p.set a)

/-- Change a part. -/
def change (p : Part σ τ) (f : τ → τ) : Call σ Unit := Call.modify (p.modify f)

end Part

/-- A call that may fail with an `ε`. -/
abbrev Attempt (σ ε α : Type) := ExceptT ε (Call σ) α

namespace Attempt

variable {σ ε ε' α : Type}

/-- The call that an attempt makes. -/
def toCall (c : Attempt σ ε α) : Call σ (Except ε α) := c

/-- The attempt that a call with an outcome makes. -/
def ofCall (c : Call σ (Except ε α)) : Attempt σ ε α := c

/-- An attempt that cannot fail. -/
def lift (c : Call σ α) : Attempt σ ε α := ofCall (Call.bind c fun a => .done (.ok a))

/-- Make an attempt and look at its outcome. -/
def outcome (c : Attempt σ ε α) : Attempt σ ε' (Except ε α) := lift c.toCall

/-- Answer with an outcome that is already known. -/
def give (r : Except ε α) : Attempt σ ε α := ofCall (.done r)

/-- Describe a failure in other terms. -/
def mapError (f : ε → ε') (c : Attempt σ ε α) : Attempt σ ε' α :=
  ofCall (Call.bind c.toCall fun
    | .ok a => .done (.ok a)
    | .error e => .done (.error (f e)))

/-- Add an event to the journal. -/
def log (event : Event) : Attempt σ ε Unit := lift (Call.log event)

/-- Make an attempt on a part of the state. -/
def focus {τ : Type} (p : Part σ τ) (c : Attempt τ ε α) : Attempt σ ε α :=
  ofCall (Call.focus p c.toCall)

end Attempt

end FaultLab
