import FaultLab.Proofs.SimulatedSnapshots
import FaultLab.Proofs.Launches

/-! # Calls in a world that goes on

A call that runs by itself finds the world as it left it.  `Call.aging` puts it into a world that goes on while
the call pauses: `age d` says what becomes of a state while `d` passes.  A call without pauses does not notice
(`Call.aging_of_instant`).

`Attempt.Brings` is for such attempts what is known of their results: from all states that look the same in one
way they come to the same outcome, after the same time, in states that look the same again.  It goes through
sequences (`Attempt.Brings.bind`). -/

namespace FaultLab

namespace Call
variable {σ α β : Type} {age : Nat → σ → σ} {c : Call σ α}

/-- A call in a world that goes on in each pause. -/
def aging (age : Nat → σ → σ) : Call σ α → Call σ α
  | done a => done a
  | pause d rest => pause d (step (age d) fun _ => aging age rest)
  | note e rest => note e (aging age rest)
  | step act rest => step act fun s => aging age (rest s)

theorem aging_bind (age : Nat → σ → σ) (c : Call σ α) (f : α → Call σ β) :
    (bind c f).aging age = bind (c.aging age) fun a => (f a).aging age := by
  induction c with
  | done a => rfl
  | pause d rest ih => simp only [bind, aging, ih]
  | note e rest ih => simp only [bind, aging, ih]
  | step act rest ih => simp only [bind, aging, ih]

theorem aging_of_instant (age : Nat → σ → σ) (h : c.Instant) : c.aging age = c := by
  induction c with
  | done a => rfl
  | pause d rest => cases h
  | note e rest ih => rw [aging, ih h]
  | step act rest ih =>
    rw [aging]
    exact congrArg (step act) (funext fun s => ih s (h s))

theorem Instant.timed (h : c.Instant) : c.timed.Instant := by
  induction c with
  | done a => trivial
  | pause d rest => cases h
  | note e rest ih => exact ih h
  | step act rest ih => exact fun s => ih s (h s)

end Call

namespace Attempt
variable {σ ω ε ε' α β : Type} {age : Nat → σ → σ} {view : σ → ω} {x y z : ω} {d d' : Nat}

/-- An attempt in a world that goes on in each pause. -/
def aging (age : Nat → σ → σ) (c : Attempt σ ε α) : Attempt σ ε α := ofCall (c.toCall.aging age)

theorem aging_bind (age : Nat → σ → σ) (c : Attempt σ ε α) (f : α → Attempt σ ε β) :
    (c >>= f).aging age = c.aging age >>= fun a => (f a).aging age := by
  refine (Call.aging_bind age c.toCall (ExceptT.bindCont f)).trans ?_
  refine congrArg (Call.bind (c.toCall.aging age)) (funext fun outcome => ?_)
  cases outcome with
  | ok a => rfl
  | error e => rfl

theorem aging_of_instant (age : Nat → σ → σ) {c : Attempt σ ε α} (h : c.Instant) : c.aging age = c :=
  Call.aging_of_instant age h

/-- From states with one view an attempt comes to an outcome, after some time, in states with another view. -/
def Brings (age : Nat → σ → σ) (view : σ → ω) (c : Attempt σ ε α) (x : ω) (r : Except ε α) (y : ω)
    (d : Nat) : Prop :=
  ∀ s, view s = x → ∃ t, (c.aging age).toCall.Leaves s r t d ∧ view t = y

namespace Instant

theorem give (r : Except ε α) : (Attempt.give r : Attempt σ ε α).Instant := trivial

theorem mapError {c : Attempt σ ε α} (h : c.Instant) (f : ε → ε') : (c.mapError f).Instant := by
  refine Call.Instant.bind h fun outcome => ?_
  cases outcome with
  | ok a => trivial
  | error e => trivial

end Instant

namespace Brings
variable {c : Attempt σ ε α} {a : α} {f : α → Attempt σ ε β} {r : Except ε α}

/-- An attempt without pauses comes to what it comes to anywhere, at once. -/
theorem of_instant (instant : c.Instant) (h : ∀ s, view s = x → ∃ t, c.result s = (r, t) ∧ view t = y) :
    c.Brings age view x r y 0 := by
  intro s hs
  obtain ⟨t, made, after⟩ := h s hs
  rw [aging_of_instant age instant]
  exact ⟨t, Call.Instant.leaves instant made, after⟩

theorem give (r : Except ε α) (x : ω) : (Attempt.give r).Brings age view x r x 0 :=
  of_instant trivial fun s hs => ⟨s, rfl, hs⟩

theorem pure (a : α) (x : ω) : (Pure.pure a : Attempt σ ε α).Brings age view x (.ok a) x 0 := give (.ok a) x

theorem log (event : Event) (x : ω) :
    (Attempt.log event : Attempt σ ε Unit).Brings age view x (.ok ()) x 0 :=
  of_instant trivial fun s hs => ⟨s, rfl, hs⟩

theorem sleep {g : ω → ω} (ages : ∀ s, view (age d s) = g (view s)) (x : ω) :
    (Attempt.lift (Call.sleep d) : Attempt σ ε Unit).Brings age view x (.ok ()) (g x) d := by
  rintro s rfl
  exact ⟨age d s, ⟨rfl, rfl⟩, ages s⟩

theorem timed (instant : c.Instant) (h : c.Brings age view x r y 0) :
    (Attempt.lift (Call.timed c.toCall) : Attempt σ ε' _).Brings age view x (.ok (r, 0)) y 0 := by
  refine of_instant (Instant.lift (Call.Instant.timed instant)) fun s hs => ?_
  obtain ⟨t, leaves, after⟩ := h s hs
  rw [aging_of_instant age instant] at leaves
  refine ⟨t, ?_, after⟩
  rw [result_lift, Call.result_timed, leaves.result, leaves.elapsed]

theorem bind {r : Except ε β} (h : c.Brings age view x (.ok a) y d) (h' : (f a).Brings age view y r z d') :
    (c >>= f).Brings age view x r z (d + d') := by
  intro s hs
  obtain ⟨u, first, between⟩ := h s hs
  obtain ⟨t, rest, after⟩ := h' u between
  rw [aging_bind]
  exact ⟨t, leaves_bind first rest, after⟩

theorem bind_at_once {r : Except ε β} (h : c.Brings age view x (.ok a) y 0)
    (h' : (f a).Brings age view y r z d) : (c >>= f).Brings age view x r z d := by
  have whole := h.bind h'
  rwa [Nat.zero_add] at whole

theorem bind_then_at_once {r : Except ε β} (h : c.Brings age view x (.ok a) y d)
    (h' : (f a).Brings age view y r z 0) : (c >>= f).Brings age view x r z d := h.bind h'

theorem bind_error {e : ε} (h : c.Brings age view x (.error e) y d) (f : α → Attempt σ ε β) :
    (c >>= f).Brings age view x (.error e) y d := by
  intro s hs
  obtain ⟨t, leaves, after⟩ := h s hs
  rw [aging_bind]
  exact ⟨t, leaves_bind_error leaves _, after⟩

theorem ite_pos {p : Prop} [Decidable p] {c' : Attempt σ ε α} (hp : p) (h : c.Brings age view x r y d) :
    (if p then c else c').Brings age view x r y d := by rwa [if_pos hp]

theorem ite_neg {p : Prop} [Decidable p] {c' : Attempt σ ε α} (hp : ¬ p) (h : c.Brings age view x r y d) :
    (if p then c' else c).Brings age view x r y d := by rwa [if_neg hp]

end Brings

end Attempt

end FaultLab
