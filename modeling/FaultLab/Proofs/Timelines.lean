import FaultLab.Proofs.Calls

/-! # Calls as they go along

`Call.Reaches` follows a call that runs by itself: after some time it has got to what is left of it and
to another state, and on the way it has made steps.  A list of steps says when each of them was made and
which state it found; `Call.later` is such a list for one who began earlier.

Every call reaches its answer, with the steps of its `timeline` (`reaches_result`), and what it reaches
it leaves (`Reaches.leaves`).  Sequences, deadlines, clocks and signals go along with their parts
(`Reaches.bind`, `Reaches.limit`, `Reaches.timed`, `Reaches.interrupt`): a signal that has yet to come
changes nothing. -/

namespace FaultLab

namespace Call
variable {σ α β : Type} {c c' c'' : Call σ α} {s t u : σ} {a : α} {d d' n : Nat}
  {found found' : List (Nat × σ)}

/-- The steps that were found, for one who began `d` earlier. -/
def later (d : Nat) (found : List (Nat × σ)) : List (Nat × σ) := found.map fun (n, s) => (d + n, s)

@[simp] theorem later_nil (d : Nat) : later d ([] : List (Nat × σ)) = [] := rfl

@[simp] theorem later_append (d : Nat) (found found' : List (Nat × σ)) :
    later d (found ++ found') = later d found ++ later d found' := List.map_append

@[simp] theorem later_zero (found : List (Nat × σ)) : later 0 found = found := by
  simp [later]

theorem later_later (d d' : Nat) (found : List (Nat × σ)) :
    later d (later d' found) = later (d + d') found := by
  simp [later, Nat.add_assoc]

/-- The steps of a call that runs by itself. -/
def timeline : Call σ α → σ → List (Nat × σ)
  | done _, _ => []
  | pause d rest, s => later d (timeline rest s)
  | note _ rest, s => timeline rest s
  | step act rest, s => (0, s) :: timeline (rest s) (act s)

/-- A call that runs by itself from `s` gets in some time, with some steps, to what is left of it, and to
another state. -/
inductive Reaches : Call σ α → σ → Nat → List (Nat × σ) → Call σ α → σ → Prop
  | refl (c : Call σ α) (s : σ) : Reaches c s 0 [] c s
  | pause (span : Nat) {rest c : Call σ α} {s t : σ} {d : Nat} {found : List (Nat × σ)}
    (h : Reaches rest s d found c t) : Reaches (pause span rest) s (span + d) (later span found) c t
  | note (e : Event) {rest c : Call σ α} {s t : σ} {d : Nat} {found : List (Nat × σ)}
    (h : Reaches rest s d found c t) : Reaches (note e rest) s d found c t
  | step (act : σ → σ) {rest : σ → Call σ α} {c : Call σ α} {s t : σ} {d : Nat}
    {found : List (Nat × σ)} (h : Reaches (rest s) (act s) d found c t) :
    Reaches (step act rest) s d ((0, s) :: found) c t

theorem reaches_result (c : Call σ α) (s : σ) :
    c.Reaches s (c.elapsed s) (c.timeline s) (done (c.result s).1) (c.result s).2 := by
  induction c generalizing s with
  | done a => exact .refl _ s
  | pause d rest ih => exact (ih s).pause d
  | note e rest ih => exact (ih s).note e
  | step act rest ih => exact (ih s (act s)).step act

theorem Leaves.reaches (h : c.Leaves s a t d) : c.Reaches s d (c.timeline s) (done a) t := by
  have reached := c.reaches_result s
  rwa [h.result, h.elapsed] at reached

namespace Reaches

theorem trans (h : c.Reaches s d found c' t) (h' : c'.Reaches t d' found' c'' u) :
    c.Reaches s (d + d') (found ++ later d found') c'' u := by
  induction h with
  | refl c s => simpa using h'
  | pause span _ ih =>
    have whole := (ih h').pause span
    rwa [later_append, later_later, ← Nat.add_assoc] at whole
  | note e _ ih => exact (ih h').note e
  | step act _ ih => exact (ih h').step act

/-- What a call goes on to without taking time or a step. -/
theorem at_once (h : c.Reaches s d found c' t) (h' : c'.Reaches t 0 [] c'' u) :
    c.Reaches s d found c'' u := by
  have whole := h.trans h'
  rwa [Nat.add_zero, later_nil, List.append_nil] at whole

theorem bind (h : c.Reaches s d found c' t) (f : α → Call σ β) :
    (c.bind f).Reaches s d found (c'.bind f) t := by
  induction h with
  | refl c s => exact .refl _ s
  | pause span _ ih => exact ih.pause span
  | note e _ ih => exact ih.note e
  | step act _ ih => exact ih.step act

/-- The deadline of a call that is still under way has come closer. -/
theorem limit (h : c.Reaches s d found c' t) (early : d ≤ n) :
    (c.limit n).Reaches s d found (c'.limit (n - d)) t := by
  induction h generalizing n with
  | refl c s => exact .refl _ s
  | @pause span rest _ _ _ d _ _ ih =>
    have rest := (ih (n := n - span) (by omega)).pause span
    have first : span ≤ n := by omega
    rw [Call.limit, if_pos first]
    rwa [Nat.sub_sub] at rest
  | note e _ ih => exact (ih early).note e
  | step act _ ih => exact (ih early).step act

/-- A signal that is there already leaves nothing of a call. -/
theorem of_interrupt_zero (c : Call σ α) (s : σ) : (c.interrupt 0).Reaches s 0 [] (done none) s := by
  rw [Call.interrupt]
  exact .refl _ s

theorem interrupt (h : c.Reaches s d found c' t) (early : d < n) :
    (c.interrupt n).Reaches s d found (c'.interrupt (n - d)) t := by
  obtain ⟨m, rfl⟩ : ∃ m, n = m + 1 := ⟨n - 1, by omega⟩
  induction h generalizing m with
  | refl c s => exact .refl _ s
  | @pause span rest _ _ _ d _ _ ih =>
    obtain ⟨k, left⟩ : ∃ k, m + 1 - span = k + 1 := ⟨m - span, by omega⟩
    have rest := (ih k (by omega)).pause span
    have first : span < m + 1 := by omega
    rw [Call.interrupt, if_pos first]
    rwa [← left, Nat.sub_sub] at rest
  | note e _ ih => exact (ih m early).note e
  | step act _ ih => exact (ih m early).step act

theorem timed (h : c.Reaches s d found (done a) t) : c.timed.Reaches s d found (done (a, d)) t := by
  generalize last : done a = c' at h
  induction h with
  | refl c s =>
    subst last
    exact .refl _ s
  | pause span _ ih => exact ((ih last).bind _).pause span
  | note e _ ih => exact (ih last).note e
  | step act _ ih => exact (ih last).step act

/-- What a call reaches at the end it leaves, and its timeline has the steps on the way. -/
theorem leaves (h : c.Reaches s d found (done a) t) : c.Leaves s a t d ∧ c.timeline s = found := by
  generalize last : done a = c' at h
  induction h with
  | refl c s =>
    subst last
    exact ⟨⟨rfl, rfl⟩, rfl⟩
  | pause span _ ih =>
    obtain ⟨⟨result, elapsed⟩, steps⟩ := ih last
    exact ⟨⟨result, by rw [elapsed_pause, elapsed]⟩, by rw [timeline, steps]⟩
  | note e _ ih =>
    obtain ⟨⟨result, elapsed⟩, steps⟩ := ih last
    exact ⟨⟨result, elapsed⟩, steps⟩
  | step act _ ih =>
    obtain ⟨⟨result, elapsed⟩, steps⟩ := ih last
    exact ⟨⟨result, elapsed⟩, by rw [timeline, steps]⟩

theorem unique {b : α} (h : c.Reaches s d found (done a) t) (h' : c.Reaches s d' found' (done b) u) :
    a = b ∧ t = u ∧ d = d' ∧ found = found' := by
  obtain ⟨⟨result, elapsed⟩, steps⟩ := h.leaves
  obtain ⟨⟨result', elapsed'⟩, steps'⟩ := h'.leaves
  have same : (a, t) = (b, u) := result.symm.trans result'
  exact ⟨congrArg Prod.fst same, congrArg Prod.snd same, elapsed.symm.trans elapsed',
    steps.symm.trans steps'⟩

end Reaches

theorem reaches_logAll (es : List Event) (s : σ) : (logAll es).Reaches s 0 [] (done ()) s := by
  induction es with
  | nil => exact .refl _ s
  | cons e es ih => exact ih.note e

end Call

/-! ### Attempts -/

namespace Attempt
variable {σ ε α β : Type} {c : Attempt σ ε α} {s t : σ} {d : Nat} {found : List (Nat × σ)}

theorem reaches_lift {c : Call σ α} {a : α} (h : c.Reaches s d found (.done a) t) :
    (lift c : Attempt σ ε α).toCall.Reaches s d found (.done (.ok a)) t := h.bind _

theorem reaches_bind {a : α} (h : c.toCall.Reaches s d found (.done (.ok a)) t)
    (f : α → Attempt σ ε β) : (c >>= f).toCall.Reaches s d found (f a).toCall t :=
  h.bind (ExceptT.bindCont f)

end Attempt

end FaultLab
