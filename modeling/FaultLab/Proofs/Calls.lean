import FaultLab.Call

/-! # Calls that run by themselves

`Call.result` is what a call that runs by itself leaves behind but for time and journal: its answer
and the state.  It goes through sequences (`Call.result_bind`), attempts (`Attempt.result_bind`) and
parts of the state (`Call.result_focus`).

`Call.Leaves` adds the time that the call takes; from what a sequence leaves one gets back to what its
parts leave (`Call.Leaves.of_bind`, `Attempt.error_of_bind`).

`Call.Steps R` says that every step of a call goes from a state to one that `R` relates to it,
whatever the state and whatever happened before.  Sequences, deadlines and parts of the state keep
this (`Steps.bind`, `Steps.limit`, `Steps.focus`), and what every related pair of states keeps, the
call keeps (`Steps.keeps`), cut off or not. -/

namespace FaultLab

namespace Part
variable {σ τ : Type}

/-- A part whose laws hold in the states of one kind, which it does not leave. -/
structure LawfulOn (p : Part σ τ) (good : σ → Prop) : Prop where
  stays : ∀ a s, good s → good (p.set a s)
  get_set : ∀ a s, good s → p.get (p.set a s) = a
  set_set : ∀ a b s, p.set a (p.set b s) = p.set a s
  set_get : ∀ s, good s → p.set (p.get s) s = s

end Part

namespace Call
variable {σ τ α β : Type}

/-! ### The result of a call -/

/-- The answer of a call that runs by itself, and the state that it leaves. -/
def result (c : Call σ α) (s : σ) : α × σ := ((c.run s).value, (c.run s).state)

@[simp] theorem result_done (a : α) (s : σ) : (done a).result s = (a, s) := rfl

@[simp] theorem result_pause (d : Nat) (rest : Call σ α) (s : σ) :
    (pause d rest).result s = rest.result s := rfl

@[simp] theorem result_note (e : Event) (rest : Call σ α) (s : σ) :
    (note e rest).result s = rest.result s := rfl

@[simp] theorem result_step (act : σ → σ) (rest : σ → Call σ α) (s : σ) :
    (step act rest).result s = (rest s).result (act s) := rfl

theorem result_bind (c : Call σ α) (f : α → Call σ β) (s : σ) :
    (bind c f).result s = (f (c.result s).1).result (c.result s).2 := by
  simp only [result, run_bind]

@[simp] theorem result_atomically (f : σ → α × σ) (s : σ) : (atomically f).result s = f s := rfl

@[simp] theorem result_modify (f : σ → σ) (s : σ) : (modify f).result s = ((), f s) := rfl

@[simp] theorem result_read (f : σ → α) (s : σ) : (read f).result s = (f s, s) := rfl

@[simp] theorem result_logAll (es : List Event) (s : σ) : (logAll es).result s = ((), s) := by
  induction es with
  | nil => rfl
  | cons e es ih =>
    rw [logAll, result_note]
    exact ih

theorem focus_bind (p : Part σ τ) (c : Call τ α) (f : α → Call τ β) :
    focus p (bind c f) = bind (focus p c) fun a => focus p (f a) := by
  induction c with
  | done a => rfl
  | pause d rest ih => simp only [bind, focus, ih]
  | note e rest ih => simp only [bind, focus, ih]
  | step act rest ih => simp only [bind, focus, ih]

/-- A call on a lawful part changes this part alone, as it would by itself. -/
theorem result_focus {p : Part σ τ} {good : σ → Prop} (lawful : p.LawfulOn good) (c : Call τ α)
    {s : σ} (hs : good s) :
    (focus p c).result s = ((c.result (p.get s)).1, p.set (c.result (p.get s)).2 s) := by
  induction c generalizing s with
  | done a => rw [focus, result_done, result_done, lawful.set_get s hs]
  | pause d rest ih =>
    rw [focus, result_pause, result_pause]
    exact ih hs
  | note e rest ih =>
    rw [focus, result_note, result_note]
    exact ih hs
  | step act rest ih =>
    have later := ih (p.get s) (lawful.stays (act (p.get s)) s hs)
    rw [lawful.get_set _ _ hs, lawful.set_set] at later
    rw [focus, result_step, result_step]
    exact later

/-! ### Calls in turn -/

/-- Make calls one after the other. -/
def inTurn (cs : List (Call σ α)) (s : σ) : σ := cs.foldl (fun t c => (c.result t).2) s

@[simp] theorem inTurn_cons (c : Call σ α) (cs : List (Call σ α)) (s : σ) :
    inTurn (c :: cs) s = inTurn cs (c.result s).2 := rfl

theorem inTurn_append (cs ds : List (Call σ α)) (s : σ) :
    inTurn (cs ++ ds) s = inTurn ds (inTurn cs s) := List.foldl_append

theorem inTurn_induct {I : σ → Prop} {cs : List (Call σ α)}
    (step : ∀ c ∈ cs, ∀ s, I s → I (c.result s).2) {s : σ} (hs : I s) : I (inTurn cs s) := by
  induction cs generalizing s with
  | nil => exact hs
  | cons c cs ih =>
    exact ih (fun d hd => step d (List.mem_cons_of_mem c hd)) (step c List.mem_cons_self s hs)

/-! ### The time of a call -/

/-- The time that a call takes that runs by itself. -/
def elapsed (c : Call σ α) (s : σ) : Nat := (c.run s).elapsed

@[simp] theorem elapsed_done (a : α) (s : σ) : (done a).elapsed s = 0 := rfl

@[simp] theorem elapsed_pause (d : Nat) (rest : Call σ α) (s : σ) :
    (pause d rest).elapsed s = d + rest.elapsed s := rfl

@[simp] theorem elapsed_note (e : Event) (rest : Call σ α) (s : σ) :
    (note e rest).elapsed s = rest.elapsed s := rfl

@[simp] theorem elapsed_step (act : σ → σ) (rest : σ → Call σ α) (s : σ) :
    (step act rest).elapsed s = (rest s).elapsed (act s) := rfl

theorem elapsed_bind (c : Call σ α) (f : α → Call σ β) (s : σ) :
    (bind c f).elapsed s = c.elapsed s + (f (c.result s).1).elapsed (c.result s).2 := by
  simp only [elapsed, result, run_bind]

@[simp] theorem elapsed_sleepIfAny (d : Nat) (s : σ) : (sleepIfAny d).elapsed s = d := by
  unfold sleepIfAny
  split
  · rename_i none
    exact none.symm
  · rfl

@[simp] theorem elapsed_logAll (es : List Event) (s : σ) : (logAll es).elapsed s = 0 := by
  induction es with
  | nil => rfl
  | cons e es ih =>
    rw [logAll, elapsed_note]
    exact ih

theorem elapsed_limit_le (t : Nat) (c : Call σ α) (s : σ) : (limit t c).elapsed s ≤ t := by
  induction c generalizing t s with
  | done a => exact Nat.zero_le t
  | pause d rest ih =>
    rw [limit]
    split
    · rename_i early
      have later := ih (t - d) s
      rw [elapsed_pause]
      omega
    · exact Nat.le_refl t
  | note e rest ih => exact ih t s
  | step act rest ih => exact ih s t (act s)

/-- A clock shows the time that the call takes, and changes nothing else. -/
theorem result_timed (c : Call σ α) (s : σ) :
    (timed c).result s = (((c.result s).1, c.elapsed s), (c.result s).2) := by
  induction c generalizing s with
  | done a => rfl
  | pause d rest ih =>
    rw [timed, result_pause, result_bind, ih]
    rfl
  | note e rest ih => exact ih s
  | step act rest ih => exact ih s (act s)

theorem elapsed_timed (c : Call σ α) (s : σ) : (timed c).elapsed s = c.elapsed s := by
  induction c generalizing s with
  | done a => rfl
  | pause d rest ih =>
    rw [timed, elapsed_pause, elapsed_pause, elapsed_bind, ih]
    rfl
  | note e rest ih => exact ih s
  | step act rest ih => exact ih s (act s)

theorem elapsed_focus {p : Part σ τ} {good : σ → Prop} (lawful : p.LawfulOn good) (c : Call τ α)
    {s : σ} (hs : good s) : (focus p c).elapsed s = c.elapsed (p.get s) := by
  induction c generalizing s with
  | done a => rfl
  | pause d rest ih =>
    rw [focus, elapsed_pause, elapsed_pause, ih hs]
  | note e rest ih => exact ih hs
  | step act rest ih =>
    have later := ih (p.get s) (lawful.stays (act (p.get s)) s hs)
    rw [lawful.get_set _ _ hs] at later
    exact later

/-- A call that runs by itself from a state ends with an answer, in a state and after some time. -/
structure Leaves (c : Call σ α) (s : σ) (a : α) (t : σ) (d : Nat) : Prop where
  result : c.result s = (a, t)
  elapsed : c.elapsed s = d

namespace Leaves
variable {c : Call σ α} {s t : σ} {a : α} {d : Nat}

theorem refl (c : Call σ α) (s : σ) :
    c.Leaves s (c.result s).1 (c.result s).2 (c.elapsed s) := ⟨rfl, rfl⟩

/-- What a sequence leaves, the second call leaves after the first one. -/
theorem of_bind {f : α → Call σ β} {b : β} (h : (bind c f).Leaves s b t d) :
    ∃ a u d₁ d₂, c.Leaves s a u d₁ ∧ (f a).Leaves u b t d₂ ∧ d = d₁ + d₂ := by
  obtain ⟨result, elapsed⟩ := h
  rw [result_bind] at result
  rw [elapsed_bind] at elapsed
  exact ⟨_, _, _, _, refl c s, ⟨result, rfl⟩, elapsed.symm⟩

end Leaves

/-! ### The steps of a call -/

/-- Every step of a call goes from a state to a related one. -/
def Steps (R : σ → σ → Prop) : Call σ α → Prop
  | done _ => True
  | pause _ rest => Steps R rest
  | note _ rest => Steps R rest
  | step act rest => ∀ s, R s (act s) ∧ Steps R (rest s)

namespace Steps
variable {R : σ → σ → Prop} {c : Call σ α}

theorem atomically {f : σ → α × σ} (h : ∀ s, R s (f s).2) : (Call.atomically f).Steps R :=
  fun s => ⟨h s, trivial⟩

theorem read {f : σ → α} (h : ∀ s, R s s) : (Call.read f).Steps R := fun s => ⟨h s, trivial⟩

theorem sleepIfAny (d : Nat) : (Call.sleepIfAny d).Steps R := by
  rw [Call.sleepIfAny]
  split
  · trivial
  · trivial

theorem bind {f : α → Call σ β} (h : c.Steps R) (hf : ∀ a, (f a).Steps R) :
    (Call.bind c f).Steps R := by
  induction c with
  | done a => exact hf a
  | pause d rest ih => exact ih h
  | note e rest ih => exact ih h
  | step act rest ih => exact fun s => ⟨(h s).1, ih s (h s).2⟩

theorem limit (h : c.Steps R) (t : Nat) : (Call.limit t c).Steps R := by
  induction c generalizing t with
  | done a => trivial
  | pause d rest ih =>
    rw [Call.limit]
    split
    · exact ih h (t - d)
    · trivial
  | note e rest ih => exact ih h t
  | step act rest ih => exact fun s => ⟨(h s).1, ih s (h s).2 t⟩

theorem focus {S : τ → τ → Prop} {c : Call τ α} (h : c.Steps S) (p : Part σ τ) :
    (Call.focus p c).Steps fun s t => ∃ b, S (p.get s) b ∧ t = p.set b s := by
  induction c with
  | done a => trivial
  | pause d rest ih => exact ih h
  | note e rest ih => exact ih h
  | step act rest ih =>
    intro s
    exact ⟨⟨act (p.get s), (h (p.get s)).1, rfl⟩, ih _ (h (p.get s)).2⟩

theorem mono {S : σ → σ → Prop} (h : c.Steps R) (weaker : ∀ s t, R s t → S s t) : c.Steps S := by
  induction c with
  | done a => trivial
  | pause d rest ih => exact ih h
  | note e rest ih => exact ih h
  | step act rest ih => exact fun s => ⟨weaker s (act s) (h s).1, ih s (h s).2⟩

theorem logAll (es : List Event) : (Call.logAll es : Call σ Unit).Steps R := by
  induction es with
  | nil => trivial
  | cons e es ih => exact ih

theorem keeps {I : σ → Prop} (h : c.Steps R) (kept : ∀ s t, R s t → I s → I t) {s : σ}
    (hs : I s) : I (c.result s).2 := by
  induction c generalizing s with
  | done a => exact hs
  | pause d rest ih => exact ih h hs
  | note e rest ih => exact ih h hs
  | step act rest ih => exact ih s (h s).2 (kept s (act s) (h s).1 hs)

end Steps

end Call

/-! ### Attempts -/

namespace Attempt
variable {σ τ ε α β : Type}

/-- The outcome of an attempt that is made by itself, and the state that it leaves. -/
def result (c : Attempt σ ε α) (s : σ) : Except ε α × σ := c.toCall.result s

@[simp] theorem result_ofCall (c : Call σ (Except ε α)) (s : σ) :
    (ofCall c).result s = c.result s := rfl

@[simp] theorem result_give (r : Except ε α) (s : σ) : (give r).result s = (r, s) := rfl

@[simp] theorem result_pure (a : α) (s : σ) :
    (pure a : Attempt σ ε α).result s = (.ok a, s) := rfl

@[simp] theorem result_lift (c : Call σ α) (s : σ) :
    (lift c : Attempt σ ε α).result s = (.ok (c.result s).1, (c.result s).2) :=
  Call.result_bind c _ s

@[simp] theorem result_log (e : Event) (s : σ) :
    (log e : Attempt σ ε Unit).result s = (.ok (), s) := rfl

theorem result_bind (c : Attempt σ ε α) (f : α → Attempt σ ε β) (s : σ) :
    (c >>= f).result s = match c.result s with
      | (.ok a, t) => (f a).result t
      | (.error e, t) => (.error e, t) := by
  have := Call.result_bind c.toCall (ExceptT.bindCont f) s
  refine Eq.trans this ?_
  change _ = match c.toCall.result s with
    | (.ok a, t) => (f a).result t
    | (.error e, t) => (.error e, t)
  rcases c.toCall.result s with ⟨outcome, t⟩
  cases outcome with
  | ok a => rfl
  | error e => rfl

theorem result_mapError {ε' : Type} (f : ε → ε') (c : Attempt σ ε α) (s : σ) :
    (c.mapError f).result s = match c.result s with
      | (.ok a, t) => (.ok a, t)
      | (.error e, t) => (.error (f e), t) := by
  rw [mapError, result_ofCall, Call.result_bind, result]
  rcases c.toCall.result s with ⟨outcome, t⟩
  cases outcome with
  | ok a => rfl
  | error e => rfl

@[simp] theorem elapsed_lift (c : Call σ α) (s : σ) :
    (lift c : Attempt σ ε α).toCall.elapsed s = c.elapsed s := by
  change Call.elapsed (Call.bind c _) s = _
  rw [Call.elapsed_bind, Call.elapsed_done, Nat.add_zero]

theorem elapsed_bind (c : Attempt σ ε α) (f : α → Attempt σ ε β) (s : σ) :
    (c >>= f).toCall.elapsed s = c.toCall.elapsed s + match c.result s with
      | (.ok a, t) => (f a).toCall.elapsed t
      | (.error _, _) => 0 := by
  refine (Call.elapsed_bind c.toCall (ExceptT.bindCont f) s).trans ?_
  change _ = _ + match c.toCall.result s with
    | (.ok a, t) => (f a).toCall.elapsed t
    | (.error _, _) => 0
  rcases c.toCall.result s with ⟨outcome, t⟩
  cases outcome with
  | ok a => rfl
  | error e => rfl

theorem bind_eq_ok {c : Attempt σ ε α} {f : α → Attempt σ ε β} {s t : σ} {b : β}
    (h : (c >>= f).result s = (.ok b, t)) :
    ∃ a u, c.result s = (.ok a, u) ∧ (f a).result u = (.ok b, t) := by
  rw [result_bind] at h
  rcases made : c.result s with ⟨outcome, u⟩
  rw [made] at h
  cases outcome with
  | ok a => exact ⟨a, u, rfl, h⟩
  | error e => cases h

theorem eq_ok_of_toOption {c : Attempt σ ε α} {s : σ} {a : α}
    (h : (c.result s).1.toOption = some a) : c.result s = (.ok a, (c.result s).2) := by
  rcases made : c.result s with ⟨outcome, t⟩
  rw [made] at h
  cases outcome with
  | ok b =>
    cases h
    rfl
  | error e => cases h

theorem give_eq_ok {r : Except ε α} {s t : σ} {a : α}
    (h : (give r : Attempt σ ε α).result s = (.ok a, t)) : r = .ok a ∧ t = s := by
  rw [result_give] at h
  cases h
  exact ⟨rfl, rfl⟩

theorem lift_eq_ok {c : Call σ α} {s t : σ} {a : α}
    (h : (lift c : Attempt σ ε α).result s = (.ok a, t)) : c.result s = (a, t) := by
  rw [result_lift] at h
  simp only [Prod.mk.injEq, Except.ok.injEq] at h
  exact Prod.ext h.1 h.2

theorem mapError_eq_ok {ε' : Type} {f : ε → ε'} {c : Attempt σ ε α} {s t : σ} {a : α}
    (h : (c.mapError f).result s = (.ok a, t)) : c.result s = (.ok a, t) := by
  rw [result_mapError] at h
  rcases made : c.result s with ⟨outcome, u⟩
  rw [made] at h
  cases outcome with
  | ok b =>
    cases h
    rfl
  | error e => cases h

/-- Where a sequence fails, the first attempt fails or the second one does after it. -/
theorem error_of_bind {c : Attempt σ ε α} {f : α → Attempt σ ε β} {s t : σ} {e : ε} {d : Nat}
    (h : (c >>= f).toCall.Leaves s (.error e) t d) :
    c.toCall.Leaves s (.error e) t d ∨ ∃ a u d₁ d₂, c.toCall.Leaves s (.ok a) u d₁ ∧
      (f a).toCall.Leaves u (.error e) t d₂ ∧ d = d₁ + d₂ := by
  obtain ⟨outcome, u, d₁, d₂, first, rest, rfl⟩ := Call.Leaves.of_bind (c := c.toCall) h
  cases outcome with
  | ok a => exact .inr ⟨a, u, d₁, d₂, first, rest, rfl⟩
  | error e' =>
    obtain ⟨result, elapsed⟩ := rest
    cases result
    cases elapsed
    exact .inl first

theorem error_of_mapError {ε' : Type} {f : ε → ε'} {c : Attempt σ ε α} {s t : σ} {e : ε'} {d : Nat}
    (h : (c.mapError f).toCall.Leaves s (.error e) t d) :
    ∃ cause, f cause = e ∧ c.toCall.Leaves s (.error cause) t d := by
  obtain ⟨outcome, u, d₁, d₂, first, rest, rfl⟩ := Call.Leaves.of_bind (c := c.toCall) h
  obtain ⟨result, elapsed⟩ := rest
  cases outcome with
  | ok a => cases result
  | error cause =>
    cases result
    cases elapsed
    exact ⟨cause, rfl, first⟩

theorem ok_of_mapError {ε' : Type} {f : ε → ε'} {c : Attempt σ ε α} {s t : σ} {a : α} {d : Nat}
    (h : (c.mapError f).toCall.Leaves s (.ok a) t d) : c.toCall.Leaves s (.ok a) t d := by
  obtain ⟨outcome, u, d₁, d₂, first, rest, rfl⟩ := Call.Leaves.of_bind (c := c.toCall) h
  obtain ⟨result, elapsed⟩ := rest
  cases outcome with
  | ok b =>
    cases result
    cases elapsed
    exact first
  | error cause => cases result

theorem focus_bind (p : Part σ τ) (c : Attempt τ ε α) (f : α → Attempt τ ε β) :
    (c >>= f).focus p = (c.focus p) >>= fun a => (f a).focus p := by
  refine Eq.trans (Call.focus_bind p c.toCall (ExceptT.bindCont f)) ?_
  change _ = Call.bind (c.focus p) (ExceptT.bindCont fun a => (f a).focus p)
  refine congrArg (Call.bind (c.focus p)) (funext fun outcome => ?_)
  cases outcome with
  | ok a => rfl
  | error e => rfl

theorem focus_lift (p : Part σ τ) (c : Call τ α) :
    (lift c : Attempt τ ε α).focus p = lift (c.focus p) := Call.focus_bind p c _

/-- Every step of an attempt goes from a state to a related one. -/
def Steps (R : σ → σ → Prop) (c : Attempt σ ε α) : Prop := c.toCall.Steps R

namespace Steps
variable {R : σ → σ → Prop}

theorem pure (a : α) : (Pure.pure a : Attempt σ ε α).Steps R := trivial

theorem lift {c : Call σ α} (h : c.Steps R) : (Attempt.lift c : Attempt σ ε α).Steps R :=
  Call.Steps.bind h fun _ => trivial

theorem give_bind {r : Except ε α} {f : α → Attempt σ ε β} (h : ∀ a, r = .ok a → (f a).Steps R) :
    (Attempt.give r >>= f).Steps R := by
  cases r with
  | ok a => exact h a rfl
  | error e => trivial

theorem bind {c : Attempt σ ε α} {f : α → Attempt σ ε β} (h : c.Steps R)
    (hf : ∀ a, (f a).Steps R) : (c >>= f).Steps R := by
  refine Call.Steps.bind h fun outcome => ?_
  cases outcome with
  | ok a => exact hf a
  | error e => trivial

theorem log (e : Event) : (Attempt.log e : Attempt σ ε Unit).Steps R := trivial

theorem forM {f : β → Attempt σ ε Unit} {bs : List β} (h : ∀ b ∈ bs, (f b).Steps R) :
    (bs.forM f).Steps R := by
  induction bs with
  | nil => exact .pure ()
  | cons b bs ih =>
    refine .bind (h b List.mem_cons_self) fun _ => ?_
    exact ih fun x hx => h x (List.mem_cons_of_mem b hx)

theorem mono {S : σ → σ → Prop} {c : Attempt σ ε α} (h : c.Steps R)
    (weaker : ∀ s t, R s t → S s t) : c.Steps S := Call.Steps.mono h weaker

end Steps

end Attempt

end FaultLab
