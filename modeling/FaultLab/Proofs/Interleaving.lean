import FaultLab.Proofs.Calls
import Mathlib.Data.List.Forall2
import Mathlib.Logic.Relation

/-! # Calls side by side

Of several calls that run side by side each one goes on while the others pause, so what a call has
found may have changed when its turn comes again.  A `Pact` says what the calls may do to each other.
`Call.Secures pact Q c s` says that `c`, begun in `s`, keeps to the pact and ends with an answer and
a state that `Q` relates, whatever the others do within the pact.

* Sequences, deadlines and clocks carry this over (`Secures.bind`, `Secures.limit`,
  `Secures.timed`).
* If all calls keep to the pact, each secures side by side with the others what it secures by itself
  (`secures_together`).
* With a pact that expects nothing of the others, this is about the steps alone: side by side, calls
  make the steps of each (`Steps.together`). -/

namespace FaultLab

/-- What calls that run side by side expect of each other: what one of them does in a step, the
others put up with. -/
structure Pact (σ : Type) where
  /-- What may happen between two steps of a call. -/
  rely : σ → σ → Prop
  /-- What a step of a call may do. -/
  guarantee : σ → σ → Prop
  refl : ∀ s, rely s s
  trans : ∀ {s t u}, rely s t → rely t u → rely s u
  within : ∀ {s t}, guarantee s t → rely s t

/-- The pact that lets each call make some steps and expects nothing. -/
def Pact.free {σ : Type} (G : σ → σ → Prop) : Pact σ where
  rely _ _ := True
  guarantee := G
  refl _ := trivial
  trans _ _ := trivial
  within _ := trivial

/-- The pact that lets each call make some steps and expects the others to make such steps only. -/
def Pact.alike {σ : Type} (G : σ → σ → Prop) : Pact σ where
  rely := Relation.ReflTransGen G
  guarantee := G
  refl _ := .refl
  trans := .trans
  within := .single

namespace Call
variable {σ α β γ : Type}

/-- A call that was begun in a state, to which the others have done what they may since, keeps to the
pact and ends with an answer and a state that `Q` relates. -/
def Secures (pact : Pact σ) (Q : α → σ → Prop) : Call σ α → σ → Prop
  | done a, s => ∀ t, pact.rely s t → Q a t
  | pause _ rest, s => Secures pact Q rest s
  | note _ rest, s => Secures pact Q rest s
  | step act rest, s =>
    ∀ t, pact.rely s t → pact.guarantee t (act t) ∧ Secures pact Q (rest t) (act t)

namespace Secures
variable {pact : Pact σ} {c : Call σ α} {s t : σ} {Q : α → σ → Prop} {Q' : β → σ → Prop}

theorem later (h : c.Secures pact Q s) (meantime : pact.rely s t) : c.Secures pact Q t := by
  induction c with
  | done a => exact fun u more => h u (pact.trans meantime more)
  | pause d rest ih => exact ih h
  | note e rest ih => exact ih h
  | step act rest ih => exact fun u more => h u (pact.trans meantime more)

theorem mono {P : α → σ → Prop} (h : c.Secures pact Q s) (weaker : ∀ a t, Q a t → P a t) :
    c.Secures pact P s := by
  induction c generalizing s with
  | done a => exact fun t more => weaker a t (h t more)
  | pause d rest ih => exact ih h
  | note e rest ih => exact ih h
  | step act rest ih => exact fun t more => ⟨(h t more).1, ih t (h t more).2⟩

theorem stable (h : c.Secures pact Q s) :
    c.Secures pact (fun a t => ∀ u, pact.rely t u → Q a u) s := by
  induction c generalizing s with
  | done a => exact fun t more u still => h u (pact.trans more still)
  | pause d rest ih => exact ih h
  | note e rest ih => exact ih h
  | step act rest ih => exact fun t more => ⟨(h t more).1, ih t (h t more).2⟩

/-- What stays so while the call is made still is so at its end. -/
theorem frame {P : σ → Prop} (h : c.Secures pact Q s) (stays : ∀ t, pact.rely s t → P t) :
    c.Secures pact (fun a t => Q a t ∧ P t) s := by
  induction c generalizing s with
  | done a => exact fun t more => ⟨h t more, stays t more⟩
  | pause d rest ih => exact ih h stays
  | note e rest ih => exact ih h stays
  | step act rest ih =>
    intro t more
    obtain ⟨guarantee, later⟩ := h t more
    have since := pact.trans more (pact.within guarantee)
    exact ⟨guarantee, ih t later fun u more => stays u (pact.trans since more)⟩

theorem bind {f : α → Call σ β} (h : c.Secures pact (fun a t => (f a).Secures pact Q' t) s) :
    (Call.bind c f).Secures pact Q' s := by
  induction c generalizing s with
  | done a => exact h s (pact.refl s)
  | pause d rest ih => exact ih h
  | note e rest ih => exact ih h
  | step act rest ih => exact fun t more => ⟨(h t more).1, ih t (h t more).2⟩

/-- Cut off at a deadline, a call has secured something if it gives an answer. -/
theorem limit (h : c.Secures pact Q s) (d : Nat) :
    (Call.limit d c).Secures pact (fun a t => ∀ b, a = some b → Q b t) s := by
  induction c generalizing s d with
  | done a =>
    rintro t more b ⟨⟩
    exact h t more
  | pause e rest ih =>
    rw [Call.limit]
    split
    · exact ih h (d - e)
    · rintro t - b ⟨⟩
  | note e rest ih => exact ih h d
  | step act rest ih => exact fun t more => ⟨(h t more).1, ih t (h t more).2 d⟩

theorem timed (h : c.Secures pact Q s) :
    (Call.timed c).Secures pact (fun a t => Q a.1 t) s := by
  induction c generalizing s with
  | done a => exact h
  | pause d rest ih => exact bind (ih h).stable
  | note e rest ih => exact ih h
  | step act rest ih => exact fun t more => ⟨(h t more).1, ih t (h t more).2⟩

/-! ### Taking turns -/

/-- While another call takes its turns, it keeps to the pact, and what is left of it secures what the
whole would have secured. -/
theorem during {next : Call σ β → Call σ γ} {P : γ → σ → Prop} {other : Call σ β}
    (hn : ∀ left t, pact.rely s t → left.Secures pact Q' t → (next left).Secures pact P t)
    (ho : other.Secures pact Q' s) (d : Nat) : (Call.during d next other).Secures pact P s := by
  induction other generalizing s d with
  | done b => exact hn (done b) s (pact.refl s) ho
  | pause e rest ih =>
    rw [Call.during]
    split
    · exact hn _ s (pact.refl s) ho
    · exact ih hn ho (d - e)
  | note e rest ih => exact ih hn ho d
  | step act rest ih =>
    intro t more
    obtain ⟨guarantee, later⟩ := ho t more
    have since := pact.trans more (pact.within guarantee)
    exact ⟨guarantee, ih t (fun left u more => hn left u (pact.trans since more)) later d⟩

/-- When the first of two calls is done, it has secured what it secures by itself, and so does what is
left of the second one. -/
theorem beside {other : Call σ β} (h : c.Secures pact Q s) (ho : other.Secures pact Q' s) :
    (Call.beside c other).Secures pact (fun a t => Q a.1 t ∧ a.2.Secures pact Q' t) s := by
  induction c generalizing s other with
  | done a => exact fun t more => ⟨h t more, ho.later more⟩
  | pause d rest ih =>
    refine during (fun left t more secures => ?_) ho d
    have still : (pause d rest).Secures pact Q t := h.later more
    exact ih still secures
  | note e rest ih => exact ih h ho
  | step act rest ih =>
    intro t more
    obtain ⟨guarantee, later⟩ := h t more
    exact ⟨guarantee, ih t later (ho.later (pact.trans more (pact.within guarantee)))⟩

/-- Side by side, each call secures what it secures by itself. -/
theorem together {ι : Type} {f : ι → Call σ α} {is : List ι} {Q : ι → α → σ → Prop}
    (h : ∀ i ∈ is, (f i).Secures pact (Q i) s) :
    (Call.together (is.map f)).Secures pact
      (fun as t => List.Forall₂ (fun i a => Q i a t) is as) s := by
  induction is with
  | nil => exact fun t more => .nil
  | cons i is ih =>
    have first := h i List.mem_cons_self
    have others := ih fun j hj => h j (List.mem_cons_of_mem i hj)
    refine bind ((beside first others).stable.mono fun both t still => ?_)
    have left := (still t (pact.refl t)).2
    have own : ∀ u, pact.rely t u → Q i both.1 u := fun u more => (still u more).1
    refine bind ((left.frame own).stable.mono fun as t still u more => ?_)
    obtain ⟨rest, here⟩ := still u more
    exact .cons here rest

theorem result (h : c.Secures pact Q s) : Q (c.result s).1 (c.result s).2 := by
  induction c generalizing s with
  | done a => exact h s (pact.refl s)
  | pause d rest ih => exact ih h
  | note e rest ih => exact ih h
  | step act rest ih => exact ih s (h s (pact.refl s)).2

theorem of_steps (h : c.Steps pact.guarantee) (s : σ) : c.Secures pact (fun _ _ => True) s := by
  induction c generalizing s with
  | done a => exact fun _ _ => trivial
  | pause d rest ih => exact ih h s
  | note e rest ih => exact ih h s
  | step act rest ih => exact fun t _ => ⟨(h t).1, ih t (h t).2 (act t)⟩

theorem steps {G : σ → σ → Prop} (h : ∀ s, c.Secures (.free G) Q s) : c.Steps G := by
  induction c with
  | done a => trivial
  | pause d rest ih => exact ih h
  | note e rest ih => exact ih h
  | step act rest ih =>
    exact fun t => ⟨(h t t trivial).1, ih t fun s => ((h t t trivial).2).later trivial⟩

end Secures

namespace Steps
variable {R : σ → σ → Prop} {c : Call σ α}

theorem timed (h : c.Steps R) : (Call.timed c).Steps R :=
  Secures.steps fun s =>
    have secures : c.Secures (.free R) (fun _ _ => True) s := .of_steps h s
    secures.timed

theorem together {cs : List (Call σ α)} (h : ∀ c ∈ cs, c.Steps R) :
    (Call.together cs).Steps R := by
  refine Secures.steps (Q := fun as t => List.Forall₂ (fun _ _ => True) cs as) fun s => ?_
  have each : ∀ c ∈ cs, (id c).Secures (.free R) (fun _ _ => True) s :=
    fun c hc => .of_steps (h c hc) s
  have all := Secures.together each
  rwa [List.map_id] at all

end Steps

end Call

end FaultLab
