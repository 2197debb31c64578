import FaultLab.Proofs.Calls
import Mathlib.Data.List.Forall2
import Mathlib.Data.List.MinMax
import Mathlib.Logic.Hydra
import Mathlib.Logic.Relation

/-! # Races of calls

A `Race` is several calls under way.  Whoever is due first makes the next turn, and of several that
are due at the same instant it may be anyone (`Race.Turn`), so a race is played in many ways.  It is
over when all calls are done; `Race.Surely Q` says that it comes to its end in every way that it can
be played, and that then `Q` holds.

Calls that keep to themselves do not notice that they race.  `Call.Within` says that the steps of a
call commute with what happens outside of its `RelyGuarantee`, and that the call does not see it.  If any
two of the calls keep out of each other's way (`Call.Apart`), every turn keeps the `Race.forecast`,
which is what comes of the calls when they are made one after the other, while each of them takes the
time that it takes by itself.  So the race ends in its forecast (`Race.surely_forecast`).

`Call.together` plays the race of its calls in one of these ways (`plays_together`), and so it
leaves the same (`Call.leaves_together`). -/

namespace FaultLab

/-! ### What calls rely on, and what they guarantee -/

/-- What a call may do to a shared state, and what else may happen to it. -/
structure RelyGuarantee (σ : Type) where
  own : (σ → σ) → Prop
  foreign : (σ → σ) → Prop

namespace Call
variable {σ α β ω : Type} {rg : RelyGuarantee σ}

/-- What a call does is its own; it commutes with whatever else happens, and the call goes on as if
nothing else had happened. -/
def Within (rg : RelyGuarantee σ) : Call σ α → Prop
  | done _ => True
  | pause _ rest => Within rg rest
  | note _ rest => Within rg rest
  | step act rest => rg.own act ∧
    (∀ g, rg.foreign g → ∀ s, act (g s) = g (act s) ∧ rest (g s) = rest s) ∧
    ∀ s, Within rg (rest s)

namespace Within
variable {c : Call σ α}

theorem atomically {f : σ → α × σ} (own : rg.own fun s => (f s).2)
    (blind : ∀ g, rg.foreign g → ∀ s, f (g s) = ((f s).1, g (f s).2)) :
    (Call.atomically f).Within rg := by
  refine ⟨own, fun g foreign s => ?_, fun s => trivial⟩
  have same := blind g foreign s
  exact ⟨congrArg Prod.snd same, congrArg (fun r => done r.1) same⟩

theorem read {f : σ → α} (own : rg.own id)
    (blind : ∀ g, rg.foreign g → ∀ s, f (g s) = f s) : (Call.read f).Within rg :=
  ⟨own, fun g foreign s => ⟨rfl, congrArg done (blind g foreign s)⟩, fun _ => trivial⟩

theorem sleepIfAny (d : Nat) : (Call.sleepIfAny d).Within rg := by
  rw [Call.sleepIfAny]
  split
  · trivial
  · trivial

/-- What is made of the rest of a call goes on blindly if the call does. -/
theorem map_step {act : σ → σ} {rest : σ → Call σ α} {F : Call σ α → Call σ β}
    (h : (step act rest).Within rg)
    (each : ∀ s, (rest s).Within rg → (F (rest s)).Within rg) :
    (step act fun s => F (rest s)).Within rg := by
  obtain ⟨own, blind, later⟩ := h
  refine ⟨own, fun g foreign s => ?_, fun s => each s (later s)⟩
  obtain ⟨commutes, unseen⟩ := blind g foreign s
  exact ⟨commutes, congrArg F unseen⟩

theorem bind {f : α → Call σ β} (h : c.Within rg) (hf : ∀ a, (f a).Within rg) :
    (Call.bind c f).Within rg := by
  induction c with
  | done a => exact hf a
  | pause d rest ih => exact ih h
  | note e rest ih => exact ih h
  | step act rest ih => exact map_step (F := fun left => Call.bind left f) h ih

theorem limit (h : c.Within rg) (t : Nat) : (Call.limit t c).Within rg := by
  induction c generalizing t with
  | done a => trivial
  | pause d rest ih =>
    rw [Call.limit]
    split
    · exact ih h (t - d)
    · trivial
  | note e rest ih => exact ih h t
  | step act rest ih => exact map_step h fun s later => ih s later t

theorem timed (h : c.Within rg) : (Call.timed c).Within rg := by
  induction c with
  | done a => trivial
  | pause d rest ih => exact bind (ih h) fun _ => trivial
  | note e rest ih => exact ih h
  | step act rest ih => exact map_step h ih

/-- What is foreign to a call does not change what a call answers, and it does not matter
whether it happens before the call or after it. -/
theorem result_foreign (h : c.Within rg) {g : σ → σ} (foreign : rg.foreign g) (s : σ) :
    c.result (g s) = ((c.result s).1, g (c.result s).2) := by
  induction c generalizing s with
  | done a => rfl
  | pause d rest ih => exact ih h s
  | note e rest ih => exact ih h s
  | step act rest ih =>
    obtain ⟨commutes, unseen⟩ := h.2.1 g foreign s
    rw [result_step, result_step, commutes, unseen]
    exact ih s (h.2.2 s) (act s)

theorem elapsed_foreign (h : c.Within rg) {g : σ → σ} (foreign : rg.foreign g) (s : σ) :
    c.elapsed (g s) = c.elapsed s := by
  induction c generalizing s with
  | done a => rfl
  | pause d rest ih => rw [elapsed_pause, elapsed_pause, ih h s]
  | note e rest ih => exact ih h s
  | step act rest ih =>
    obtain ⟨commutes, unseen⟩ := h.2.1 g foreign s
    rw [elapsed_step, elapsed_step, commutes, unseen]
    exact ih s (h.2.2 s) (act s)

theorem keeps (h : c.Within rg) {v : σ → ω}
    (kept : ∀ act, rg.own act → ∀ s, v (act s) = v s) (s : σ) : v (c.result s).2 = v s := by
  induction c generalizing s with
  | done a => rfl
  | pause d rest ih => exact ih h s
  | note e rest ih => exact ih h s
  | step act rest ih => exact (ih s (h.2.2 s) (act s)).trans (kept act h.1 s)

end Within

/-! ### Calls that keep apart -/

/-- Two calls that keep out of each other's way. -/
def Apart (c : Call σ α) (d : Call σ β) : Prop :=
  ∃ S T : RelyGuarantee σ, c.Within S ∧ d.Within T ∧ (∀ g, S.own g → T.foreign g) ∧
    ∀ g, T.own g → S.foreign g

theorem Apart.symm {c : Call σ α} {d : Call σ β} (apart : c.Apart d) : d.Apart c := by
  obtain ⟨S, T, hc, hd, there, here⟩ := apart
  exact ⟨T, S, hd, hc, here, there⟩

/-- A call that keeps apart does not notice whether the other one has been made. -/
theorem Apart.result_result {c : Call σ α} {d : Call σ β} (apart : c.Apart d) (s : σ) :
    c.result (d.result s).2 = ((c.result s).1, (d.result (c.result s).2).2) := by
  obtain ⟨S, T, hc, hd, there, here⟩ := apart
  induction d generalizing s with
  | done a => rfl
  | pause e rest ih => exact ih s hd
  | note e rest ih => exact ih s hd
  | step act rest ih =>
    obtain ⟨own, blind, later⟩ := hd
    have moved := hc.result_foreign (here act own) s
    have unseen : rest (c.result s).2 = rest s :=
      hc.keeps (v := rest) (fun g mine t => (blind g (there g mine) t).2) s
    have after := ih s (act s) (later s)
    rw [moved] at after
    rw [result_step, result_step, unseen]
    exact after

theorem result_inTurn {c : Call σ α} {ds : List (Call σ α)} (apart : ∀ d ∈ ds, c.Apart d) (s : σ) :
    c.result (inTurn ds s) = ((c.result s).1, inTurn ds (c.result s).2) := by
  induction ds generalizing s with
  | nil => rfl
  | cons d ds ih =>
    have others := ih (fun e he => apart e (List.mem_cons_of_mem d he)) (d.result s).2
    have first := (apart d List.mem_cons_self).result_result s
    rw [first] at others
    rw [inTurn_cons, inTurn_cons]
    exact others

theorem inTurn_keeps {v : σ → ω} {cs : List (Call σ α)}
    (kept : ∀ c ∈ cs, ∀ s, v (c.result s).2 = v s) (s : σ) : v (inTurn cs s) = v s := by
  induction cs generalizing s with
  | nil => rfl
  | cons c cs ih =>
    rw [inTurn_cons, ih (fun d hd => kept d (List.mem_cons_of_mem c hd))]
    exact kept c List.mem_cons_self s

/-- Of calls in turn that keep apart, one alone decides on what no other one changes. -/
theorem view_inTurn {v : σ → ω} {c : Call σ α} {before after : List (Call σ α)}
    (apart : ∀ d ∈ before, c.Apart d)
    (kept : ∀ d ∈ before ++ after, ∀ s, v (d.result s).2 = v s) (s : σ) :
    v (inTurn (before ++ c :: after) s) = v (c.result s).2 := by
  have early : ∀ d ∈ before, ∀ t, v (d.result t).2 = v t :=
    fun d hd => kept d (List.mem_append_left after hd)
  have late : ∀ d ∈ after, ∀ t, v (d.result t).2 = v t :=
    fun d hd => kept d (List.mem_append_right before hd)
  rw [inTurn_append, inTurn_cons, inTurn_keeps late, result_inTurn apart]
  exact inTurn_keeps early _

/-! ### What comes next in a call -/

/-- What may be left of a call after one node. -/
inductive Next : Call σ α → Call σ α → Prop
  | pause (d : Nat) (rest : Call σ α) : Next rest (.pause d rest)
  | note (e : Event) (rest : Call σ α) : Next rest (.note e rest)
  | step (act : σ → σ) (rest : σ → Call σ α) (s : σ) : Next (rest s) (.step act rest)

/-- On each of its paths a call comes to its end. -/
theorem wellFounded_next : WellFounded (Next (σ := σ) (α := α)) := by
  refine ⟨fun c => ?_⟩
  induction c with
  | done a => exact ⟨_, fun left next => by cases next⟩
  | pause d rest ih =>
    refine ⟨_, fun left next => ?_⟩
    cases next
    exact ih
  | note e rest ih =>
    refine ⟨_, fun left next => ?_⟩
    cases next
    exact ih
  | step act rest ih =>
    refine ⟨_, fun left next => ?_⟩
    cases next with
    | step act rest s => exact ih s

end Call

/-! ### Races -/

/-- A call under way: what is left of it, and when it goes on. -/
structure Runner (σ α : Type) where
  due : Nat
  left : Call σ α

/-- Several calls under way on a shared state. -/
structure Race (σ α : Type) where
  state : σ
  runners : List (Runner σ α)

variable {σ α : Type}

namespace Runner
variable {s s' : σ} {r r' : Runner σ α}

/-- The call is done. -/
def Finished (r : Runner σ α) : Prop := ∃ a, r.left = .done a

/-- The next node of a call: it may put the runner off, or change the state. -/
inductive Moves (s : σ) : Runner σ α → σ → Runner σ α → Prop
  | pause (t d : Nat) (rest : Call σ α) : Moves s ⟨t, .pause d rest⟩ s ⟨t + d, rest⟩
  | note (t : Nat) (e : Event) (rest : Call σ α) : Moves s ⟨t, .note e rest⟩ s ⟨t, rest⟩
  | step (t : Nat) (act : σ → σ) (rest : σ → Call σ α) :
    Moves s ⟨t, .step act rest⟩ (act s) ⟨t, rest s⟩

/-- What becomes of a runner when nobody else moves. -/
def alone (s : σ) (r : Runner σ α) : Runner σ α :=
  ⟨r.due + r.left.elapsed s, .done (r.left.result s).1⟩

theorem alone_of_finished (complete : r.Finished) (s : σ) : r.alone s = r := by
  obtain ⟨t, left⟩ := r
  obtain ⟨a, rfl⟩ := complete
  rfl

theorem finished_of_map {rs : List (Runner σ α)} {as : List α}
    (complete : rs.map Runner.left = as.map .done) : ∀ r ∈ rs, r.Finished := by
  intro r hr
  have left : r.left ∈ as.map Call.done := complete ▸ List.mem_map_of_mem hr
  obtain ⟨a, -, same⟩ := List.mem_map.mp left
  exact ⟨a, same.symm⟩

theorem exists_moves (busy : ¬ r.Finished) (s : σ) : ∃ s' r', Moves s r s' r' := by
  obtain ⟨t, left⟩ := r
  cases left with
  | done a => exact absurd ⟨a, rfl⟩ busy
  | pause d rest => exact ⟨_, _, .pause t d rest⟩
  | note e rest => exact ⟨_, _, .note t e rest⟩
  | step act rest => exact ⟨_, _, .step t act rest⟩

namespace Moves

theorem next (moves : Moves s r s' r') : r'.left.Next r.left := by
  cases moves with
  | pause t d rest => exact .pause d rest
  | note t e rest => exact .note e rest
  | step t act rest => exact .step act rest s

theorem due_le (moves : Moves s r s' r') : r.due ≤ r'.due := by
  cases moves with
  | pause t d rest => exact Nat.le_add_right t d
  | note | step => exact Nat.le_refl _

theorem alone (moves : Moves s r s' r') :
    r'.alone s' = r.alone s ∧ r'.left.result s' = r.left.result s := by
  cases moves with
  | pause t d rest =>
    refine ⟨?_, rfl⟩
    simp only [Runner.alone, Call.elapsed_pause, Call.result_pause, Nat.add_assoc]
  | note | step => exact ⟨rfl, rfl⟩

theorem within {rg : RelyGuarantee σ} (moves : Moves s r s' r') (h : r.left.Within rg) :
    r'.left.Within rg ∧ (s' = s ∨ ∃ act, rg.own act ∧ s' = act s) := by
  cases moves with
  | pause | note => exact ⟨h, .inl rfl⟩
  | step t act rest => exact ⟨h.2.2 s, .inr ⟨act, h.1, rfl⟩⟩

theorem apart {q : Runner σ α} (moves : Moves s r s' r') (apart : r.left.Apart q.left) :
    r'.left.Apart q.left := by
  obtain ⟨S, T, hr, hq, there, here⟩ := apart
  exact ⟨S, T, (moves.within hr).1, hq, there, here⟩

theorem alone_apart {q : Runner σ α} (moves : Moves s r s' r') (apart : r.left.Apart q.left) :
    q.alone s' = q.alone s := by
  obtain ⟨S, T, hr, hq, there, -⟩ := apart
  obtain same | ⟨act, own, changed⟩ := (moves.within hr).2
  · rw [same]
  · rw [changed, Runner.alone, Runner.alone, hq.elapsed_foreign (there act own),
      hq.result_foreign (there act own)]

end Moves

end Runner

namespace Race
variable {race next : Race σ α} {Q : Race σ α → Prop}

/-- All calls are done. -/
def Finished (race : Race σ α) : Prop := ∀ r ∈ race.runners, r.Finished

/-- One of those that are due first moves. -/
inductive Turn : Race σ α → Race σ α → Prop
  | mk {s s' : σ} {r r' : Runner σ α} {before after : List (Runner σ α)}
    (moves : r.Moves s s' r') (first : ∀ q ∈ before ++ after, q.Finished ∨ r.due ≤ q.due) :
    Turn ⟨s, before ++ r :: after⟩ ⟨s', before ++ r' :: after⟩

/-- However the race is played, it comes to its end, and then something holds. -/
inductive Surely (Q : Race σ α → Prop) : Race σ α → Prop
  | finished {race : Race σ α} (complete : race.Finished) (holds : Q race) : Surely Q race
  | turn {race : Race σ α} (able : ∃ next, race.Turn next)
    (each : ∀ next, race.Turn next → Surely Q next) : Surely Q race

/-- Some calls that begin together. -/
def start (s : σ) (cs : List (Call σ α)) : Race σ α := ⟨s, cs.map fun c => ⟨0, c⟩⟩

/-- Any two of the calls keep apart. -/
def Apart (race : Race σ α) : Prop := race.runners.Pairwise fun q r => q.left.Apart r.left

/-- The calls made one after the other, while each of them takes its own time. -/
def forecast (race : Race σ α) : Race σ α where
  state := Call.inTurn (race.runners.map Runner.left) race.state
  runners := race.runners.map (Runner.alone race.state)

/-- Some runner who is not done is due first, so somebody can move. -/
theorem exists_turn (busy : ¬ race.Finished) : ∃ next, race.Turn next := by
  obtain ⟨s, runners⟩ := race
  have open' : {r | r ∈ runners ∧ ¬ r.Finished}.Nonempty := by
    rw [Finished] at busy
    push Not at busy
    exact busy
  obtain ⟨r, ⟨mem, running⟩, least⟩ := (measure Runner.due).wf.has_min _ open'
  obtain ⟨before, after, rfl⟩ := List.append_of_mem mem
  obtain ⟨s', r', moves⟩ := Runner.exists_moves running s
  refine ⟨_, .mk moves fun q hq => ?_⟩
  by_cases complete : q.Finished
  · exact .inl complete
  · have there : q ∈ before ++ r :: after := List.mem_append.mpr <| by
      rcases List.mem_append.mp hq with early | late
      · exact .inl early
      · exact .inr (List.mem_cons_of_mem r late)
    exact .inr (Nat.le_of_not_lt (least q ⟨there, complete⟩))

/-- No race goes on for ever. -/
theorem wellFounded_turn : WellFounded fun next race : Race σ α => race.Turn next := by
  let lefts : Race σ α → Multiset (Call σ α) := fun race => (race.runners.map Runner.left : List _)
  refine Subrelation.wf ?_ (InvImage.wf lefts Call.wellFounded_next.cutExpand)
  intro next race turn
  cases turn with
  | @mk s s' r r' before after moves first =>
    have middle : ∀ q : Runner σ α, lefts ⟨s, before ++ q :: after⟩ =
        q.left ::ₘ lefts ⟨s, before ++ after⟩ := by
      intro q
      simp only [lefts, List.map_append, List.map_cons]
      exact Multiset.coe_eq_coe.mpr List.perm_middle
    refine ⟨{r'.left}, r.left, ?_, ?_⟩
    · intro left mem
      rw [Multiset.mem_singleton.mp mem]
      exact moves.next
    · change lefts ⟨s, before ++ r' :: after⟩ + _ = lefts ⟨s, before ++ r :: after⟩ + _
      rw [middle r', middle r, Multiset.add_comm, Multiset.singleton_add, Multiset.cons_swap,
        Multiset.add_comm, Multiset.singleton_add]

theorem apart_middle {s : σ} {r : Runner σ α} {before after : List (Runner σ α)} :
    Apart ⟨s, before ++ r :: after⟩ ↔
      (∀ q ∈ before ++ after, r.left.Apart q.left) ∧ Apart ⟨s, before ++ after⟩ := by
  have comm : ∀ {p q : Runner σ α}, p.left.Apart q.left → q.left.Apart p.left :=
    fun h => Call.Apart.symm h
  rw [Apart, List.pairwise_middle comm]
  exact List.pairwise_cons

theorem Turn.apart (turn : race.Turn next) (apart : race.Apart) : next.Apart := by
  cases turn with
  | mk moves first =>
    obtain ⟨others, among⟩ := apart_middle.mp apart
    exact apart_middle.mpr ⟨fun q hq => moves.apart (others q hq), among⟩

/-- A turn keeps the forecast if the calls keep apart. -/
theorem Turn.forecast (turn : race.Turn next) (apart : race.Apart) :
    next.forecast = race.forecast := by
  cases turn with
  | @mk s s' r r' before after moves first =>
    have others := (apart_middle.mp apart).1
    obtain ⟨alone, result⟩ := moves.alone
    have still : ∀ q ∈ before ++ after, q.alone s' = q.alone s :=
      fun q hq => moves.alone_apart (others q hq)
    -- whoever comes before may as well come after the one that moves
    have early : ∀ d ∈ before.map Runner.left, r.left.Apart d :=
      List.forall_mem_map.mpr fun q hq => others q (List.mem_append_left after hq)
    have early' : ∀ d ∈ before.map Runner.left, r'.left.Apart d :=
      List.forall_mem_map.mpr fun q hq => moves.apart (others q (List.mem_append_left after hq))
    have state : Call.inTurn ((before ++ r' :: after).map Runner.left) s' =
        Call.inTurn ((before ++ r :: after).map Runner.left) s := by
      simp only [List.map_append, List.map_cons, Call.inTurn_append, Call.inTurn_cons]
      rw [Call.result_inTurn early', Call.result_inTurn early, result]
    have runners : (before ++ r' :: after).map (Runner.alone s') =
        (before ++ r :: after).map (Runner.alone s) := by
      simp only [List.map_append, List.map_cons, alone]
      rw [List.map_congr_left fun q hq => still q (List.mem_append_left after hq),
        List.map_congr_left fun q hq => still q (List.mem_append_right before hq)]
    rw [Race.forecast, Race.forecast]
    exact congrArg₂ Race.mk state runners

theorem forecast_of_finished (complete : race.Finished) : race.forecast = race := by
  obtain ⟨s, runners⟩ := race
  have state : Call.inTurn (runners.map Runner.left) s = s := by
    refine Call.inTurn_keeps (v := id) (fun c hc t => ?_) s
    obtain ⟨r, hr, rfl⟩ := List.mem_map.mp hc
    obtain ⟨a, done⟩ := complete r hr
    rw [done]
    rfl
  have still : runners.map (Runner.alone s) = runners := by
    rw [List.map_congr_left fun r hr => Runner.alone_of_finished (complete r hr) s]
    exact List.map_id' runners
  exact congrArg₂ Race.mk state still

/-- A race of calls that keep apart ends in its forecast, however it is played. -/
theorem surely_forecast (apart : race.Apart) : race.Surely fun last => last = race.forecast := by
  induction race using wellFounded_turn.induction with
  | _ race ih =>
    by_cases complete : race.Finished
    · exact .finished complete (forecast_of_finished complete).symm
    · refine .turn (exists_turn complete) fun next turn => ?_
      have later := ih next turn (turn.apart apart)
      rw [turn.forecast apart] at later
      exact later

/-- A race that is played for a while. -/
def Reaches : Race σ α → Race σ α → Prop := Relation.ReflTransGen Turn

theorem Reaches.forecast (reaches : race.Reaches next) (apart : race.Apart) :
    next.forecast = race.forecast := by
  have both : next.Apart ∧ next.forecast = race.forecast := by
    induction reaches with
    | refl => exact ⟨apart, rfl⟩
    | tail _ turn ih => exact ⟨turn.apart ih.1, (turn.forecast ih.1).trans ih.2⟩
  exact both.2

/-- Nobody who was put off to an instant goes on before. -/
theorem Reaches.due {n : Nat} (reaches : race.Reaches next) (long : ∃ r ∈ race.runners, n ≤ r.due) :
    ∃ r ∈ next.runners, n ≤ r.due := by
  induction reaches with
  | refl => exact long
  | tail _ turn ih =>
    cases turn with
    | @mk s s' r r' before after moves first =>
      obtain ⟨q, hq, late⟩ := ih
      rcases List.mem_append.mp hq with early | hq
      · exact ⟨q, List.mem_append_left _ early, late⟩
      · rcases List.mem_cons.mp hq with rfl | hq
        · have moved : r' ∈ before ++ r' :: after :=
            List.mem_append_right before List.mem_cons_self
          exact ⟨r', moved, Nat.le_trans late moves.due_le⟩
        · exact ⟨q, List.mem_append_right before (List.mem_cons_of_mem r' hq), late⟩

end Race

/-! ### How calls run together -/

/-- A call that plays the race of some runners from an instant on: it makes their moves, and it lets
time pass when nobody is due. -/
inductive Plays : Nat → List (Runner σ α) → Call σ (List α) → Prop
  | done {now : Nat} {rs : List (Runner σ α)} {as : List α}
    (complete : rs.map Runner.left = as.map .done) (past : ∀ r ∈ rs, r.due ≤ now) :
    Plays now rs (.done as)
  | sleep {now d : Nat} {rs : List (Runner σ α)} {c : Call σ (List α)}
    (idle : ∀ r ∈ rs, r.Finished ∨ now + d ≤ r.due) (long : ∃ r ∈ rs, now + d ≤ r.due)
    (later : Plays (now + d) rs c) : Plays now rs (.pause d c)
  | pause {now d : Nat} {rest : Call σ α} {c : Call σ (List α)} (before after : List (Runner σ α))
    (first : ∀ q ∈ before ++ after, q.Finished ∨ now ≤ q.due)
    (later : Plays now (before ++ ⟨now + d, rest⟩ :: after) c) :
    Plays now (before ++ ⟨now, .pause d rest⟩ :: after) c
  | note {now : Nat} {e : Event} {rest : Call σ α} {c : Call σ (List α)}
    (before after : List (Runner σ α)) (first : ∀ q ∈ before ++ after, q.Finished ∨ now ≤ q.due)
    (later : Plays now (before ++ ⟨now, rest⟩ :: after) c) :
    Plays now (before ++ ⟨now, .note e rest⟩ :: after) (.note e c)
  | step {now : Nat} {act : σ → σ} {rest : σ → Call σ α} {c : σ → Call σ (List α)}
    (before after : List (Runner σ α)) (first : ∀ q ∈ before ++ after, q.Finished ∨ now ≤ q.due)
    (later : ∀ s, Plays now (before ++ ⟨now, rest s⟩ :: after) (c s)) :
    Plays now (before ++ ⟨now, .step act rest⟩ :: after) (.step act c)

namespace Plays
variable {now : Nat} {rs : List (Runner σ α)} {c : Call σ (List α)}

theorem waits (h : Plays now rs c) : ∀ r ∈ rs, r.Finished ∨ now ≤ r.due := by
  have middle : ∀ {q : Runner σ α} {before after : List (Runner σ α)}, now ≤ q.due →
      (∀ r ∈ before ++ after, r.Finished ∨ now ≤ r.due) →
        ∀ r ∈ before ++ q :: after, r.Finished ∨ now ≤ r.due := by
    intro q before after here first r hr
    rcases List.mem_append.mp hr with early | hr
    · exact first r (List.mem_append_left after early)
    · rcases List.mem_cons.mp hr with rfl | late
      · exact .inr here
      · exact first r (List.mem_append_right before late)
  cases h with
  | done complete past => exact fun r hr => .inl (Runner.finished_of_map complete r hr)
  | sleep idle long later =>
    intro r hr
    rcases idle r hr with ended | late
    · exact .inl ended
    · exact .inr (Nat.le_trans (Nat.le_add_right now _) late)
  | pause before after first later => exact middle (Nat.le_refl now) first
  | note before after first later => exact middle (Nat.le_refl now) first
  | step before after first later => exact middle (Nat.le_refl now) first

/-- What plays a race by itself brings it to its end. -/
theorem ends (h : Plays now rs c) (s : σ) : ∃ last : List (Runner σ α),
    Race.Reaches ⟨s, rs⟩ ⟨(c.result s).2, last⟩ ∧
      last.map Runner.left = (c.result s).1.map .done ∧
        (∀ r ∈ last, r.due ≤ now + c.elapsed s) ∧
          (c.elapsed s = 0 ∨ ∃ r ∈ last, now + c.elapsed s ≤ r.due) := by
  induction h generalizing s with
  | done complete past => exact ⟨_, .refl, complete, past, .inl rfl⟩
  | @sleep now d rs c idle long later ih =>
    obtain ⟨last, reaches, complete, past, due⟩ := ih s
    rw [Nat.add_assoc] at past due
    refine ⟨last, reaches, complete, past, .inr ?_⟩
    rcases due with none | due
    · obtain ⟨r, hr, late⟩ := reaches.due long
      refine ⟨r, hr, ?_⟩
      rw [Call.elapsed_pause, none]
      exact late
    · exact due
  | pause before after first later ih =>
    obtain ⟨last, reaches, rest⟩ := ih s
    exact ⟨last, .head (.mk (.pause _ _ _) first) reaches, rest⟩
  | note before after first later ih =>
    obtain ⟨last, reaches, rest⟩ := ih s
    exact ⟨last, .head (.mk (.note _ _ _) first) reaches, rest⟩
  | @step now act rest c before after first later ih =>
    obtain ⟨last, reaches, rest⟩ := ih s (act s)
    exact ⟨last, .head (.mk (.step _ _ _) first) reaches, rest⟩

theorem beside_done {t : Nat} (h : Plays now rs c) (past : t ≤ now) (a : α) :
    Plays now (⟨t, .done a⟩ :: rs) (Call.bind c fun as => .done (a :: as)) := by
  have ended : Runner.Finished ⟨t, (.done a : Call σ α)⟩ := ⟨a, rfl⟩
  induction h with
  | done complete early =>
    exact .done (congrArg _ complete) (List.forall_mem_cons.mpr ⟨past, early⟩)
  | sleep idle long later ih =>
    obtain ⟨r, hr, late⟩ := long
    refine .sleep ?_ ⟨r, List.mem_cons_of_mem _ hr, late⟩ (ih (by omega))
    exact List.forall_mem_cons.mpr ⟨.inl ended, idle⟩
  | pause before after first later ih =>
    exact .pause (⟨t, .done a⟩ :: before) after
      (List.forall_mem_cons.mpr ⟨.inl ended, first⟩) (ih past)
  | note before after first later ih =>
    exact .note (⟨t, .done a⟩ :: before) after
      (List.forall_mem_cons.mpr ⟨.inl ended, first⟩) (ih past)
  | step before after first later ih =>
    exact .step (⟨t, .done a⟩ :: before) after
      (List.forall_mem_cons.mpr ⟨.inl ended, first⟩) fun s => ih s past

/-- While a call pauses, the others go on. -/
theorem during {next : Call σ (List α) → Call σ (α × Call σ (List α))} {rest : Call σ α}
    {give : α × Call σ (List α) → Call σ (List α)}
    (hn : ∀ now rs left, Plays now rs left →
      Plays now (⟨now, rest⟩ :: rs) (Call.bind (next left) give))
    (h : Plays now rs c) (d : Nat) :
    Plays now (⟨now + d, rest⟩ :: rs) (Call.bind (Call.during d next c) give) := by
  induction h generalizing d with
  | @done now rs as complete past =>
    have left : Plays (now + d) rs (.done as) :=
      .done complete fun r hr => Nat.le_trans (past r hr) (Nat.le_add_right now d)
    refine .sleep ?_ ⟨_, List.mem_cons_self, Nat.le_refl _⟩ (hn (now + d) rs _ left)
    exact List.forall_mem_cons.mpr ⟨.inr (Nat.le_refl _), left.waits⟩
  | @sleep now e rs c idle long later ih =>
    rw [Call.during]
    split
    · rename_i shorter
      -- the call goes on first, and the others are left with the rest of their pause
      have left : Plays (now + d) rs (.pause (e - d) c) := by
        have until' : now + d + (e - d) = now + e := by omega
        refine .sleep ?_ ?_ ?_
        · rw [until']
          exact idle
        · rw [until']
          exact long
        · rw [until']
          exact later
      refine .sleep ?_ ⟨_, List.mem_cons_self, Nat.le_refl _⟩ (hn (now + d) rs _ left)
      exact List.forall_mem_cons.mpr ⟨.inr (Nat.le_refl _), left.waits⟩
    · rename_i longer
      -- somebody else goes on first, and the call pauses for the rest of its time
      have rest' := ih (d - e)
      have until' : now + e + (d - e) = now + d := by omega
      rw [until'] at rest'
      obtain ⟨r, hr, late⟩ := long
      have sooner : now + e ≤ now + d := by omega
      refine .sleep ?_ ⟨r, List.mem_cons_of_mem _ hr, late⟩ rest'
      exact List.forall_mem_cons.mpr ⟨.inr sooner, idle⟩
  | @pause now e left c before after first later ih =>
    exact .pause (⟨now + d, rest⟩ :: before) after
      (List.forall_mem_cons.mpr ⟨.inr (Nat.le_add_right now d), first⟩) (ih d)
  | @note now e left c before after first later ih =>
    exact .note (⟨now + d, rest⟩ :: before) after
      (List.forall_mem_cons.mpr ⟨.inr (Nat.le_add_right now d), first⟩) (ih d)
  | @step now act left c before after first later ih =>
    exact .step (⟨now + d, rest⟩ :: before) after
      (List.forall_mem_cons.mpr ⟨.inr (Nat.le_add_right now d), first⟩) fun s => ih s d

/-- One more call runs beside the others. -/
theorem beside (h : Plays now rs c) (one : Call σ α) :
    Plays now (⟨now, one⟩ :: rs) (Call.bind (Call.beside one c) fun (a, left) =>
      Call.bind left fun as => .done (a :: as)) := by
  induction one generalizing now rs c with
  | done a => exact h.beside_done (Nat.le_refl now) a
  | pause d rest ih =>
    exact .pause [] _ h.waits (h.during (fun _ _ _ left => ih left) d)
  | note e rest ih => exact .note [] _ h.waits (ih h)
  | step act rest ih => exact .step [] _ h.waits fun s => ih s h

end Plays

/-- Calls that run together play their race. -/
theorem plays_together (cs : List (Call σ α)) :
    Plays 0 (cs.map fun c => ⟨0, c⟩) (Call.together cs) := by
  induction cs with
  | nil => exact .done rfl (by simp)
  | cons c cs ih => exact ih.beside c

/-- The time that the longest of some calls takes by itself. -/
def Call.longest (cs : List (Call σ α)) (s : σ) : Nat := (cs.map fun c => c.elapsed s).foldr max 0

theorem Race.forecast_start (s : σ) (cs : List (Call σ α)) : (Race.start s cs).forecast =
    ⟨Call.inTurn cs s, cs.map fun c => ⟨c.elapsed s, .done (c.result s).1⟩⟩ := by
  simp only [Race.forecast, Race.start, List.map_map]
  refine congrArg₂ Race.mk (congrArg (Call.inTurn · s) ?_) (List.map_congr_left fun c _ => ?_)
  · exact List.map_id' cs
  · exact congrArg (Runner.mk · _) (Nat.zero_add _)

/-- Together, calls that keep apart leave what they leave in turn, each answers what it answers by
itself, and they take as long as the longest of them. -/
theorem Call.leaves_together {cs : List (Call σ α)} (apart : cs.Pairwise Call.Apart) (s : σ) :
    (Call.together cs).Leaves s (cs.map fun c => (c.result s).1) (Call.inTurn cs s)
      (Call.longest cs s) := by
  obtain ⟨last, reaches, complete, past, due⟩ := (plays_together cs).ends s
  rw [Nat.zero_add] at past due
  have racing : (Race.start s cs).Apart := List.pairwise_map.mpr apart
  have forecast := reaches.forecast racing
  rw [Race.forecast_of_finished (Runner.finished_of_map complete)] at forecast
  obtain ⟨state, rfl⟩ := Race.mk.inj (forecast.trans (Race.forecast_start s cs))
  have answers : ((Call.together cs).result s).1 = cs.map fun c => (c.result s).1 := by
    rw [List.map_map] at complete
    refine List.map_injective_iff.mpr (fun a b same => Call.done.inj same) (complete.symm.trans ?_)
    rw [List.map_map]
    rfl
  refine ⟨Prod.ext answers state, Nat.le_antisymm ?_ ?_⟩
  · rcases due with none | ⟨r, hr, late⟩
    · rw [none]
      exact Nat.zero_le _
    · obtain ⟨c, hc, rfl⟩ := List.mem_map.mp hr
      have there : c.elapsed s ∈ cs.map fun c => c.elapsed s := List.mem_map_of_mem hc
      exact List.le_max_of_le there late
  · refine List.max_le_of_forall_le _ _ fun d hd => ?_
    obtain ⟨c, hc, rfl⟩ := List.mem_map.mp hd
    exact past ⟨c.elapsed s, .done (c.result s).1⟩ (List.mem_map_of_mem hc)

end FaultLab
