import FaultLab.Proofs.Reports
import Mathlib.Logic.Function.Iterate

/-! # Readings one after the other

While the lag lasts a reading counts down, then it looks.  As a look finds after a look what the first
one has found (`Fabric.look_look`), it does not matter when the look comes: after one more reading than
the lag has left, one look has been made and nothing is left to count (`Fabric.watched_iterate`), and
from then on readings change nothing (`Fabric.watched_settled`).

A `Peek` is a reading that no client answers from memory, and `Lab.settled_after` applies this to a
lab whose servers are all up and whole: the report is stable, nobody counts as unresponsive, and the
epoch has grown by one at most. -/

namespace FaultLab.Simulation

namespace Fabric
variable {f : Fabric} {l : Layout} {n : Nat}

/-! ### Readings of a fabric -/

/-- The fabric after a look at a layout, with no reading left to come before the next look. -/
def settled (l : Layout) (f : Fabric) : Fabric := { f.look l with lagRemaining := 0 }

theorem watched_of_layout (up : f.managementDown = false) (hl : f.layout = some l) :
    f.watched = if f.Waiting then f.countDown else f.look l := by
  rw [watched, observe_of_layout up hl]

theorem observe_eq_watched (up : f.managementDown = false) (hl : f.layout = some l) :
    f.observe = .ok f.watched := by
  rw [watched_of_layout up hl, observe_of_layout up hl]

/-- Where a look changes nothing, readings only count down what is left. -/
theorem iterate_of_look_eq (up : f.managementDown = false) (hl : f.layout = some l)
    (still : f.look l = f) (few : f.lagRemaining ≤ n) :
    watched^[n] f = { f with lagRemaining := 0 } := by
  induction n generalizing f with
  | zero =>
    have none : f.lagRemaining = 0 := Nat.le_zero.mp few
    rw [Function.iterate_zero_apply, ← none]
  | succ n ih =>
    rw [Function.iterate_succ_apply, watched_of_layout up hl]
    split
    · have counted : f.countDown.look l = f.countDown := by
        have same : f.countDown.look l = { f.look l with lagRemaining := f.lagRemaining - 1 } := rfl
        rw [same, still]
        rfl
      exact ih up hl counted (Nat.sub_le_of_le_add few)
    · rename_i due
      -- There is a report, as a look makes one, so nothing was left to count.
      have reported : f.report.isSome = true := by
        rw [← still]
        rfl
      have none : f.lagRemaining = 0 := by
        by_contra some
        exact due ⟨reported, Nat.pos_of_ne_zero some⟩
      rw [still]
      exact ih up hl still (none ▸ Nat.zero_le n)

/-- **One look is made** by one more reading than the lag has left. -/
theorem watched_iterate (up : f.managementDown = false) (hl : f.layout = some l)
    (few : f.lagRemaining ≤ n) : watched^[n + 1] f = f.settled l := by
  rw [Function.iterate_succ_apply, watched_of_layout up hl]
  induction n generalizing f with
  | zero =>
    have none : f.lagRemaining = 0 := Nat.le_zero.mp few
    rw [if_neg fun waiting => Nat.ne_of_gt waiting.2 none, Function.iterate_zero_apply, settled]
    have same : (f.look l).lagRemaining = 0 := none
    rw [← same]
  | succ n ih =>
    by_cases waiting : f.Waiting
    · rw [if_pos waiting, Function.iterate_succ_apply, watched_of_layout (f := f.countDown) up hl]
      exact ih up hl (Nat.sub_le_of_le_add few)
    · rw [if_neg waiting]
      exact iterate_of_look_eq up rfl (look_look f l) few

/-- When a look was made and nothing is left to count, readings change nothing. -/
theorem watched_settled (up : f.managementDown = false) :
    (f.settled l).watched = f.settled l := by
  have still : (f.settled l).look (settle (f.detect l) l) = f.settled l :=
    congrArg (fun g : Fabric => { g with lagRemaining := 0 }) (look_look f l)
  rw [watched_of_layout (f := f.settled l) up rfl, still]
  exact if_neg fun waiting => Nat.lt_irrefl 0 waiting.2

/-! ### A look at servers that are whole -/

/-- Whether a member is up and blocks nobody. -/
structure Whole (f : Fabric) (e : Endpoint) : Prop where
  up : f.isUp e = true
  blocks : f.blockedBy e = .empty

/-- Where all servers are whole, the detector finds nothing. -/
theorem detect_eq_empty (distinct : l.servers.Nodup) (whole : ∀ e ∈ l.servers, f.Whole e) :
    f.detect l = .empty := by
  refine EndpointSet.ext fun e => iff_of_false (fun found => ?_) (EndpointSet.not_mem_empty e)
  have server := mem_servers_of_mem_detect found
  obtain ⟨b, other, -, -, severed⟩ :=
    exists_severed_of_mem_detect distinct found (whole e server).up
  rw [Severed, (whole e server).blocks, (whole b other).blocks] at severed
  rcases severed with severed | severed
  · exact EndpointSet.not_mem_empty b severed
  · exact EndpointSet.not_mem_empty e severed

/-- What is to be read when all servers are whole and a layout is settled. -/
structure Quiet (f : Fabric) (l m : Layout) (r : StatusReport) : Prop where
  layout : f.layout = some m
  report : f.report = some r
  stable : r.overall = .stable
  strong : r.reliability = .strongQuorum
  responsive : m.unresponsive = .empty
  next : m = l ∨ m = l.markUnresponsive .empty

/-- A look at servers that are whole finds a stable cluster. -/
theorem quiet_settled (distinct : l.servers.Nodup) (servers : l.servers ≠ [])
    (whole : ∀ e ∈ l.servers, f.Whole e) : ∃ m r, (f.settled l).Quiet l m r := by
  have nothing := detect_eq_empty distinct whole
  have quorum : hasQuorum l .empty = true := hasQuorum_of_isEmpty servers rfl
  refine ⟨settle (f.detect l) l, f.reportOn l (f.detect l), rfl, rfl, ?_, ?_, ?_, ?_⟩
  · rw [nothing, reportOn]
    rfl
  · rw [nothing, reportOn]
    exact if_pos quorum
  · rw [nothing]
    exact unresponsive_settle quorum
  · rw [nothing, settle]
    split
    · exact .inr rfl
    · exact .inl rfl

end Fabric

/-! ### Readings in a lab -/

/-- A reading of the management that its client does not answer from memory. -/
inductive Peek where
  | status (client : Nat)
  | layout (client : Nat)

namespace Peek

/-- Who reads. -/
def client : Peek → Nat
  | status n => n
  | layout n => n

/-- The requests of a reading; a client that is to read the layout has to forget it first. -/
def deeds : Peek → List Deed
  | status n => [.request n .getStatus]
  | layout n => [.request n .invalidate, .request n .getLayout]

end Peek

namespace Lab
variable {lab : Lab} {l : Layout} {n : Nat}

/-- The lab after some readings. -/
def peeked (lab : Lab) (peeks : List Peek) : Lab := lab.after (peeks.flatMap Peek.deeds)

theorem length_memories_request (lab : Lab) (number : Nat) (req : Request) :
    (lab.perform (.request number req)).memories.length = lab.memories.length := by
  by_cases there : number < lab.memories.length
  · rw [perform_request there]
    exact List.length_set
  · rw [perform, if_neg there]

theorem length_memories_peek (lab : Lab) (peek : Peek) :
    (lab.after peek.deeds).memories.length = lab.memories.length := by
  cases peek with
  | status number => exact length_memories_request lab number .getStatus
  | layout number =>
    rw [Peek.deeds, after_cons, after_cons, after_nil, length_memories_request,
      length_memories_request]

theorem fabric_peek {peek : Peek} (there : peek.client < lab.memories.length) :
    (lab.after peek.deeds).fabric = lab.fabric.watched := by
  cases peek with
  | status number =>
    have there : number < lab.memories.length := there
    change (lab.perform (.request number .getStatus)).fabric = _
    rw [fabric_perform, stages, if_pos there]
    rfl
  | layout number =>
    have there : number < lab.memories.length := there
    change ((lab.perform (.request number .invalidate)).perform (.request number .getLayout)).fabric = _
    have still : number < (lab.perform (.request number .invalidate)).memories.length := by
      rw [length_memories_request]
      exact there
    rw [fabric_perform, stages, if_pos still, perform_request there, ClientState.asked_invalidate,
      (lawful_clientState number).get_set _ _ there]
    rfl

/-- Readings change the fabric alone, apart from what the clients remember, and each one like any
other. -/
theorem fabric_peeked {peeks : List Peek}
    (there : ∀ peek ∈ peeks, peek.client < lab.memories.length) :
    (lab.peeked peeks).fabric = Fabric.watched^[peeks.length] lab.fabric := by
  induction peeks generalizing lab with
  | nil => rfl
  | cons peek peeks ih =>
    rw [peeked, List.flatMap_cons, after_append, List.length_cons, Function.iterate_succ_apply,
      ← fabric_peek (there peek List.mem_cons_self)]
    refine ih fun other mem => ?_
    rw [length_memories_peek]
    exact there other (List.mem_cons_of_mem _ mem)

theorem length_memories_peeked (lab : Lab) (peeks : List Peek) :
    (lab.peeked peeks).memories.length = lab.memories.length := by
  induction peeks generalizing lab with
  | nil => rfl
  | cons peek peeks ih =>
    rw [peeked, List.flatMap_cons, after_append, ← length_memories_peek lab peek]
    exact ih _

/-- Where a look was made and nothing is left to count, readings answer with the report that is
there. -/
theorem asked_getStatus_settled {f : Fabric} {r : StatusReport} (up : f.managementDown = false)
    (there : n < lab.memories.length) (settled : lab.fabric = f.settled l)
    (report : lab.fabric.report = some r) : (lab.asked n .getStatus).1 = .ok (.status r) := by
  have seen : ((clientState n).get lab).fabric.observe = .ok lab.fabric := by
    change lab.fabric.observe = .ok lab.fabric
    rw [settled, Fabric.observe_eq_watched (f := f.settled l) up rfl, Fabric.watched_settled up]
  rw [asked_eq there, ClientState.asked_getStatus, seen]
  simp only [report]

/-- **A cluster that is whole settles.**  When all servers of the layout in place are up and block
nobody and the management is up, then after one more reading than the lag has left, the report is
stable with a strong quorum, nobody counts as unresponsive, and the layout is the one before or its
successor; and further readings change nothing. -/
theorem settled_after (lab : Lab) {peeks : List Peek} (up : lab.fabric.managementDown = false)
    (hl : lab.fabric.layout = some l) (distinct : l.servers.Nodup) (servers : l.servers ≠ [])
    (whole : ∀ e ∈ l.servers, lab.fabric.Whole e)
    (there : ∀ peek ∈ peeks, peek.client < lab.memories.length)
    (enough : lab.fabric.lagRemaining < peeks.length) :
    (∃ m r, (lab.peeked peeks).fabric.Quiet l m r ∧
      ∀ n < lab.memories.length, ((lab.peeked peeks).asked n .getStatus).1 = .ok (.status r)) ∧
      ∀ more : List Peek, (∀ peek ∈ more, peek.client < lab.memories.length) →
        ((lab.peeked peeks).peeked more).fabric = (lab.peeked peeks).fabric := by
  obtain ⟨n, length⟩ := Nat.exists_eq_succ_of_ne_zero (Nat.ne_zero_of_lt enough)
  have settled : (lab.peeked peeks).fabric = lab.fabric.settled l := by
    rw [fabric_peeked there, length]
    exact Fabric.watched_iterate up hl (by omega)
  obtain ⟨m, r, quiet⟩ := Fabric.quiet_settled distinct servers whole
  rw [← settled] at quiet
  refine ⟨⟨m, r, quiet, fun n here => ?_⟩, fun more here => ?_⟩
  · refine asked_getStatus_settled up ?_ settled quiet.report
    rw [length_memories_peeked]
    exact here
  · rw [fabric_peeked fun peek mem => (length_memories_peeked lab peeks).symm ▸ here peek mem, settled]
    exact Function.iterate_fixed (Fabric.watched_settled up) _

end Lab

end FaultLab.Simulation
