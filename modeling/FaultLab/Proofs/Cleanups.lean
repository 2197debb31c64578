import FaultLab.Proofs.Aborts
import FaultLab.Proofs.Shapes
import Mathlib.Algebra.GroupWithZero.Nat

/-! # Simulated deployments that fail

In a lab a deployment fails for one of three reasons (`Fabric.Stops`): the fixture is not valid, a
member cannot be made, or all submissions of the first layout are refused.  What comes before the
cleanup is known exactly in each case:

* the members up to the first one that fails are mustered, each under a new handle
  (`Lab.muster`, `Lab.leaves_provisionAll`);
* the submissions are counted, and nothing else comes of them (`Fabric.refusing`,
  `Lab.leaves_submit`).

The cleanup then tells each of these members once to be destroyed (`Post.razing`, `Lab.leaves_razes`),
and this destroys all but those whose destruction was to fail (`Lab.razed_after`). -/

namespace FaultLab.Simulation

/-! ### Making members -/

/-- How far the making of members comes that begins at an index: to the end, or to the first one that
cannot be made. -/
inductive Makes (failing : List Nat) (port : UInt16) (index left : Nat) :
    Nat → Except Failure Unit → Prop
  | all (able : ∀ i < left, failing.contains (index + i) = false) :
    Makes failing port index left left (.ok ())
  | first {count : Nat} (few : count < left)
    (able : ∀ i < count, failing.contains (index + i) = false)
    (fails : failing.contains (index + count) = true) :
    Makes failing port index left count (.error (.ofNode (endpointAt (index + count) port)
      Operation.provision.name .injectedProvisioning))

theorem Makes.succ {failing : List Nat} {port : UInt16} {index left count : Nat}
    {outcome : Except Failure Unit} (h : Makes failing port (index + 1) left count outcome)
    (able : failing.contains index = false) :
    Makes failing port index (left + 1) (count + 1) outcome := by
  have shift : ∀ i, index + 1 + i = index + (i + 1) := by omega
  have extend : ∀ {n : Nat}, (∀ i < n, failing.contains (index + 1 + i) = false) →
      ∀ i < n + 1, failing.contains (index + i) = false := by
    intro n later i hi
    cases i with
    | zero => exact able
    | succ i =>
      rw [← shift]
      exact later i (Nat.lt_of_succ_lt_succ hi)
  cases h with
  | all later => exact .all (extend later)
  | first few later fails =>
    rw [shift] at fails ⊢
    exact .first (Nat.succ_lt_succ few) (extend later) fails

namespace Lab
variable {lab lab' : Lab} {flavor : Flavor} {fixture : Fixture} {posts : List Post} {p : Post}
  {index left number : Nat} {nodes before : List (Node Lab)} {d : Nat}

/-- New members with new handles. -/
def muster (posts : List Post) (lab : Lab) : Lab :=
  posts.foldl (fun lab p => lab.enlist p.handle) lab

@[simp] theorem muster_nil (lab : Lab) : lab.muster [] = lab := rfl

@[simp] theorem muster_cons (lab : Lab) (p : Post) (posts : List Post) :
    lab.muster (p :: posts) = (lab.enlist p.handle).muster posts := rfl

theorem handles_muster (lab : Lab) (posts : List Post) :
    (lab.muster posts).handles = lab.handles ++ List.replicate posts.length firstCommand := by
  induction posts generalizing lab with
  | nil => simp
  | cons p posts ih =>
    rw [muster_cons, ih, enlist, List.append_assoc, List.length_cons, List.replicate_succ]
    rfl

theorem members_muster (lab : Lab) (posts : List Post) (e : Endpoint) :
    (lab.muster posts).fabric.members.get? e =
      if e ∈ posts.map Post.id then some .fresh else lab.fabric.members.get? e := by
  induction posts generalizing lab with
  | nil => simp
  | cons p posts ih =>
    have new : (lab.enlist p.handle).fabric.members.get? e =
        if e = p.id then some .fresh else lab.fabric.members.get? e := by
      change (lab.fabric.members.insert p.id .fresh).get? e = _
      rw [EndpointTable.get?_insert]
    rw [muster_cons, ih, new, List.map_cons]
    by_cases later : e ∈ posts.map Post.id
    · simp [later]
    · by_cases own : e = p.id
      · simp [own]
      · simp [later, own]

theorem fabric_muster (lab : Lab) (posts : List Post) : ∃ members lag,
    (lab.muster posts).fabric = { lab.fabric with members := members, lagRemaining := lag } := by
  induction posts generalizing lab with
  | nil => exact ⟨_, _, rfl⟩
  | cons p posts ih =>
    obtain ⟨members, lag, same⟩ := ih (lab.enlist p.handle)
    rw [muster_cons, same]
    exact ⟨members, lag, rfl⟩

theorem elapsed_provision (flavor : Flavor) (index : Nat) (fixture : Fixture) (lab : Lab) :
    ((backend flavor).provision index fixture).toCall.elapsed lab = 0 := by
  change (provision flavor index fixture).toCall.elapsed lab = 0
  unfold provision
  rw [Attempt.elapsed_bind, Attempt.elapsed_lift, Attempt.result_lift]
  by_cases failing : lab.fabric.failProvision.contains index = true
  · simp only [Call.result_read, failing, if_true]
    rfl
  · simp only [Call.result_read, failing, if_false, Bool.false_eq_true]
    rfl

/-- The members are made up to the first one that cannot be made. -/
theorem leaves_provisionAll {outcome : Except Failure Unit}
    (h : ((orchestrator flavor).provisionAll fixture index before left).Leaves lab
      (outcome, nodes) lab' d) :
    ∃ count, Makes lab.fabric.failProvision fixture.backend.memberPort index left count outcome ∧
      nodes = before ++ (recruits flavor fixture.backend.memberPort lab.handles.length index
        count).map Post.node ∧
      lab' = lab.muster (recruits flavor fixture.backend.memberPort lab.handles.length index
        count) ∧ d = 0 := by
  induction left generalizing index before lab d with
  | zero =>
    obtain ⟨result, elapsed⟩ := h
    cases result
    exact ⟨0, .all fun i hi => absurd hi (Nat.not_lt_zero i), (List.append_nil nodes).symm, rfl,
      elapsed.symm⟩
  | succ left ih =>
    obtain ⟨made, u, d₁, d₂, ⟨result, elapsed⟩, rest, rfl⟩ := Call.Leaves.of_bind h
    have instant : d₁ = 0 := elapsed.symm.trans (elapsed_provision flavor index fixture lab)
    have provisioned := result.symm.trans (result_provision flavor index fixture lab)
    by_cases failing : lab.fabric.failProvision.contains index = true
    · rw [if_pos failing] at provisioned
      cases provisioned
      obtain ⟨given, noted⟩ := rest
      cases given
      exact ⟨0, .first (Nat.succ_pos left) (fun i hi => absurd hi (Nat.not_lt_zero i)) failing,
        (List.append_nil nodes).symm, rfl, by rw [instant, ← noted]; rfl⟩
    · rw [if_neg failing] at provisioned
      cases provisioned
      obtain ⟨count, makes, rfl, rfl, rfl⟩ := ih rest
      have able : lab.fabric.failProvision.contains index = false := Bool.eq_false_iff.mpr failing
      rw [List.length_append]
      refine ⟨count + 1, makes.succ able, ?_, rfl, ?_⟩
      · rw [recruits, List.map_cons, List.append_assoc]
        rfl
      · rw [instant]

end Lab

/-! ### Submissions that are refused -/

namespace Fabric
variable {f g : Fabric} {l : Layout} {cause : ManagementError}

/-- Why the last of some submissions of a first layout is refused, if all are. -/
def refusal (n : Nat) (f : Fabric) : ManagementError :=
  if f.managementDown then .gatewayDown
  else if n ≤ f.bootstrapFailures then .targetNotReady
  else .alreadyBootstrapped

/-- The fabric after some submissions of a first layout were refused. -/
def refusing (n : Nat) (f : Fabric) : Fabric :=
  { f with
    bootstrapAttempts := f.bootstrapAttempts + n
    bootstrapFailures := if f.managementDown then f.bootstrapFailures else f.bootstrapFailures - n }

theorem refusing_zero (f : Fabric) : f.refusing 0 = f := by
  simp [refusing]

theorem refusing_refusing (m n : Nat) (f : Fabric) :
    (f.refusing m).refusing n = f.refusing (m + n) := by
  cases down : f.managementDown
  · simp [refusing, down, Nat.sub_sub, Nat.add_assoc]
  · simp [refusing, down, Nat.add_assoc]

theorem refusal_refusing {n : Nat} (some : 0 < n) (m : Nat) (f : Fabric) :
    (f.refusing m).refusal n = f.refusal (m + n) := by
  unfold refusal refusing
  cases f.managementDown
  · have same : n ≤ f.bootstrapFailures - m ↔ m + n ≤ f.bootstrapFailures := by omega
    simp [same]
  · simp

/-- A valid layout is refused while the management is down or has to fail, and where another layout is
in place. -/
theorem submit_eq_error (valid : l.validate = .ok ()) (h : f.submit l = (.error cause, g)) :
    cause = f.refusal 1 ∧ g = f.refusing 1 := by
  unfold submit at h
  unfold refusal refusing
  simp only at h
  split at h
  · rename_i down
    cases h
    simp [down]
  · rename_i up
    split at h
    · rename_i failing
      have some : 1 ≤ f.bootstrapFailures := failing
      cases h
      simp [up, some]
    · rename_i able
      have none : f.bootstrapFailures = 0 := by omega
      split at h
      · split at h
        · cases h
        · cases h
          simp [up, none]
      · rw [valid] at h
        cases h

end Fabric

namespace Lab
variable {lab lab' : Lab} {l : Layout} {number : Nat} {d : Nat}

/-- A submission that is refused is counted. -/
theorem leaves_bootstrap {cause : ManagementError} (there : number < lab.memories.length)
    (valid : l.validate = .ok ())
    (h : ((client number).bootstrap l).toCall.Leaves lab (.error cause) lab' d) :
    cause = lab.fabric.refusal 1 ∧ lab' = lab.onFabric (Fabric.refusing 1) ∧ d = 0 := by
  have asked := h.result.symm.trans (result_bootstrap there l)
  have spent := h.elapsed.symm.trans
    (Call.elapsed_focus (lawful_clientState number) (ClientState.bootstrap l).toCall there)
  unfold ClientState.bootstrap at spent
  rw [Attempt.elapsed_bind, Attempt.elapsed_lift, Attempt.result_lift, ClientState.result_onFabric] at spent
  have fabric : ((clientState number).get lab).fabric = lab.fabric := rfl
  rw [fabric] at spent
  rcases submitted : lab.fabric.submit l with ⟨outcome, f⟩
  rw [submitted] at asked spent
  cases outcome with
  | ok accepted => cases accepted <;> cases asked
  | error cause' =>
    cases asked
    obtain ⟨rfl, rfl⟩ := Fabric.submit_eq_error valid submitted
    have same := (lawful_clientState number).set_get lab there
    exact ⟨rfl, congrArg (fun lab' : Lab => lab'.onFabric (Fabric.refusing 1)) same, spent⟩

/-- If all submissions are refused, they are counted, and the last refusal is reported. -/
theorem leaves_submit {policy : BootstrapPolicy} {attempt left : Nat} {lastError : String}
    {e : Failure} (there : number < lab.memories.length) (valid : l.validate = .ok ())
    (h : (Orchestrator.submit (client number) l policy attempt lastError left).toCall.Leaves lab
      (.error e) lab' d) :
    e = .bootstrap policy.retries
        (if left = 0 then lastError else (lab.fabric.refusal left).message) ∧
      lab' = lab.onFabric (Fabric.refusing left) ∧ d = (left - 1) * policy.backoff := by
  induction left generalizing attempt lastError lab d with
  | zero =>
    obtain ⟨same, rfl, rfl⟩ := Attempt.leaves_give h
    cases same
    refine ⟨rfl, ?_, by simp⟩
    rw [onFabric, Fabric.refusing_zero]
  | succ left ih =>
    unfold Orchestrator.submit at h
    obtain ⟨outcome, u, d₁, d₂, asked, h₁, rfl⟩ := Attempt.error_of_lift h
    cases outcome with
    | ok _ => cases h₁.result
    | error cause =>
      obtain ⟨rfl, rfl, rfl⟩ := leaves_bootstrap there valid asked
      have h₂ := Attempt.error_of_log h₁
      by_cases last : left = 0
      · subst last
        obtain ⟨same, rfl, rfl⟩ := Attempt.leaves_give h₂
        cases same
        exact ⟨rfl, rfl, by simp⟩
      · change Call.Leaves (if left ≠ 0 then _ else _) _ _ _ _ at h₂
        rw [if_pos last] at h₂
        obtain ⟨_, v, d₃, d₄, ⟨slept, backoff⟩, h₃, rfl⟩ := Attempt.error_of_lift h₂
        cases slept
        have still : number < (lab.onFabric (Fabric.refusing 1)).memories.length := there
        obtain ⟨rfl, rfl, rfl⟩ := ih still h₃
        have more : 0 < left := Nat.pos_of_ne_zero last
        refine ⟨?_, ?_, ?_⟩
        · rw [if_neg last, if_neg (Nat.succ_ne_zero left), onFabric,
            Fabric.refusal_refusing more, Nat.add_comm]
        · rw [onFabric, onFabric, onFabric, Fabric.refusing_refusing, Nat.add_comm]
        · have span : d₃ = policy.backoff := backoff.symm
          have spans : left * policy.backoff = policy.backoff + (left - 1) * policy.backoff := by
            rw [← Nat.succ_pred_eq_of_pos more, Nat.succ_mul, Nat.add_comm]
            rfl
          rw [span, Nat.add_sub_cancel, spans, Nat.zero_add]

end Lab

/-! ### Destroying members -/

namespace Post
variable {p q : Post} {lab lab' : Lab} {outcome : Except Failure Unit} {d : Nat}

/-- The deed that a member is told to be destroyed. -/
def razing (p : Post) : Deed := .command p.number p.handle .destroy none

/-- Whether the destruction of the member is to fail. -/
def spared (p : Post) (lab : Lab) : Bool := lab.fabric.failNext.contains (p.id, .destroy)

/-- The lab after a member was told to be destroyed. -/
def razed (p : Post) (lab : Lab) : Lab :=
  if p.spared lab then
    p.seat.set { p.seat.get lab with fabric := lab.fabric.spendFailure p.id .destroy } lab
  else p.seat.set (p.handle.destroyed (p.seat.get lab)) lab

theorem result_destroy (there : p.number < lab.handles.length) :
    (Attempt.result p.node.destroy lab).2 = p.razed lab := by
  have told := result_change there .destroy p.handle.destroyed
  change Attempt.result p.node.destroy lab = _ at told
  rw [told]
  unfold razed spared
  split
  · rfl
  · rfl

theorem perform_razing (there : p.number < lab.handles.length) :
    lab.perform p.razing = p.razed lab := by
  unfold razing
  rw [Lab.perform, if_pos there, ← result_destroy there, Command.within, Call.result_bind]
  rfl

theorem leaves_destroy (there : p.number < lab.handles.length)
    (h : p.node.destroy.toCall.Leaves lab outcome lab' d) :
    lab' = p.razed lab ∧ d = lab.fabric.latencyOf p.id := by
  refine ⟨?_, ?_⟩
  · rw [← result_destroy there]
    exact (congrArg Prod.snd h.result).symm
  · have spent := Call.elapsed_focus p.lawful_seat p.handle.node.destroy.toCall there
    rw [← h.elapsed]
    refine spent.trans ?_
    exact p.handle.elapsed_perform _ _ _

/-! What a member is told leaves the rest of the lab alone. -/

theorem length_handles_razed (p : Post) (lab : Lab) :
    (p.razed lab).handles.length = lab.handles.length := by
  unfold razed
  split
  · exact List.length_set
  · exact List.length_set

theorem fabric_razed (p : Post) (lab : Lab) : ∃ members lag, (p.razed lab).fabric =
    { lab.fabric with
      members := members
      lagRemaining := lag
      failNext := lab.fabric.failNext.filter fun x => x ≠ (p.id, .destroy) } := by
  unfold razed spared
  split
  · exact ⟨_, _, rfl⟩
  · rename_i clear
    refine ⟨(p.handle.destroyed (p.seat.get lab)).fabric.members, lab.fabric.detectionLag, ?_⟩
    have kept : (lab.fabric.failNext.filter fun x => x ≠ (p.id, Operation.destroy)) =
        lab.fabric.failNext := by
      rw [List.filter_eq_self]
      intro x hx
      rw [decide_eq_true_iff]
      rintro rfl
      exact clear (List.contains_iff_mem.mpr hx)
    rw [kept]
    rfl

theorem spared_razed (other : p.id ≠ q.id) : q.spared (p.razed lab) = q.spared lab := by
  obtain ⟨members, lag, same⟩ := p.fabric_razed lab
  unfold spared
  rw [same, Bool.eq_iff_iff]
  simp [Ne.symm other]

theorem members_razed {e : Endpoint} (other : e ≠ p.id) :
    (p.razed lab).fabric.members.get? e = lab.fabric.members.get? e := by
  unfold razed
  split
  · rfl
  · exact (Handle.Move.destroyed (h := p.handle) (s := p.seat.get lab)).alikeBeyond.member e other

/-- A member as it was made, destroyed since or not. -/
def Made (destroyed : Bool) (m : Member) (c : Commanded) : Prop :=
  m = { Member.fresh with destroyed := destroyed } ∧
    c = .ofStatus (if destroyed then .stopped else .running)

theorem Meets.razed (h : p.Meets (Made false) lab) :
    p.Meets (Made (!p.spared lab)) (p.razed lab) := by
  obtain ⟨there, holds⟩ := h
  unfold Post.razed
  split
  · rename_i spared
    rw [spared]
    exact .set_seat there holds
  · rename_i clear
    rw [Bool.eq_false_iff.mpr clear]
    refine .set_seat there (Handle.Holds.update holds ?_)
    rintro m - ⟨rfl, commanded⟩
    rw [commanded]
    exact ⟨rfl, rfl⟩

theorem Meets.razed_other {P : Member → Commanded → Prop} (h : q.Meets P lab)
    (number : p.number ≠ q.number) (id : p.id ≠ q.id) : q.Meets P (p.razed lab) := by
  obtain ⟨there, m, found, holds⟩ := h
  refine ⟨?_, m, ?_, ?_⟩
  · rw [length_handles_razed]
    exact there
  · exact (members_razed (Ne.symm id)).trans found
  · have same : (p.razed lab).commandedBy q.number = lab.commandedBy q.number := by
      unfold Post.razed
      split
      · rw [Lab.commandedBy, Lab.commandedBy, seat, Lab.seat, List.getElem?_set_ne number]
      · rw [Lab.commandedBy, Lab.commandedBy, seat, Lab.seat, List.getElem?_set_ne number]
    change P m ((p.razed lab).commandedBy q.number)
    rw [same]
    exact holds

end Post

namespace Lab
variable {lab lab' : Lab} {posts : List Post} {d : Nat}

/-- The members are told to be destroyed, each once and in their order, and each takes its latency. -/
theorem leaves_razes (there : ∀ p ∈ posts, p.number < lab.handles.length)
    (h : Orchestrator.Razes (posts.map Post.node) lab lab' d) :
    lab' = lab.after (posts.map Post.razing) ∧
      d = (posts.map fun p => lab.fabric.latencyOf p.id).sum := by
  induction posts generalizing lab d with
  | nil =>
    cases h
    exact ⟨rfl, rfl⟩
  | cons p posts ih =>
    cases h with
    | cons told rest =>
      have here := there p List.mem_cons_self
      obtain ⟨rfl, rfl⟩ := Post.leaves_destroy here told
      have still : ∀ q ∈ posts, q.number < (p.razed lab).handles.length := by
        intro q hq
        rw [Post.length_handles_razed]
        exact there q (List.mem_cons_of_mem p hq)
      have latency : (p.razed lab).fabric.latencyOf = lab.fabric.latencyOf := by
        obtain ⟨members, lag, same⟩ := p.fabric_razed lab
        rw [same]
        rfl
      obtain ⟨rfl, rfl⟩ := ih still rest
      rw [List.map_cons, after_cons, Post.perform_razing here, latency]
      exact ⟨rfl, rfl⟩

/-- What a member and its handle are is not changed by telling others to be destroyed. -/
theorem meets_after_others {P : Member → Commanded → Prop} {q : Post}
    (there : ∀ p ∈ posts, p.number < lab.handles.length) (h : q.Meets P lab)
    (numbers : ∀ p ∈ posts, p.number ≠ q.number) (ids : ∀ p ∈ posts, p.id ≠ q.id) :
    q.Meets P (lab.after (posts.map Post.razing)) := by
  induction posts generalizing lab with
  | nil => exact h
  | cons p posts ih =>
    rw [List.map_cons, after_cons, Post.perform_razing (there p List.mem_cons_self)]
    refine ih ?_ (h.razed_other (numbers p List.mem_cons_self) (ids p List.mem_cons_self))
      (fun x hx => numbers x (List.mem_cons_of_mem p hx))
      (fun x hx => ids x (List.mem_cons_of_mem p hx))
    intro x hx
    rw [Post.length_handles_razed]
    exact there x (List.mem_cons_of_mem p hx)

/-- New members that are told to be destroyed are destroyed unless they are spared. -/
theorem meets_after (numbers : (posts.map Post.number).Nodup) (ids : (posts.map Post.id).Nodup)
    (new : ∀ p ∈ posts, p.Meets (Post.Made false) lab) :
    ∀ p ∈ posts, p.Meets (Post.Made (!p.spared lab)) (lab.after (posts.map Post.razing)) := by
  induction posts generalizing lab with
  | nil => simp
  | cons p posts ih =>
    rw [List.map_cons, List.nodup_cons] at numbers ids
    have number : ∀ q ∈ posts, q.number ≠ p.number := fun q hq same =>
      numbers.1 (same ▸ List.mem_map_of_mem hq)
    have id : ∀ q ∈ posts, q.id ≠ p.id := fun q hq same => ids.1 (same ▸ List.mem_map_of_mem hq)
    have here := new p List.mem_cons_self
    have still : ∀ q ∈ posts, q.Meets (Post.Made false) (p.razed lab) := fun q hq =>
      (new q (List.mem_cons_of_mem p hq)).razed_other (Ne.symm (number q hq)) (Ne.symm (id q hq))
    rw [List.map_cons, after_cons, Post.perform_razing here.1]
    intro q hq
    rcases List.mem_cons.mp hq with rfl | hq
    · exact meets_after_others (fun x hx => (still x hx).1) here.razed number id
    · rw [← Post.spared_razed (Ne.symm (id q hq))]
      exact ih numbers.2 ids.2 still q hq

/-- Telling members to be destroyed changes only them, the counting of readings, and the failures that
were asked for. -/
theorem fabric_after (there : ∀ p ∈ posts, p.number < lab.handles.length) :
    ∃ members lag, (lab.after (posts.map Post.razing)).fabric =
      { lab.fabric with
        members := members
        lagRemaining := lag
        failNext := lab.fabric.failNext.filter fun x =>
          ∀ p ∈ posts, x ≠ (p.id, Operation.destroy) } := by
  induction posts generalizing lab with
  | nil => exact ⟨lab.fabric.members, lab.fabric.lagRemaining, by simp⟩
  | cons p posts ih =>
    obtain ⟨members, lag, first⟩ := p.fabric_razed lab
    have still : ∀ q ∈ posts, q.number < (p.razed lab).handles.length := by
      intro q hq
      rw [Post.length_handles_razed]
      exact there q (List.mem_cons_of_mem p hq)
    obtain ⟨members', lag', rest⟩ := ih still
    rw [List.map_cons, after_cons, Post.perform_razing (there p List.mem_cons_self), rest, first]
    refine ⟨members', lag', ?_⟩
    simp [List.filter_filter, Bool.and_comm]

theorem members_after {e : Endpoint} (there : ∀ p ∈ posts, p.number < lab.handles.length)
    (other : e ∉ posts.map Post.id) :
    (lab.after (posts.map Post.razing)).fabric.members.get? e = lab.fabric.members.get? e := by
  induction posts generalizing lab with
  | nil => rfl
  | cons p posts ih =>
    rw [List.map_cons, List.mem_cons, not_or] at other
    rw [List.map_cons, after_cons, Post.perform_razing (there p List.mem_cons_self)]
    refine (ih ?_ other.2).trans (Post.members_razed other.1)
    intro q hq
    rw [Post.length_handles_razed]
    exact there q (List.mem_cons_of_mem p hq)

end Lab

/-! ### Failed deployments -/

/-- Why the deployment of a valid fixture fails, after how many members and submissions of the first
layout: the first member that cannot be made is reported, or the last refusal. -/
inductive Fabric.Stops (f : Fabric) (fixture : Fixture) : Nat → Nat → Failure → Prop
  | unmade {count : Nat} (few : count < fixture.nodeCount)
    (able : ∀ i < count, f.failProvision.contains i = false)
    (fails : f.failProvision.contains count = true) :
    Stops f fixture count 0 (.ofNode (endpointAt count fixture.backend.memberPort)
      Operation.provision.name .injectedProvisioning)
  | refused (able : ∀ i < fixture.nodeCount, f.failProvision.contains i = false) :
    Stops f fixture fixture.nodeCount fixture.bootstrap.retries.toNat
      (.bootstrap fixture.bootstrap.retries
        (f.refusal fixture.bootstrap.retries.toNat).message)

namespace Lab
variable {lab lab' before : Lab} {posts : List Post} {submissions d : Nat} {flavor : Flavor}
  {fixture : Fixture} {identity : Uuid} {e : Failure}

/-- The lab when a deployment has failed, before anything is cleaned up: the backend was prepared, some
members were made, and submissions of the first layout were counted. -/
structure Raised (posts : List Post) (submissions : Nat) (lab before : Lab) : Prop where
  handles : before.handles = lab.handles ++ List.replicate posts.length firstCommand
  members : ∀ e, before.fabric.members.get? e =
    if e ∈ posts.map Post.id then some .fresh else lab.fabric.members.get? e
  fabric : ∃ members lag failures, before.fabric =
    { lab.fabric with
      members := members
      lagRemaining := lag
      bootstrapFailures := failures
      bootstrapAttempts := lab.fabric.bootstrapAttempts + submissions
      prepared := lab.fabric.prepared + 1 }

/-- The lab when a failed deployment has been cleaned up: each member that was made was told once to be
destroyed, in the order of the members, and then the backend was released. -/
structure Cleaned (posts : List Post) (submissions : Nat) (lab lab' : Lab) : Prop where
  told : ∃ before, Raised posts submissions lab before ∧ lab' =
    (before.after (posts.map Post.razing)).onFabric fun f => { f with released := f.released + 1 }
  ended : ∀ p ∈ posts, p.Meets (Post.Made (!p.spared lab)) lab'
  others : ∀ e, e ∉ posts.map Post.id →
    lab'.fabric.members.get? e = lab.fabric.members.get? e
  fabric : ∃ members lag failures, lab'.fabric =
    { lab.fabric with
      members := members
      lagRemaining := lag
      bootstrapFailures := failures
      bootstrapAttempts := lab.fabric.bootstrapAttempts + submissions
      failNext := lab.fabric.failNext.filter fun x => ∀ p ∈ posts, x ≠ (p.id, Operation.destroy)
      prepared := lab.fabric.prepared + 1
      released := lab.fabric.released + 1 }

/-- Counts that the backend was prepared. -/
def prepareOnce (lab : Lab) : Lab := lab.onFabric fun f => { f with prepared := f.prepared + 1 }

theorem raised_muster (lab : Lab) (posts : List Post) :
    Raised posts 0 lab (lab.prepareOnce.muster posts) where
  handles := handles_muster _ _
  members := members_muster _ _
  fabric := by
    obtain ⟨members, lag, same⟩ := fabric_muster lab.prepareOnce posts
    exact ⟨members, lag, lab.fabric.bootstrapFailures, same⟩

theorem refusal_muster (n : Nat) (lab : Lab) (posts : List Post) :
    (lab.prepareOnce.muster posts).fabric.refusal n = lab.fabric.refusal n := by
  obtain ⟨members, lag, same⟩ := fabric_muster lab.prepareOnce posts
  rw [same]
  rfl

theorem Raised.refusing (h : Raised posts 0 lab before) (n : Nat) (memories : List (Option Layout)) :
    Raised posts n lab
      ({ before with memories := memories }.onFabric (Fabric.refusing n)) where
  handles := h.handles
  members := h.members
  fabric := by
    obtain ⟨members, lag, failures, same⟩ := h.fabric
    refine ⟨members, lag, (before.fabric.refusing n).bootstrapFailures, ?_⟩
    change before.fabric.refusing n = _
    rw [same]
    rfl

/-- The handles that were made are there, on new members. -/
theorem Raised.new {count : Nat} {port : UInt16}
    (h : Raised (recruits flavor port lab.handles.length 0 count) submissions lab before) :
    ∀ p ∈ recruits flavor port lab.handles.length 0 count,
      p.Meets (Post.Made false) before := by
  intro p hp
  obtain ⟨k, hk, rfl⟩ := mem_recruits hp
  have last : k < count := hk
  refine ⟨?_, .fresh, ?_, rfl, ?_⟩
  · rw [h.handles, List.length_append, List.length_replicate, length_recruits]
    simpa using last
  · exact (h.members _).trans (if_pos (List.mem_map_of_mem hp))
  · change (before.handles[lab.handles.length + k]?).getD firstCommand = _
    rw [h.handles, List.getElem?_append_right (Nat.le_add_right _ _), Nat.add_sub_cancel_left,
      List.getElem?_replicate]
    split
    · rfl
    · rfl

/-- What was made before a deployment failed is cleaned up. -/
theorem Raised.cleaned {count : Nat} {port : UInt16}
    (h : Raised (recruits flavor port lab.handles.length 0 count) submissions lab before)
    (cleared : (orchestrator flavor).Clears
      ((recruits flavor port lab.handles.length 0 count).map Post.node) before lab' d) :
    Cleaned (recruits flavor port lab.handles.length 0 count) submissions lab lab' ∧
      d = ((recruits flavor port lab.handles.length 0 count).map fun p =>
        lab.fabric.latencyOf p.id).sum := by
  have new := h.new
  have numbers : ((recruits flavor port lab.handles.length 0 count).map Post.number).Nodup :=
    nodup_numbers_recruits
  have ids : ((recruits flavor port lab.handles.length 0 count).map Post.id).Nodup :=
    nodup_ids_recruits
  generalize recruits flavor port lab.handles.length 0 count = posts at *
  have there : ∀ p ∈ posts, p.number < before.handles.length := fun p hp => (new p hp).1
  obtain ⟨members, lag, failures, raised⟩ := h.fabric
  cases cleared with
  | @intro t u outcome d₁ d₂ razed released =>
    obtain ⟨rfl, rfl⟩ := leaves_razes there razed
    have instant : d₂ = 0 := released.elapsed.symm
    have last : lab' = (before.after (posts.map Post.razing)).onFabric
        fun f => { f with released := f.released + 1 } := (congrArg Prod.snd released.result).symm
    subst last
    refine ⟨⟨⟨before, h, rfl⟩, ?_, ?_, ?_⟩, ?_⟩
    · intro p hp
      have spared : p.spared before = p.spared lab := by
        unfold Post.spared
        rw [raised]
      rw [← spared]
      exact meets_after numbers ids new p hp
    · intro e other
      refine (members_after there other).trans ?_
      rw [h.members, if_neg other]
    · obtain ⟨members', lag', told⟩ := fabric_after there
      refine ⟨members', lag', failures, ?_⟩
      rw [onFabric, told, raised]
    · rw [instant, raised]
      rfl

theorem leaves_prepare {outcome : Except Failure Unit}
    (h : ((orchestrator flavor).backend.prepare fixture).toCall.Leaves lab outcome lab' d) :
    lab' = lab.prepareOnce ∧ d = 0 := ⟨(congrArg Prod.snd h.result).symm, h.elapsed.symm⟩

theorem leaves_connector {es : List Endpoint} {client' : ManagementClient Lab}
    (h : ((orchestrator flavor).connector es).toCall.Leaves lab (.ok client') lab' d) :
    client' = client lab.memories.length ∧ lab' = { lab with memories := lab.memories ++ [none] } ∧
      d = 0 := by
  have connected := h.result.symm.trans (result_connector es lab)
  cases connected
  exact ⟨rfl, rfl, h.elapsed.symm⟩

theorem retries_ne_zero (valid : fixture.validate = .ok ()) : fixture.bootstrap.retries ≠ 0 := by
  intro none
  unfold Fixture.validate at valid
  split at valid
  · cases valid
  · split at valid
    · cases valid
    · cases valid

theorem validate_initial (valid : fixture.validate = .ok ()) (flavor : Flavor) (number : Nat)
    (identity : Uuid) :
    (Layout.initial (((recruits flavor fixture.backend.memberPort number 0
      fixture.nodeCount).map Post.node).map Node.id) identity).validate = .ok () := by
  have ids : ((recruits flavor fixture.backend.memberPort number 0 fixture.nodeCount).map
      Post.node).map Node.id = (recruits flavor fixture.backend.memberPort number 0
        fixture.nodeCount).map Post.id := by
    rw [List.map_map]
    rfl
  have some : (recruits flavor fixture.backend.memberPort number 0 fixture.nodeCount).map
      Post.id ≠ [] := by
    intro none
    have length := congrArg List.length none
    rw [List.length_map, length_recruits] at length
    exact nodeCount_ne_zero valid length
  rw [ids]
  exact (Layout.shaped_initial some nodup_ids_recruits).validate

/-- **A failed deployment cleans up completely.**  With a fixture that is not valid nothing is touched.
Otherwise the members before the first one that cannot be made are made, or all of them; each is told
once to be destroyed, in their order, and is destroyed unless that was to fail; the backend is prepared
and released once; and what is reported is what the deployment failed of. -/
theorem failed_deployment_cleans_up {time : Nat}
    (h : ((orchestrator flavor).deploy fixture identity).toCall.Leaves lab (.error e) lab' time) :
    (∃ cause, fixture.validate = .error cause ∧ e = .fixture cause ∧ lab' = lab ∧ time = 0) ∨
      fixture.validate = .ok () ∧ ∃ count submissions,
        lab.fabric.Stops fixture count submissions e ∧
        let posts := recruits flavor fixture.backend.memberPort lab.handles.length 0 count
        Cleaned posts submissions lab lab' ∧
          time = (submissions - 1) * fixture.bootstrap.backoff +
            (posts.map fun p => lab.fabric.latencyOf p.id).sum := by
  cases Orchestrator.deploy_fails h with
  | invalid invalid => exact .inl ⟨_, invalid, rfl, rfl, rfl⟩
  | unprepared valid failed => cases failed.result
  | unmade valid prepared failed cleared =>
    right
    obtain ⟨rfl, rfl⟩ := leaves_prepare prepared
    obtain ⟨count, makes, rfl, rfl, rfl⟩ := leaves_provisionAll failed
    cases makes with
    | first few able fails =>
      simp only [Nat.zero_add] at able fails
      obtain ⟨cleaned, spent⟩ := (raised_muster lab _).cleaned cleared
      rw [Nat.zero_add]
      refine ⟨valid, count, 0, .unmade few able fails, cleaned, ?_⟩
      rw [spent]
      simp
  | unreached valid prepared made failed => cases failed.result
  | untaken valid prepared made reached failed cleared =>
    right
    obtain ⟨rfl, rfl⟩ := leaves_prepare prepared
    obtain ⟨count, makes, rfl, rfl, rfl⟩ := leaves_provisionAll made
    obtain ⟨same, rfl, rfl⟩ := leaves_connector reached
    cases same
    cases makes with
    | all able =>
      simp only [Nat.zero_add] at able
      have some : fixture.bootstrap.retries.toNat ≠ 0 := fun none =>
        retries_ne_zero valid (UInt32.toNat_inj.mp none)
      have layout := validate_initial valid flavor lab.handles.length identity
      obtain ⟨rfl, rfl, rfl⟩ := leaves_submit (by simp) layout failed
      obtain ⟨cleaned, spent⟩ := ((raised_muster lab _).refusing _ _).cleaned cleared
      refine ⟨valid, fixture.nodeCount, fixture.bootstrap.retries.toNat, ?_, cleaned, ?_⟩
      · rw [if_neg some]
        change lab.fabric.Stops fixture _ _
          (.bootstrap _ (Fabric.refusal _ (lab.prepareOnce.muster _).fabric).message)
        rw [refusal_muster]
        exact .refused able
      · rw [spent]
        omega

/-- A lab where the third member cannot be made, the first one cannot be destroyed at once, and
operations on the second one take five nanoseconds. -/
def hobbled : Lab :=
  empty.after [.set (.failProvisioning 2), .set (.failOnce (endpointAt 0 defaultMemberPort) .destroy),
    .set (.latency (endpointAt 1 defaultMemberPort) 5)]

/-- Of four members two are made and told to be destroyed; the second one is. -/
theorem failed_deployment_cleans_up_hobbled : ∃ e lab' time,
    ((orchestrator .container).deploy (.simulated 4) (.ofNat 7)).toCall.Leaves hobbled (.error e) lab'
      time ∧
    e = .ofNode (endpointAt 2 defaultMemberPort) Operation.provision.name .injectedProvisioning ∧
    Cleaned (recruits .container defaultMemberPort 0 0 2) 0 hobbled lab' ∧ time = 5 ∧
    lab'.fabric.members.get? (endpointAt 0 defaultMemberPort) = some .fresh ∧
    lab'.fabric.members.get? (endpointAt 1 defaultMemberPort) =
      some { Member.fresh with destroyed := true } ∧
    lab'.fabric.members.get? (endpointAt 2 defaultMemberPort) = none := by
  have fails : (((orchestrator .container).deploy (.simulated 4) (.ofNat 7)).toCall.result
      hobbled).1.toOption.isNone = true := by decide +kernel
  have ran := Call.Leaves.refl
    ((orchestrator .container).deploy (.simulated 4) (.ofNat 7)).toCall hobbled
  generalize (((orchestrator .container).deploy (.simulated 4) (.ofNat 7)).toCall.result
    hobbled).1 = outcome at fails ran
  cases outcome with
  | ok g => cases fails
  | error e =>
    refine ⟨e, _, _, ran, ?_⟩
    rcases failed_deployment_cleans_up ran with ⟨cause, invalid, -⟩ | ⟨-, count, n, stops, rest⟩
    · have valid : (Fixture.simulated 4).validate.toOption = some () := by decide +kernel
      rw [invalid] at valid
      cases valid
    · cases stops with
      | refused able =>
        have able : [2].contains 2 = false := able 2 (by decide)
        cases able
      | @unmade count few able asked =>
        have two : count = 2 := by
          have asked : [2].contains count = true := asked
          simpa using asked
        subst two
        obtain ⟨cleaned, spent⟩ := rest
        have cleaned : Cleaned (recruits .container defaultMemberPort 0 0 2) 0 hobbled _ := cleaned
        have first := (cleaned.ended ⟨0, ⟨endpointAt 0 defaultMemberPort, .container⟩⟩
          (.head _)).2
        have second := (cleaned.ended ⟨1, ⟨endpointAt 1 defaultMemberPort, .container⟩⟩
          (.tail _ (.head _))).2
        obtain ⟨m, found, rfl, -⟩ := first
        obtain ⟨m, found', rfl, -⟩ := second
        have third := cleaned.others (endpointAt 2 defaultMemberPort) (by decide +kernel)
        refine ⟨rfl, cleaned, spent.trans ?_, found, found', third⟩
        decide +kernel

end Lab

end FaultLab.Simulation
