import FaultLab.Injector.Batch
import FaultLab.Injector.Rotation
import FaultLab.Proofs.Commands
import FaultLab.Proofs.Interleaving
import FaultLab.Proofs.Outcomes

/-! # What an injector does

An `Injection` is anything that an injector can be asked for.  It tells the members of the injector
to do something, and nothing else: every step of an injection is a step of a command to one of them
(`Injector.steps_make`), and no member is told to be destroyed or to block anybody but members
(`Command.Stays`).  So it is with each injection, whether it comes to its end, fails halfway or loses
some of its calls to a deadline. -/

namespace FaultLab

open Simulation (Command)

/-! ### Faults as commands -/

/-- Whether a command leaves its member there and blocks nobody but some endpoints. -/
def Simulation.Command.Stays (ids : List Endpoint) : Command → Prop
  | .destroy => False
  | .disconnect peers => ∀ e ∈ peers, e ∈ ids
  | _ => True

namespace Fault

/-- The command that a fault is. -/
def command (grace : Nat) : Fault → Command
  | start => .start
  | stop => .stop grace
  | kill => .kill
  | pause => .pause
  | resume => .resume
  | restart => .restart
  | powerOff => .powerOff
  | powerOn => .powerOn
  | reboot => .reboot

theorem apply_eq_tell {σ : Type} (f : Fault) (grace : Nat) (node : Node σ) :
    f.apply grace node = (f.command grace).tell node := by cases f <;> rfl

theorem stays_command (f : Fault) (grace : Nat) (ids : List Endpoint) :
    (f.command grace).Stays ids := by cases f <;> exact trivial

end Fault

/-! ### Members by their index -/

namespace Injector
variable {σ : Type} {inj : Injector σ} {node : Node σ}

/-- The endpoints of the members. -/
def endpoints (inj : Injector σ) : List Endpoint := inj.nodes.map Node.id

theorem node_eq_ok {index : Nat} : inj.node index = .ok node ↔ inj.nodes[index]? = some node := by
  rw [Injector.node]
  cases inj.nodes[index]? with
  | none => simp
  | some n => simp

theorem mem_of_node {index : Nat} (h : inj.node index = .ok node) : node ∈ inj.nodes :=
  List.mem_of_getElem? (node_eq_ok.mp h)

theorem ids_eq_ok {is : List Nat} {es : List Endpoint} : inj.ids is = .ok es ↔
    List.Forall₂ (fun i e => ∃ node, inj.node i = .ok node ∧ node.id = e) is es := by
  rw [ids, mapM_eq_ok]
  simp only [map_eq_ok]

theorem mem_endpoints_of_ids {is : List Nat} {es : List Endpoint} (h : inj.ids is = .ok es) :
    ∀ e ∈ es, e ∈ inj.endpoints := by
  intro e he
  obtain ⟨i, -, node, there, rfl⟩ :=
    exists_of_forall₂ (R := flip fun i e => ∃ node, inj.node i = .ok node ∧ node.id = e)
      (ids_eq_ok.mp h).flip he
  exact List.mem_map_of_mem (mem_of_node there)

/-- The members of a batch are members of the injector. -/
theorem targets_eq_ok {is : List Nat} {targets : List (Nat × Node σ)}
    (h : inj.targets is = .ok targets) :
    List.Forall₂ (fun i target => target.1 = i ∧ inj.node i = .ok target.2) is targets := by
  rw [Injector.targets] at h
  cases hm : is.mapM fun i => (inj.node i).map fun node => (i, node) with
  | error e =>
    rw [hm] at h
    cases h
  | ok found =>
    rw [hm] at h
    have found : List.Forall₂ (fun i target => target.1 = i ∧ inj.node i = .ok target.2) is found := by
      refine (mapM_eq_ok.mp hm).imp fun i target each => ?_
      obtain ⟨node, there, rfl⟩ := map_eq_ok.mp each
      exact ⟨rfl, there⟩
    cases hr : firstRepeated [] is with
    | some i =>
      simp only [hr] at h
      cases h
    | none =>
      simp only [hr] at h
      cases h
      exact found

theorem node_of_targets {is : List Nat} {targets : List (Nat × Node σ)}
    (h : inj.targets is = .ok targets) : ∀ target ∈ targets, inj.node target.1 = .ok target.2 := by
  intro target mem
  obtain ⟨i, -, rfl, there⟩ :=
    exists_of_forall₂ (R := flip fun i target => target.1 = i ∧ inj.node i = .ok target.2)
      (targets_eq_ok h).flip mem
  exact there

theorem mem_of_targets {is : List Nat} {targets : List (Nat × Node σ)}
    (h : inj.targets is = .ok targets) : ∀ target ∈ targets, target.2 ∈ inj.nodes :=
  fun target mem => mem_of_node (node_of_targets h target mem)

end Injector

namespace Injector
variable {σ : Type} {inj : Injector σ}

/-- Breaking or mending one link is one call to the member at its near end. -/
theorem result_link_oneWay (message : String)
    (change : Node σ → List Endpoint → Attempt σ Failure Unit) (a b : Nat) (s : σ) :
    (inj.link message change a [b] .oneWay).result s =
      match inj.node a, inj.node b with
      | .error e, _ => (.error e, s)
      | .ok _, .error e => (.error e, s)
      | .ok x, .ok y => (change x [y.id]).result s := by
  have far : inj.ids [b] = (inj.node b).map fun y => [y.id] := by
    rw [ids, List.mapM_cons, List.mapM_nil]
    cases inj.node b <;> rfl
  rw [link, Attempt.result_bind, Attempt.result_give]
  cases inj.node a with
  | error e => rfl
  | ok x =>
    simp only [far, Attempt.result_bind, Attempt.result_give]
    cases inj.node b with
    | error e => rfl
    | ok y =>
      simp only [Except.map, Attempt.result_log]
      rcases (change x [y.id]).result s with ⟨outcome, t⟩
      cases outcome <;> rfl

/-- A link that is broken or mended on both sides has been so at its near end first. -/
theorem link_symmetric_eq_ok {message : String}
    {change : Node σ → List Endpoint → Attempt σ Failure Unit} {index : Nat} {peers : List Nat}
    {s t : σ} (h : (inj.link message change index peers .symmetric).result s = (.ok (), t)) :
    ∃ node ids u, inj.node index = .ok node ∧ inj.ids peers = .ok ids ∧
      (change node ids).result s = (.ok (), u) ∧
      Attempt.result (peers.forM fun i =>
        Attempt.give (inj.node i) >>= fun peer => change peer [node.id]) u = (.ok (), t) := by
  obtain ⟨node, s₁, found, h₁⟩ := Attempt.bind_eq_ok h
  obtain ⟨member, rfl⟩ := Attempt.give_eq_ok found
  obtain ⟨ids, s₂, given, h₂⟩ := Attempt.bind_eq_ok h₁
  obtain ⟨known, rfl⟩ := Attempt.give_eq_ok given
  obtain ⟨_, s₃, logged, h₃⟩ := Attempt.bind_eq_ok h₂
  rw [Attempt.result_log] at logged
  cases logged
  obtain ⟨_, u, changed, h₄⟩ := Attempt.bind_eq_ok h₃
  exact ⟨node, ids, u, member, known, changed, h₄⟩

theorem batch_eq_ok {f : Fault} {is : List Nat} {s t : σ} {report : BatchReport}
    (h : Attempt.result (inj.batch f is) s = (.ok report, t)) :
    ∃ targets outcomes, inj.targets is = .ok targets ∧
      (Call.together (targets.map (inj.batchCall f))).result s = (outcomes, t) ∧
        report = ⟨f, outcomes⟩ := by
  obtain ⟨targets, s₁, found, h₁⟩ := Attempt.bind_eq_ok h
  obtain ⟨targeted, rfl⟩ := Attempt.give_eq_ok found
  obtain ⟨_, s₂, logged, h₂⟩ := Attempt.bind_eq_ok h₁
  cases logged
  obtain ⟨outcomes, s₃, called, h₃⟩ := Attempt.bind_eq_ok h₂
  obtain ⟨_, s₄, noted, h₄⟩ := Attempt.bind_eq_ok h₃
  have noted := Attempt.lift_eq_ok noted
  rw [Call.result_logAll] at noted
  cases noted
  cases h₄
  exact ⟨targets, outcomes, targeted, Attempt.lift_eq_ok called, rfl⟩

end Injector

namespace Rotation
variable {σ : Type} {inj : Injector σ}

/-- A step of a rotation mends the active link and, if this succeeds, breaks the next one. -/
theorem result_step (r : Rotation) (s : σ) : (r.step inj).result s =
    match r.pairs[r.next]? with
    | none => ((.ok none, r), s)
    | some (a, b) => match Attempt.result (r.mend inj) s with
      | (.error e, t) => ((.error e, { r with active := none }), t)
      | (.ok (), t) => match Attempt.result (inj.linkFailure a b) t with
        | (.error e, u) => ((.error e, { r with active := none }), u)
        | (.ok (), u) =>
          ((.ok (some (a, b)), ⟨r.pairs, (r.next + 1) % r.pairs.length, some (a, b)⟩), u) := by
  rw [step]
  cases r.pairs[r.next]? with
  | none => rfl
  | some link =>
    obtain ⟨a, b⟩ := link
    simp only [Call.bind_eq, Call.result_bind, Attempt.result]
    rcases (r.mend inj).toCall.result s with ⟨mended, t⟩
    cases mended with
    | error e => rfl
    | ok _ =>
      simp only [Call.result_bind]
      rcases (inj.linkFailure a b).toCall.result t with ⟨broken, u⟩
      cases broken <;> rfl

theorem result_finish (r : Rotation) (s : σ) : (r.finish inj).result s =
    (((Attempt.result (r.mend inj) s).1, { r with active := none }),
      (Attempt.result (r.mend inj) s).2) := by
  rw [finish, Call.bind_eq, Call.result_bind]
  rfl

end Rotation

/-! ### The steps of injections -/

/-- What an injector can be asked for; a rotation may be in any state. -/
inductive Injection where
  | inject (f : Fault) (index : Nat)
  | disconnect (index : Nat) (peers : List Nat) (symmetry : Symmetry)
  | reconnect (index : Nat) (peers : List Nat) (symmetry : Symmetry)
  | partition (index : Nat)
  | heal (index : Nat)
  | linkFailure (a b : Nat)
  | healLink (a b : Nat)
  | rotate (r : Rotation)
  | finish (r : Rotation)
  | batch (f : Fault) (indices : List Nat)

namespace Injector
variable {σ : Type} {inj : Injector σ} {R : σ → σ → Prop}

/-- Ask an injector for it. -/
def make (inj : Injector σ) : Injection → Call σ Unit
  | .inject f index => Call.bind (inj.inject f index).toCall fun _ => .done ()
  | .disconnect index peers symmetry =>
    Call.bind (inj.disconnect index peers symmetry).toCall fun _ => .done ()
  | .reconnect index peers symmetry =>
    Call.bind (inj.reconnect index peers symmetry).toCall fun _ => .done ()
  | .partition index => Call.bind (inj.partition index).toCall fun _ => .done ()
  | .heal index => Call.bind (inj.heal index).toCall fun _ => .done ()
  | .linkFailure a b => Call.bind (inj.linkFailure a b).toCall fun _ => .done ()
  | .healLink a b => Call.bind (inj.healLink a b).toCall fun _ => .done ()
  | .rotate r => Call.bind (r.step inj) fun _ => .done ()
  | .finish r => Call.bind (r.finish inj) fun _ => .done ()
  | .batch f indices => Call.bind (inj.batch f indices).toCall fun _ => .done ()

theorem steps_link {message : String} {change : Node σ → List Endpoint → Attempt σ Failure Unit}
    (told : ∀ node ∈ inj.nodes, ∀ es, (∀ e ∈ es, e ∈ inj.endpoints) → (change node es).Steps R)
    (index : Nat) (peers : List Nat) (symmetry : Symmetry) :
    (inj.link message change index peers symmetry).Steps R := by
  refine .give_bind fun node there => .give_bind fun ids known => ?_
  refine .bind (.log _) fun _ => ?_
  have member := mem_of_node there
  refine .bind (told node member ids (mem_endpoints_of_ids known)) fun _ => ?_
  split
  · refine .forM fun i _ => .give_bind fun peer there => ?_
    refine told peer (mem_of_node there) _ fun e he => ?_
    rw [List.mem_singleton.mp he]
    exact List.mem_map_of_mem member
  · exact .pure ()

section told
variable (told : ∀ node ∈ inj.nodes, ∀ cmd : Command, cmd.Stays inj.endpoints →
  (cmd.tell node).Steps R)
include told

theorem steps_disconnect (index : Nat) (peers : List Nat) (symmetry : Symmetry) :
    (inj.disconnect index peers symmetry).Steps R :=
  steps_link (fun node mem es known => told node mem (.disconnect es) known) index peers symmetry

theorem steps_reconnect (index : Nat) (peers : List Nat) (symmetry : Symmetry) :
    (inj.reconnect index peers symmetry).Steps R :=
  steps_link (fun node mem es _ => told node mem (.reconnect es) trivial) index peers symmetry

theorem steps_apply {node : Node σ} (mem : node ∈ inj.nodes) (f : Fault) (grace : Nat) :
    (f.apply grace node).Steps R := by
  rw [f.apply_eq_tell]
  exact told node mem _ (f.stays_command grace _)

theorem steps_inject (f : Fault) (index : Nat) : (inj.inject f index).Steps R :=
  .give_bind fun _ there => steps_apply told (mem_of_node there) f _

theorem steps_batch (f : Fault) (indices : List Nat) : (inj.batch f indices).Steps R := by
  refine .give_bind fun targets found => .bind (.log _) fun _ => ?_
  refine .bind (.lift (.together fun call called => ?_)) fun outcomes => ?_
  · obtain ⟨target, mem, rfl⟩ := List.mem_map.mp called
    have steps := steps_apply told (mem_of_targets found target mem) f inj.stopGrace
    exact .bind (.timed (.limit steps _)) fun _ => trivial
  · exact .bind (.lift (.logAll _)) fun _ => .pure _

theorem steps_mend (r : Rotation) : (r.mend inj).Steps R := by
  rw [Rotation.mend]
  split
  · exact steps_reconnect told _ _ _
  · exact .pure ()

theorem steps_rotate (r : Rotation) : (r.step inj).Steps R := by
  rw [Rotation.step]
  split
  · trivial
  · refine .bind (steps_mend told r) fun mended => ?_
    cases mended with
    | error e => trivial
    | ok _ =>
      refine .bind (steps_disconnect told _ _ _) fun broken => ?_
      cases broken <;> trivial

/-- Every step of an injection is one of a command to a member that leaves the member there and blocks
members alone. -/
theorem steps_make (i : Injection) : (inj.make i).Steps R := by
  cases i with
  | inject f index => exact .bind (steps_inject told f index) fun _ => trivial
  | disconnect index peers symmetry =>
    exact .bind (steps_disconnect told index peers symmetry) fun _ => trivial
  | reconnect index peers symmetry =>
    exact .bind (steps_reconnect told index peers symmetry) fun _ => trivial
  | partition index => exact .bind (steps_disconnect told _ _ _) fun _ => trivial
  | heal index => exact .bind (steps_reconnect told _ _ _) fun _ => trivial
  | linkFailure a b => exact .bind (steps_disconnect told _ _ _) fun _ => trivial
  | healLink a b => exact .bind (steps_reconnect told _ _ _) fun _ => trivial
  | rotate r => exact .bind (steps_rotate told r) fun _ => trivial
  | finish r => exact .bind (.bind (steps_mend told r) fun _ => trivial) fun _ => trivial
  | batch f indices => exact .bind (steps_batch told f indices) fun _ => trivial

end told

end Injector

end FaultLab
