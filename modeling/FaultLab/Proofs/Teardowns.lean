import FaultLab.Orchestrator
import FaultLab.Proofs.Calls
import FaultLab.Simulation.Lab

/-! # Tearing a cluster down

Members are told to be destroyed in the order of their indices, each in the state that the ones before
it have left (`Orchestrator.razing`).  What a tear-down answers is the first failure among what comes of
that and of the release of the backend (`Orchestrator.summary`), and the loop that collects failures says
the same (`Orchestrator.result_destroyAll`).

To see who is called, everything that can be called is put on a tape (`Group.taped`,
`Orchestrator.taped`): a call is as before, but first writes down what it is.  What members do is not
changed by that (`Orchestrator.result_razing_taped`).

* `Orchestrator.teardown_finishes`: whatever fails, a tear-down goes through all members once and in
  order, then releases the backend once, and reports the first failure; a cluster that is to be kept, or
  that is not ready, is left alone. -/

namespace FaultLab

/-! ### Tapes -/

/-- What an orchestrator, or the holder of a cluster, can call. -/
inductive Called where
  | prepare
  | provision (index : Nat)
  | release
  | connect
  /-- Anything that the management is asked. -/
  | management
  | member (index : Nat) (op : Operation)
deriving DecidableEq

section tapes
variable {σ ε α : Type}

/-- A state with a tape of what was called. -/
abbrev Taped (σ : Type) := σ × List Called

/-- Write down what is called, then call it. -/
def Call.taped (entry : Called) (c : Call σ α) : Call (Taped σ) α := do
  Part.snd.change fun tape => tape ++ [entry]
  c.focus Part.fst

/-- Write down what is attempted, then attempt it. -/
def Attempt.taped (entry : Called) (c : Attempt σ ε α) : Attempt (Taped σ) ε α :=
  Attempt.ofCall (c.toCall.taped entry)

/-- The power control of the member at an index, on tape. -/
def Power.taped (index : Nat) (power : Power σ) : Power (Taped σ) where
  off := power.off.taped (.member index .powerOff)
  on := power.on.taped (.member index .powerOn)
  reboot := power.reboot.taped (.member index .reboot)
  state := power.state.taped (.member index .powerState)

/-- The member at an index, on tape. -/
def Node.taped (index : Nat) (node : Node σ) : Node (Taped σ) where
  id := node.id
  kind := node.kind
  commanded s := node.commanded s.1
  start := node.start.taped (.member index .start)
  stop grace := (node.stop grace).taped (.member index .stop)
  kill := node.kill.taped (.member index .kill)
  pause := node.pause.taped (.member index .pause)
  resume := node.resume.taped (.member index .resume)
  disconnect peers := (node.disconnect peers).taped (.member index .disconnect)
  reconnect peers := (node.reconnect peers).taped (.member index .reconnect)
  restart := node.restart.taped (.member index .restart)
  destroy := node.destroy.taped (.member index .destroy)
  power := node.power.map (Power.taped index)

/-- A client, on tape. -/
def ManagementClient.taped (client : ManagementClient σ) : ManagementClient (Taped σ) where
  getLayout := client.getLayout.taped .management
  getStatus := client.getStatus.taped .management
  invalidate := client.invalidate.taped .management
  bootstrap layout := (client.bootstrap layout).taped .management
  add e patience := (client.add e patience).taped .management
  remove e patience := (client.remove e patience).taped .management
  reset e := (client.reset e).taped .management

/-- A backend whose members are on tape as well. -/
def Backend.taped (b : Backend σ) : Backend (Taped σ) where
  name := b.name
  prepare fixture := (b.prepare fixture).taped .prepare
  provision index fixture := do
    let node ← (b.provision index fixture).taped (.provision index)
    return node.taped index
  release := b.release.taped .release

/-- An orchestrator all of whose calls are on tape. -/
def Orchestrator.taped (o : Orchestrator σ) : Orchestrator (Taped σ) where
  backend := o.backend.taped
  connector ids := do
    let client ← (o.connector ids).taped .connect
    return client.taped

/-- Members with indices from some index on, on tape. -/
def Node.tapedFrom (index : Nat) (nodes : List (Node σ)) : List (Node (Taped σ)) :=
  (nodes.zipIdx index).map fun (node, i) => node.taped i

/-- A cluster with all that can be called through it on tape. -/
def Group.taped (g : Group σ) : Group (Taped σ) where
  fixture := g.fixture
  nodes := Node.tapedFrom 0 g.nodes
  management := g.management.taped
  phase := g.phase

theorem Attempt.result_taped (entry : Called) (c : Attempt σ ε α) (s : Taped σ) :
    (c.taped entry).result s = ((c.result s.1).1, ((c.result s.1).2, s.2 ++ [entry])) := by
  have lawful : (Part.fst : Part (Taped σ) σ).LawfulOn fun _ => True :=
    ⟨fun _ _ _ => trivial, fun _ _ _ => rfl, fun _ _ _ => rfl, fun _ _ => rfl⟩
  exact Call.result_focus lawful c.toCall (s := (s.1, s.2 ++ [entry])) trivial

end tapes

namespace Orchestrator
variable {σ : Type} {outcomes more : List (Except Failure Unit)} {e : Failure}

/-! ### The first failure -/

/-- The first failure among some outcomes, if there is one. -/
def summary : List (Except Failure Unit) → Except Failure Unit
  | [] => .ok ()
  | .ok () :: rest => summary rest
  | .error e :: _ => .error e

/-- The failures among some outcomes. -/
def failures : List (Except Failure Unit) → List Failure
  | [] => []
  | .ok () :: rest => failures rest
  | .error e :: rest => e :: failures rest

theorem failures_append (outcomes more : List (Except Failure Unit)) :
    failures (outcomes ++ more) = failures outcomes ++ failures more := by
  induction outcomes with
  | nil => rfl
  | cons outcome rest ih =>
    cases outcome with
    | ok _ => exact ih
    | error e => exact congrArg (e :: ·) ih

theorem summary_eq (outcomes : List (Except Failure Unit)) :
    (match failures outcomes with
      | [] => .ok ()
      | e :: _ => .error e) = summary outcomes := by
  induction outcomes with
  | nil => rfl
  | cons outcome rest ih =>
    cases outcome with
    | ok _ => exact ih
    | error e => rfl

theorem summary_append (fine : ∀ outcome ∈ outcomes, outcome = .ok ()) :
    summary (outcomes ++ more) = summary more := by
  induction outcomes with
  | nil => rfl
  | cons outcome rest ih =>
    rw [fine outcome List.mem_cons_self]
    exact ih fun outcome' later => fine outcome' (List.mem_cons_of_mem outcome later)

/-- A failure with nothing but success before it is the first one. -/
theorem summary_of_first {i : Nat} (failed : outcomes[i]? = some (.error e))
    (before : ∀ j < i, outcomes[j]? = some (.ok ())) : summary (outcomes ++ more) = .error e := by
  induction outcomes generalizing i with
  | nil => cases failed
  | cons outcome rest ih =>
    cases i with
    | zero =>
      cases failed
      rfl
    | succ i =>
      have fine : outcome = .ok () := Option.some.inj (before 0 (Nat.succ_pos i))
      rw [fine]
      exact ih failed fun j hj => before (j + 1) (Nat.succ_lt_succ hj)

theorem summary_singleton (outcome : Except Failure Unit) : summary [outcome] = outcome := by
  cases outcome with
  | ok _ => rfl
  | error e => rfl

/-! ### Going through the members -/

/-- Destroy some members one after the other; the answer is what comes of it, member by member. -/
def razing (nodes : List (Node σ)) : Call σ (List (Except Failure Unit)) :=
  nodes.mapM fun node => node.destroy.toCall

theorem razing_cons (node : Node σ) (nodes : List (Node σ)) :
    razing (node :: nodes) = Call.bind node.destroy.toCall fun outcome =>
      Call.bind (razing nodes) fun outcomes => .done (outcome :: outcomes) := List.mapM_cons

theorem result_razing_cons (node : Node σ) (nodes : List (Node σ)) (s : σ) :
    (razing (node :: nodes)).result s =
      ((node.destroy.result s).1 :: ((razing nodes).result (node.destroy.result s).2).1,
        ((razing nodes).result (node.destroy.result s).2).2) := by
  rw [razing_cons, Call.result_bind, Call.result_bind]
  rfl

/-- The loop goes through all members, whatever fails, and collects the failures. -/
theorem result_destroyAll (note : Node σ → Failure → Event) (nodes : List (Node σ)) (s : σ) :
    (destroyAll note nodes).result s =
      (failures ((razing nodes).result s).1, ((razing nodes).result s).2) := by
  induction nodes generalizing s with
  | nil => rfl
  | cons node nodes ih =>
    rw [result_razing_cons, destroyAll]
    refine (Call.result_bind node.destroy.toCall _ s).trans ?_
    rw [← Attempt.result]
    rcases node.destroy.result s with ⟨outcome, t⟩
    cases outcome with
    | ok _ => exact ih t
    | error e =>
      refine (Call.result_bind (destroyAll note nodes) _ t).trans ?_
      rw [ih]
      rfl

theorem result_releaseAll (o : Orchestrator σ) (note : Failure → Event) (s : σ) :
    (o.releaseAll note).result s =
      (failures [(o.backend.release.result s).1], (o.backend.release.result s).2) := by
  rw [releaseAll]
  refine (Call.result_bind o.backend.release.toCall _ s).trans ?_
  rw [← Attempt.result]
  rcases o.backend.release.result s with ⟨outcome, t⟩
  cases outcome with
  | ok _ => rfl
  | error e => rfl

/-- Members on tape do the same as ever, and the tape shows them in order. -/
theorem result_razing_taped (index : Nat) (nodes : List (Node σ)) (s : Taped σ) :
    (razing (Node.tapedFrom index nodes)).result s =
      (((razing nodes).result s.1).1, ((razing nodes).result s.1).2,
        s.2 ++ (List.range' index nodes.length).map (.member · .destroy)) := by
  induction nodes generalizing index s with
  | nil =>
    rw [List.length_nil, List.range'_zero, List.map_nil, List.append_nil]
    rfl
  | cons node nodes ih =>
    have told : (node.taped index).destroy.result s = ((node.destroy.result s.1).1,
        (node.destroy.result s.1).2, s.2 ++ [.member index .destroy]) :=
      Attempt.result_taped _ node.destroy s
    have split : Node.tapedFrom index (node :: nodes) =
        node.taped index :: Node.tapedFrom (index + 1) nodes := rfl
    rw [split, result_razing_cons, result_razing_cons, told, ih, List.length_cons, List.range'_succ,
      List.map_cons, List.append_assoc]
    rfl

/-! ### Tear-downs -/

theorem result_teardown (o : Orchestrator σ) {g : Group σ} (ready : g.phase = .ready)
    (gone : g.fixture.keepOnTeardown = false) (s : σ) :
    (o.teardown g).result s =
      let razed := (razing g.nodes).result s
      let released := o.backend.release.result razed.2
      ((summary (razed.1 ++ [released.1]), { g with phase := .destroyed }), released.2) := by
  have begun : (o.destroyGroup g).result s =
      (failures (((razing g.nodes).result s).1 ++
          [(o.backend.release.result ((razing g.nodes).result s).2).1]),
        (o.backend.release.result ((razing g.nodes).result s).2).2) := by
    rw [destroyGroup, failures_append]
    refine (Call.result_bind (destroyAll _ g.nodes) _ s).trans ?_
    rw [result_destroyAll]
    refine (Call.result_bind (o.releaseAll _) _ _).trans ?_
    rw [result_releaseAll]
    rfl
  rw [teardown, ready, gone]
  refine (Call.result_bind (o.destroyGroup g) _ s).trans ?_
  rw [begun]
  exact congrArg (fun answer => ((answer, { g with phase := .destroyed }), _)) (summary_eq _)

theorem result_teardown_kept (o : Orchestrator σ) {g : Group σ} (ready : g.phase = .ready)
    (kept : g.fixture.keepOnTeardown = true) (s : σ) :
    (o.teardown g).result s = ((.ok (), g), s) := by
  rw [teardown, ready, kept]
  rfl

theorem result_teardown_refused (o : Orchestrator σ) {g : Group σ} (unready : g.phase ≠ .ready)
    (s : σ) :
    (o.teardown g).result s = ((.error (.invalidState "READY" g.phase.name), g), s) := by
  have refused : g.phase.require .ready = .error (.invalidState "READY" g.phase.name) :=
    if_neg unready
  rw [teardown, refused]
  rfl

/-- **Tear-downs always finish.**  Whatever members and backend are and whichever of them fail, a
tear-down of a ready cluster calls `destroy` on each member once and in the order of their indices, then
the release of the backend once, and nothing else.  The cluster is destroyed then, and the answer is the
failure of the first member that failed, or what came of the release if none did.  A cluster that is to
be kept stays ready, a cluster in any other phase is refused, and nothing is called. -/
theorem teardown_finishes (o : Orchestrator σ) (g : Group σ) (s : σ) (tape : List Called) :
    (g.phase = .ready → g.fixture.keepOnTeardown = false →
      ∃ (outcomes : List (Except Failure Unit)) (released answer : Except Failure Unit) (t u : σ),
        (razing g.nodes).result s = (outcomes, t) ∧
        o.backend.release.result t = (released, u) ∧
        (o.teardown g).result s = ((answer, { g with phase := .destroyed }), u) ∧
        (o.taped.teardown g.taped).result (s, tape) =
          ((answer, { g.taped with phase := .destroyed }), u,
            tape ++ (List.range g.nodes.length).map (.member · .destroy) ++ [.release]) ∧
        (∀ (i : Nat) (e : Failure), outcomes[i]? = some (.error e) →
          (∀ j < i, outcomes[j]? = some (.ok ())) → answer = .error e) ∧
        ((∀ outcome ∈ outcomes, outcome = .ok ()) → answer = released)) ∧
    (g.phase = .ready → g.fixture.keepOnTeardown = true →
      (o.teardown g).result s = ((.ok (), g), s) ∧
      (o.taped.teardown g.taped).result (s, tape) = ((.ok (), g.taped), s, tape)) ∧
    (g.phase ≠ .ready →
      (o.teardown g).result s = ((.error (.invalidState "READY" g.phase.name), g), s) ∧
      (o.taped.teardown g.taped).result (s, tape) =
        ((.error (.invalidState "READY" g.phase.name), g.taped), s, tape)) := by
  refine ⟨fun ready gone => ?_, fun ready kept => ?_, fun unready => ?_⟩
  · rcases razed : (razing g.nodes).result s with ⟨outcomes, t⟩
    rcases freed : o.backend.release.result t with ⟨released, u⟩
    -- A cluster on tape is torn down like any other; its members and its backend tell what the tape shows.
    have plain := o.result_teardown ready gone s
    have taped := o.taped.result_teardown (g := g.taped) ready gone (s, tape)
    have members : (razing g.taped.nodes).result (s, tape) = (outcomes, t,
        tape ++ (List.range g.nodes.length).map (.member · .destroy)) := by
      rw [List.range_eq_range', Group.taped, result_razing_taped, razed]
    have backend : ∀ tape', o.taped.backend.release.result (t, tape') =
        (released, u, tape' ++ [.release]) := by
      intro tape'
      refine (Attempt.result_taped .release o.backend.release (t, tape')).trans ?_
      rw [freed]
    rw [razed] at plain
    rw [members] at taped
    simp only [freed] at plain
    simp only [backend] at taped
    refine ⟨outcomes, released, _, t, u, rfl, freed, plain, taped, fun i e failed before => ?_,
      fun fine => ?_⟩
    · exact summary_of_first failed before
    · rw [summary_append fine, summary_singleton]
  · exact ⟨o.result_teardown_kept ready kept s,
      o.taped.result_teardown_kept (g := g.taped) ready kept (s, tape)⟩
  · exact ⟨o.result_teardown_refused unready s,
      o.taped.result_teardown_refused (g := g.taped) unready (s, tape)⟩

end Orchestrator

namespace Simulation

/-! ### A cluster whose members do not go -/

/-- A ready cluster of three simulated members. -/
def reluctant : Group Lab where
  fixture := .simulated 3
  nodes := (List.range 3).map fun i => Lab.node i ⟨endpointAt i 9000, .container⟩
  management := Lab.client 0
  phase := .ready

/-- A lab in which the second and the third member of that cluster are to fail when destroyed. -/
def stubborn : Lab where
  fabric := [1, 2].foldl (fun f i => Fabric.failOnce (endpointAt i 9000) .destroy f)
    ((List.range 3).foldl (fun f i => Fabric.register (endpointAt i 9000) f) Fabric.empty)
  handles := List.replicate 3 Lab.firstCommand
  memories := [none]

theorem teardown_finishes_stubborn :
    let o : Orchestrator Lab := ⟨Lab.backend .container, Lab.connector⟩
    let refusal : Failure := .ofNode (endpointAt 1 9000) "destroy" .injected
    reluctant.phase = .ready ∧ reluctant.fixture.keepOnTeardown = false ∧
      ∃ u, (o.taped.teardown reluctant.taped).result (stubborn, []) =
        ((.error refusal, { reluctant.taped with phase := .destroyed }), u,
          [.member 0 .destroy, .member 1 .destroy, .member 2 .destroy, .release]) := by
  intro o refusal
  obtain ⟨going, -, -⟩ := o.teardown_finishes reluctant stubborn []
  obtain ⟨outcomes, released, answer, t, u, razed, -, -, taped, first, -⟩ := going rfl rfl
  have found : outcomes =
      [.ok (), .error refusal, .error (.ofNode (endpointAt 2 9000) "destroy" .injected)] :=
    (congrArg Prod.fst razed).symm
  have failed : answer = .error refusal := by
    refine first 1 refusal ?_ fun j hj => ?_
    · rw [found]
      rfl
    · rw [found, Nat.lt_one_iff.mp hj]
      rfl
  rw [failed] at taped
  exact ⟨rfl, rfl, u, taped⟩

end Simulation

end FaultLab
