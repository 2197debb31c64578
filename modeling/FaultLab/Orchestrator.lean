import FaultLab.Group

/-! # Deploying clusters and tearing them down

A deployment makes what the members share, makes the members one by one, connects to their
management and submits the first layout.  What fails on the way ends the deployment, and everything
made so far is destroyed; only the first layout is submitted more than once.  Tearing a cluster down
goes through all members whatever fails, and reports the first failure. -/

namespace FaultLab

/-- Where members come from, and how to reach their management. -/
structure Orchestrator (σ : Type) where
  backend : Backend σ
  connector : Connector σ

namespace Orchestrator

variable {σ : Type}

/-! ### Cleaning up -/

/-- Destroy some members one after the other; what fails is reported and noted. -/
def destroyAll (note : Node σ → Failure → Event) : List (Node σ) → Call σ (List Failure)
  | [] => return []
  | node :: rest => do
    match ← node.destroy.toCall with
    | .ok () => destroyAll note rest
    | .error e =>
      Call.log (note node e)
      let failures ← destroyAll note rest
      return e :: failures

/-- Release what members shared; a failure is reported and noted. -/
def releaseAll (o : Orchestrator σ) (note : Failure → Event) : Call σ (List Failure) := do
  match ← o.backend.release.toCall with
  | .ok () => return []
  | .error e =>
    Call.log (note e)
    return [e]

/-- Go on to a phase if it may follow; otherwise stay and say so. -/
def pass (refusal : String) (next now : Phase) : Call σ Phase :=
  match now.advance next with
  | .ok phase => do
    Call.log (now.advanced next)
    return phase
  | .error e => do
    Call.log (.error refusal [("error", e.field)])
    return now

/-- Clean up after a deployment that came as far as some phase and some members. -/
def abort (o : Orchestrator σ) (phase : Phase) (nodes : List (Node σ)) : Call σ Phase := do
  let phase ← pass "abort from unexpected state" .tearingDown phase
  let _ ← destroyAll (fun node e =>
    .warn "cleanup failed" [("node", .fixed node.id.text), ("error", e.field)]) nodes
  let _ ← o.releaseAll fun e =>
    .warn "backend release failed during cleanup" [("error", e.field)]
  pass "abort could not finish teardown" .destroyed phase

/-! ### Deploying -/

/-- Go on to the next phase of a deployment. -/
def advance (now next : Phase) : Attempt σ Failure Phase := do
  let phase ← Attempt.give (now.advance next)
  Attempt.log (now.advanced next)
  return phase

/-- Submit the first layout, at the attempt `attempt` of `retries`, with `left` more to come. -/
def submit (client : ManagementClient σ) (layout : Layout) (policy : BootstrapPolicy)
    (attempt : Nat) (lastError : String) : Nat → Attempt σ Failure Unit
  | 0 => Attempt.give (.error (.bootstrap policy.retries lastError))
  | left + 1 => do
    match ← Attempt.lift (client.bootstrap layout).toCall with
    | .ok () =>
      Attempt.log (.info "bootstrapped layout"
        [("attempt", .ofNat attempt), ("servers", .ofNat layout.servers.length)])
    | .error e =>
      Attempt.log (.warn "bootstrap attempt failed" [("attempt", .ofNat attempt),
        ("attempts", .ofNat policy.retries.toNat), ("error", .unless e.varies e.message)])
      if left ≠ 0 then Attempt.lift (Call.sleep policy.backoff)
      submit client layout policy (attempt + 1) e.message left

/-- Make members from index `index` on, `left` of them. -/
def provisionAll (o : Orchestrator σ) (fixture : Fixture) (index : Nat) (made : List (Node σ)) :
    Nat → Call σ (Except Failure Unit × List (Node σ))
  | 0 => return (.ok (), made)
  | left + 1 => do
    match ← (o.backend.provision index fixture).toCall with
    | .ok node => provisionAll o fixture (index + 1) (made ++ [node]) left
    | .error e =>
      Call.log (.error "provisioning failed, aborting deployment"
        [("index", .ofNat index), ("error", e.field)])
      return (.error e, made)

/-- Prepare the backend. -/
def prepare (o : Orchestrator σ) (fixture : Fixture) : Call σ (Except Failure Unit) := do
  match ← (o.backend.prepare fixture).toCall with
  | .ok () => return .ok ()
  | .error e =>
    Call.log (.error "backend prepare failed" [("error", e.field)])
    return .error e

/-- Make an attempt, and clean up if it fails. -/
def orAbort {α : Type} (o : Orchestrator σ) (phase : Phase) (nodes : List (Node σ))
    (c : Attempt σ Failure α) : Attempt σ Failure α := do
  match ← Attempt.lift c.toCall with
  | .ok a => return a
  | .error e =>
    let _ ← Attempt.lift (o.abort phase nodes)
    Attempt.give (.error e)

/-- Deploy the cluster of a fixture; its identity is new. -/
def deploy (o : Orchestrator σ) (fixture : Fixture) (identity : Uuid) :
    Attempt σ Failure (Group σ) := do
  Attempt.give (fixture.validate.mapError .fixture)
  let phase ← advance .undeployed .deploying
  Attempt.log (.info "deploying cluster" [("fixture", .fixed fixture.name),
    ("backend", .fixed o.backend.name), ("nodes", .ofNat fixture.nodeCount)])
  o.orAbort phase [] (Attempt.ofCall (o.prepare fixture))
  let (provisioned, nodes) ← Attempt.lift (o.provisionAll fixture 0 [] fixture.nodeCount)
  o.orAbort phase nodes (Attempt.give provisioned)
  let phase ← advance phase .bootstrapping
  let endpoints := nodes.map Node.id
  let client ← o.orAbort phase nodes ((o.connector endpoints).mapError .management)
  let layout := Layout.initial endpoints identity
  o.orAbort phase nodes
    (submit client layout fixture.bootstrap 1 "" fixture.bootstrap.retries.toNat)
  let phase ← advance phase .ready
  Attempt.log (.info "cluster ready" [("fixture", .fixed fixture.name),
    ("cluster_id", .varying (toString layout.clusterId))])
  return ⟨fixture, nodes, client, phase⟩

/-! ### Tearing down -/

/-- Destroy a cluster whose tear-down may begin. -/
def destroyGroup (o : Orchestrator σ) (g : Group σ) : Call σ (List Failure) := do
  Call.log (g.phase.advanced .tearingDown)
  Call.log (.info "tearing down cluster" [("fixture", .fixed g.fixture.name)])
  let failures ← destroyAll (fun node e =>
    .error "destroy failed" [("node", .fixed node.id.text), ("error", e.field)]) g.nodes
  let more ← o.releaseAll fun e => .error "backend release failed" [("error", e.field)]
  Call.log (Phase.advanced .tearingDown .destroyed)
  return failures ++ more

/-- Tear a cluster down; the answer comes with the cluster as it is left. -/
def teardown (o : Orchestrator σ) (g : Group σ) : Call σ (Except Failure Unit × Group σ) := do
  match g.phase.require .ready with
  | .error e => return (.error e, g)
  | .ok () =>
    if g.fixture.keepOnTeardown then
      Call.log (.info "keep_on_teardown set, leaving cluster running"
        [("fixture", .fixed g.fixture.name),
          ("endpoints", .fixed (Endpoint.inspectAll g.endpoints))])
      return (.ok (), g)
    else
      let failures ← o.destroyGroup g
      let result := match failures with
        | [] => .ok ()
        | e :: _ => .error e
      return (result, { g with phase := .destroyed })

end Orchestrator

end FaultLab
