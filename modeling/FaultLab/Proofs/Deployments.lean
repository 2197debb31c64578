import FaultLab.Orchestrator
import FaultLab.Proofs.Endpoints
import FaultLab.Proofs.Fleets
import FaultLab.Proofs.Reports

/-! # Deployments

A deployment that succeeds has gone all the way: the backend was prepared, every member was made, the
management was reached, and one submission of the first layout was taken
(`Orchestrator.deploy_eq_ok`).  In a lab

* making the members leaves them fresh, under new handles (`Lab.provisionAll_eq_ok`);
* submissions that are refused are only counted (`Lab.Awaits.refused`), and the one that is taken puts
  a layout of the members in place (`Lab.bootstrap_eq_ok`).

So a deployment leaves a fleet of which all that can be said to begin with is `Fleet.Sound`
(`Lab.deploy_eq_ok`). -/

namespace FaultLab

namespace Orchestrator
variable {σ α : Type} {o : Orchestrator σ} {s t : σ}

theorem orAbort_eq_ok {phase : Phase} {nodes : List (Node σ)} {c : Attempt σ Failure α} {a : α}
    (h : (o.orAbort phase nodes c).result s = (.ok a, t)) : c.result s = (.ok a, t) := by
  obtain ⟨outcome, u, made, rest⟩ := Attempt.bind_eq_ok h
  cases outcome with
  | ok b =>
    cases rest
    exact Attempt.lift_eq_ok made
  | error e =>
    obtain ⟨_, _, _, refused⟩ := Attempt.bind_eq_ok rest
    cases refused

theorem advance_eq_ok {now next phase : Phase}
    (h : (advance now next : Attempt σ Failure Phase).result s = (.ok phase, t)) :
    phase = next ∧ t = s := by
  obtain ⟨phase', u, given, rest⟩ := Attempt.bind_eq_ok h
  rw [Attempt.result_give, Phase.advance] at given
  cases rest
  split at given
  · cases given
    exact ⟨rfl, rfl⟩
  · cases given

/-- What has been done when a deployment has succeeded. -/
structure Deploys (o : Orchestrator σ) (fixture : Fixture) (identity : Uuid) (s t : σ)
    (nodes : List (Node σ)) (client : ManagementClient σ) : Prop where
  valid : fixture.validate = .ok ()
  made : ∃ s₁ s₂ s₃, (o.prepare fixture).result s = (.ok (), s₁) ∧
    (o.provisionAll fixture 0 [] fixture.nodeCount).result s₁ = ((.ok (), nodes), s₂) ∧
    (o.connector (nodes.map Node.id)).result s₂ = (.ok client, s₃) ∧
    (submit client (.initial (nodes.map Node.id) identity) fixture.bootstrap 1 ""
      fixture.bootstrap.retries.toNat).result s₃ = (.ok (), t)

theorem deploy_eq_ok {fixture : Fixture} {identity : Uuid} {g : Group σ}
    (h : (o.deploy fixture identity).result s = (.ok g, t)) :
    ∃ nodes client, g = ⟨fixture, nodes, client, .ready⟩ ∧
      o.Deploys fixture identity s t nodes client := by
  obtain ⟨_, s₀, valid, h₁⟩ := Attempt.bind_eq_ok h
  obtain ⟨valid, rfl⟩ := Attempt.give_eq_ok valid
  obtain ⟨phase, s₁, advanced, h₂⟩ := Attempt.bind_eq_ok h₁
  obtain ⟨rfl, rfl⟩ := advance_eq_ok advanced
  obtain ⟨_, s₁, logged, h₃⟩ := Attempt.bind_eq_ok h₂
  cases logged
  obtain ⟨_, s₁, prepared, h₄⟩ := Attempt.bind_eq_ok h₃
  obtain ⟨⟨provisioned, nodes⟩, s₂, made, h₅⟩ := Attempt.bind_eq_ok h₄
  obtain ⟨_, s₃, all, h₆⟩ := Attempt.bind_eq_ok h₅
  obtain ⟨rfl, rfl⟩ := Attempt.give_eq_ok (orAbort_eq_ok all)
  obtain ⟨phase, s₃, advanced, h₇⟩ := Attempt.bind_eq_ok h₆
  obtain ⟨rfl, rfl⟩ := advance_eq_ok advanced
  obtain ⟨client, s₃, connected, h₈⟩ := Attempt.bind_eq_ok h₇
  obtain ⟨_, s₄, submitted, h₉⟩ := Attempt.bind_eq_ok h₈
  obtain ⟨phase, s₅, advanced, h₁₀⟩ := Attempt.bind_eq_ok h₉
  obtain ⟨rfl, rfl⟩ := advance_eq_ok advanced
  obtain ⟨_, s₅, logged, h₁₁⟩ := Attempt.bind_eq_ok h₁₀
  cases logged
  cases h₁₁
  refine ⟨nodes, client, rfl, ?_, _, _, _, orAbort_eq_ok prepared, Attempt.lift_eq_ok made,
    Attempt.mapError_eq_ok (orAbort_eq_ok connected), orAbort_eq_ok submitted⟩
  cases hv : fixture.validate with
  | ok _ => rfl
  | error e =>
    rw [hv] at valid
    cases valid

/-- Of the submissions of a first layout, the ones before the last were refused and the last one was
taken. -/
theorem submit_eq_ok {client : ManagementClient σ} {layout : Layout} {policy : BootstrapPolicy}
    {I : σ → Prop}
    (refused : ∀ s t e, I s → (client.bootstrap layout).result s = (.error e, t) → I t)
    {left attempt : Nat} {lastError : String} (hI : I s)
    (h : (submit client layout policy attempt lastError left).result s = (.ok (), t)) :
    ∃ u, I u ∧ (client.bootstrap layout).result u = (.ok (), t) := by
  induction left generalizing attempt lastError s with
  | zero => cases h
  | succ left ih =>
    obtain ⟨outcome, u, tried, h₁⟩ := Attempt.bind_eq_ok h
    have tried : (client.bootstrap layout).result s = (outcome, u) := Attempt.lift_eq_ok tried
    cases outcome with
    | ok _ =>
      cases h₁
      exact ⟨s, hI, tried⟩
    | error e =>
      obtain ⟨_, v, logged, h₂⟩ := Attempt.bind_eq_ok h₁
      cases logged
      have still := refused s u e hI tried
      by_cases last : left = 0
      · subst last
        cases h₂
      · change Attempt.result (if left ≠ 0 then _ else _) u = _ at h₂
        rw [if_pos last] at h₂
        obtain ⟨_, v, slept, h₃⟩ := Attempt.bind_eq_ok h₂
        cases slept
        exact ih still h₃

end Orchestrator

namespace Simulation

theorem endpointAt_inj {i j : Nat} {port : UInt16} :
    endpointAt i port = endpointAt j port ↔ i = j := by
  refine ⟨fun same => ?_, fun same => by rw [same]⟩
  have parts := @Endpoint.ofParts_injective (_, port) (_, port) same
  have numbers := Text.toString_inj.mp ((String.append_right_inj _).mp (Prod.mk.inj parts).1)
  omega

/-- The handles of the members that are made from an index on, numbered from a number on. -/
def recruits (flavor : Flavor) (port : UInt16) (number index : Nat) : Nat → List Post
  | 0 => []
  | left + 1 =>
    ⟨number, ⟨endpointAt index port, flavor⟩⟩ :: recruits flavor port (number + 1) (index + 1) left

section recruits
variable {flavor : Flavor} {port : UInt16} {number index left : Nat} {p : Post}

theorem mem_recruits (h : p ∈ recruits flavor port number index left) :
    ∃ k < left, p = ⟨number + k, ⟨endpointAt (index + k) port, flavor⟩⟩ := by
  induction left generalizing number index with
  | zero => cases h
  | succ left ih =>
    rcases List.mem_cons.mp h with rfl | h
    · exact ⟨0, Nat.succ_pos left, rfl⟩
    · obtain ⟨k, hk, rfl⟩ := ih h
      refine ⟨k + 1, Nat.succ_lt_succ hk, ?_⟩
      rw [Nat.add_assoc, Nat.add_comm 1 k, Nat.add_assoc, Nat.add_comm 1 k]

theorem length_recruits : (recruits flavor port number index left).length = left := by
  induction left generalizing number index with
  | zero => rfl
  | succ left ih => exact congrArg (· + 1) ih

theorem nodup_numbers_recruits :
    ((recruits flavor port number index left).map Post.number).Nodup := by
  induction left generalizing number index with
  | zero => exact List.nodup_nil
  | succ left ih =>
    refine List.nodup_cons.mpr ⟨fun mem => ?_, ih⟩
    obtain ⟨p, hp, same⟩ := List.mem_map.mp mem
    obtain ⟨k, -, rfl⟩ := mem_recruits hp
    simp only at same
    omega

theorem nodup_ids_recruits : ((recruits flavor port number index left).map Post.id).Nodup := by
  induction left generalizing number index with
  | zero => exact List.nodup_nil
  | succ left ih =>
    refine List.nodup_cons.mpr ⟨fun mem => ?_, ih⟩
    obtain ⟨p, hp, same⟩ := List.mem_map.mp mem
    obtain ⟨k, -, rfl⟩ := mem_recruits hp
    have := endpointAt_inj.mp same
    omega

end recruits

/-- The fleet of the members that are made from an index on. -/
def Fleet.recruited (flavor : Flavor) (port : UInt16) (number index count : Nat) : Fleet where
  posts := recruits flavor port number index count
  numbers := nodup_numbers_recruits
  ids := nodup_ids_recruits

namespace Fleet

/-- A fleet whose members are fit, in a lab where a layout with servers is in place and no more readings
are to come before the detector looks again than the lag has. -/
structure Sound (fleet : Fleet) (lab : Lab) : Prop where
  fit : ∀ p ∈ fleet.posts, p.Meets (Fit fleet.endpoints p.id) lab
  founded : lab.fabric.Founded
  paced : lab.fabric.lagRemaining ≤ lab.fabric.detectionLag

end Fleet

namespace Lab
variable {lab lab' made : Lab} {flavor : Flavor} {fixture : Fixture} {identity : Uuid}
  {index left number : Nat} {nodes : List (Node Lab)} {posts : List Post} {p : Post} {l : Layout}

/-- Deploys simulated clusters of a flavor. -/
def orchestrator (flavor : Flavor) : Orchestrator Lab := ⟨backend flavor, connector⟩

/-! ### Making the members -/

/-- What is so after some members were made, each with a handle. -/
structure Enlists (posts : List Post) (lab lab' : Lab) : Prop where
  layout : lab'.fabric.layout = lab.fabric.layout
  memories : lab'.memories = lab.memories
  fresh : ∀ p ∈ posts, p.Meets (fun m c => m = .fresh ∧ c = firstCommand) lab'
  others : ∀ {p : Post} {P : Member → Commanded → Prop}, (∀ q ∈ posts, q.id ≠ p.id) →
    p.Meets P lab → p.Meets P lab'
  paced : posts ≠ [] ∨ lab.fabric.lagRemaining ≤ lab.fabric.detectionLag →
    lab'.fabric.lagRemaining ≤ lab'.fabric.detectionLag

theorem Enlists.nil (lab : Lab) : Enlists [] lab lab where
  layout := rfl
  memories := rfl
  fresh p hp := by cases hp
  others _ h := h
  paced h := h.resolve_left fun some => some rfl

/-- A new member with a new handle. -/
def enlist (h : Handle) (lab : Lab) : Lab where
  fabric := lab.fabric.register h.id
  handles := lab.handles ++ [firstCommand]
  memories := lab.memories

theorem meets_enlist (h : Handle) (lab : Lab) : (Post.mk lab.handles.length h).Meets
    (fun m c => m = .fresh ∧ c = firstCommand) (lab.enlist h) := by
  have last : (lab.handles ++ [firstCommand])[lab.handles.length]? = some firstCommand :=
    List.getElem?_concat_length
  refine ⟨?_, .fresh, ?_, rfl, ?_⟩
  · rw [enlist, List.length_append]
    exact Nat.lt_succ_self _
  · change (lab.fabric.members.insert h.id .fresh).get? h.id = some .fresh
    rw [EndpointTable.get?_insert, if_pos rfl]
  · change ((lab.handles ++ [firstCommand])[lab.handles.length]?).getD firstCommand = firstCommand
    rw [last]
    rfl

theorem Meets.enlist {P : Member → Commanded → Prop} {h : Handle} (met : p.Meets P lab)
    (other : h.id ≠ p.id) : p.Meets P (lab.enlist h) := by
  obtain ⟨there, m, found, holds⟩ := met
  refine ⟨?_, m, ?_, ?_⟩
  · rw [Lab.enlist, List.length_append]
    exact Nat.lt_add_right 1 there
  · change (lab.fabric.members.insert h.id .fresh).get? p.id = some m
    rw [EndpointTable.get?_insert, if_neg (Ne.symm other)]
    exact found
  · have same : (lab.enlist h).commandedBy p.number = lab.commandedBy p.number :=
      commandedBy_append there
    change P m ((lab.enlist h).commandedBy p.number)
    rw [same]
    exact holds

theorem Enlists.cons {h : Handle} (others : ∀ q ∈ posts, q.id ≠ h.id)
    (rest : Enlists posts (lab.enlist h) lab') :
    Enlists (⟨lab.handles.length, h⟩ :: posts) lab lab' where
  layout := rest.layout
  memories := rest.memories
  fresh p hp := by
    rcases List.mem_cons.mp hp with rfl | hp
    · exact rest.others others (meets_enlist h lab)
    · exact rest.fresh p hp
  others apart met := by
    refine rest.others (fun q hq => apart q (List.mem_cons_of_mem _ hq)) (Meets.enlist met ?_)
    exact apart _ List.mem_cons_self
  paced _ := rest.paced (.inr (Nat.le_refl _))

/-- If all members could be made, their handles are numbered in the order of the members. -/
theorem provisionAll_eq_ok {before : List (Node Lab)}
    (h : ((orchestrator flavor).provisionAll fixture index before left).result lab =
      ((.ok (), nodes), lab')) :
    nodes = before ++ (recruits flavor fixture.backend.memberPort lab.handles.length index left).map
        Post.node ∧
      Enlists (recruits flavor fixture.backend.memberPort lab.handles.length index left) lab
        lab' := by
  induction left generalizing index before lab with
  | zero =>
    cases h
    exact ⟨(List.append_nil nodes).symm, .nil lab⟩
  | succ left ih =>
    have made := result_provision flavor index fixture lab
    rw [Orchestrator.provisionAll, Call.bind_eq, Call.result_bind] at h
    change ((orchestrator flavor).backend.provision index fixture).toCall.result lab = _ at made
    by_cases failing : lab.fabric.failProvision.contains index = true
    · rw [made, if_pos failing] at h
      cases h
    · rw [made, if_neg failing] at h
      have later : ((orchestrator flavor).provisionAll fixture (index + 1)
          (before ++ [node lab.handles.length ⟨endpointAt index fixture.backend.memberPort, flavor⟩])
          left).result (lab.enlist ⟨endpointAt index fixture.backend.memberPort, flavor⟩) =
            ((.ok (), nodes), lab') := h
      obtain ⟨rfl, rest⟩ := ih later
      rw [enlist, List.length_append] at rest
      refine ⟨?_, .cons (fun q hq => ?_) rest⟩
      · rw [recruits, List.map_cons, List.append_assoc, enlist, List.length_append]
        rfl
      · -- The members that come later have higher indices.
        obtain ⟨k, -, rfl⟩ := mem_recruits hq
        intro same
        have := endpointAt_inj.mp same
        omega

/-! ### Submitting the first layout -/

end Lab

namespace Fabric
variable {f g k : Fabric}

/-- What requests leave alone: the members apart from the number of their resets, and the lag, of which
they may only count down what is left. -/
structure Frames (f g : Fabric) : Prop where
  ground : f.SameGround g
  lag : g.detectionLag = f.detectionLag
  counting : g.lagRemaining ≤ f.lagRemaining

theorem Frames.trans (h : f.Frames g) (h' : g.Frames k) : f.Frames k where
  ground := h.ground.trans h'.ground
  lag := h'.lag.trans h.lag
  counting := Nat.le_trans h'.counting h.counting

theorem Stage.frames (stage : f.Stage g) : f.Frames g := ⟨stage.ground, stage.lag, stage.counting⟩

theorem frames_submit (l : Layout) (f : Fabric) : f.Frames (f.submit l).2 := (stage_submit l f).frames

theorem frames_commit (l : Layout) (f : Fabric) : f.Frames (f.commit l) := by
  have placed : f.Frames (f.place l) := ⟨.of_members rfl, rfl, Nat.le_refl _⟩
  rw [commit_eq]
  exact placed.trans (stage_watched _).frames

end Fabric

namespace Lab
variable {lab lab' made : Lab} {flavor : Flavor} {fixture : Fixture} {identity : Uuid}
  {number : Nat} {l : Layout}

/-- What is so after submissions of a first layout were refused: they were counted. -/
structure Awaits (lab lab' : Lab) : Prop where
  handles : lab'.handles = lab.handles
  memories : lab'.memories.length = lab.memories.length
  counted : ∃ attempts failures, lab'.fabric =
    { lab.fabric with bootstrapAttempts := attempts, bootstrapFailures := failures }

theorem Awaits.refl (lab : Lab) : lab.Awaits lab := ⟨rfl, rfl, _, _, rfl⟩

theorem Awaits.layout (h : lab.Awaits lab') : lab'.fabric.layout = lab.fabric.layout := by
  obtain ⟨_, _, counted⟩ := h.counted
  rw [counted]

theorem Awaits.frames (h : lab.Awaits lab') : lab.fabric.Frames lab'.fabric := by
  obtain ⟨_, _, counted⟩ := h.counted
  rw [counted]
  exact ⟨.of_members rfl, rfl, Nat.le_refl _⟩

theorem result_bootstrap (there : number < lab.memories.length) (l : Layout) :
    Attempt.result ((client number).bootstrap l) lab = match lab.fabric.submit l with
      | (.ok true, f) => (.ok (), (clientState number).set ⟨f.commit l, none⟩ lab)
      | (.ok false, f) =>
        (.ok (), (clientState number).set { (clientState number).get lab with fabric := f } lab)
      | (.error cause, f) =>
        (.error cause, (clientState number).set { (clientState number).get lab with fabric := f } lab) := by
  have atClient := Call.result_focus (lawful_clientState number) (ClientState.bootstrap l).toCall there
  have asked := ClientState.result_bootstrap l ((clientState number).get lab)
  change (ClientState.bootstrap l).toCall.result _ = _ at asked
  rw [asked] at atClient
  refine atClient.trans ?_
  change _ = match ((clientState number).get lab).fabric.submit l with
    | (.ok true, f) => _
    | (.ok false, f) => _
    | (.error cause, f) => _
  rcases ((clientState number).get lab).fabric.submit l with ⟨outcome, f⟩
  rcases outcome with cause | accepted
  · rfl
  · cases accepted <;> rfl

theorem Awaits.refused {lab'' : Lab} {cause : ManagementError} (h : lab.Awaits lab')
    (there : number < lab.memories.length)
    (refused : Attempt.result ((client number).bootstrap l) lab' = (.error cause, lab'')) :
    lab.Awaits lab'' := by
  obtain ⟨handles, memories, attempts, failures, counted⟩ := h
  obtain ⟨attempts', failures', counted'⟩ := Fabric.submit_eq l lab'.fabric
  rw [result_bootstrap (memories ▸ there)] at refused
  rcases submitted : lab'.fabric.submit l with ⟨outcome, f⟩
  rw [submitted] at refused counted'
  rcases outcome with e | accepted
  · cases refused
    refine ⟨handles, List.length_set.trans memories, attempts', failures', ?_⟩
    rw [counted] at counted'
    exact counted'
  · cases accepted <;> cases refused

/-- A layout that is submitted with success is put in place, unless the layout of the same cluster is in
place already. -/
theorem bootstrap_eq_ok (there : number < lab.memories.length)
    (fresh : ∀ m ∈ lab.fabric.layout, m.clusterId ≠ l.clusterId)
    (taken : Attempt.result ((client number).bootstrap l) lab = (.ok (), lab')) :
    lab'.handles = lab.handles ∧ lab'.memories.length = lab.memories.length ∧
      lab'.fabric = Fabric.commit l (lab.fabric.submit l).2 := by
  rw [result_bootstrap there] at taken
  rcases submitted : lab.fabric.submit l with ⟨outcome, f⟩
  rw [submitted] at taken
  rcases outcome with cause | accepted
  · cases taken
  · cases accepted with
    | true =>
      cases taken
      exact ⟨rfl, List.length_set, rfl⟩
    | false =>
      obtain ⟨m, hm, same⟩ := Fabric.submit_eq_ok_false submitted
      exact absurd same (fresh m hm)

/-! ### What a deployment leaves behind -/

/-- Members that were just made are fit, and what is done to the layout leaves them so. -/
theorem Enlists.sound {fleet : Fleet} (h : Enlists fleet.posts lab lab') (some : fleet.posts ≠ [])
    (handles : made.handles = lab'.handles) (frame : lab'.fabric.Frames made.fabric)
    (founded : made.fabric.Founded) : fleet.Sound made where
  fit p hp := by
    have fit : p.Meets (Fit fleet.endpoints p.id) lab' := by
      refine (h.fresh p hp).mono ?_
      rintro m c ⟨rfl, rfl⟩
      exact fit_fresh _ _
    exact fit.of_sameGround (fun _ _ _ => Fit.resets) handles frame.ground
  founded := founded
  paced := by
    have paced := h.paced (.inl some)
    rw [frame.lag]
    exact Nat.le_trans frame.counting paced

theorem nodeCount_ne_zero (valid : fixture.validate = .ok ()) : fixture.nodeCount ≠ 0 := by
  intro none
  rw [Fixture.validate, if_pos none] at valid
  cases valid

theorem result_prepare (lab : Lab) : ((orchestrator flavor).prepare fixture).result lab =
    (.ok (), lab.onFabric fun f => { f with prepared := f.prepared + 1 }) := rfl

theorem result_connector (es : List Endpoint) (lab : Lab) :
    Attempt.result ((orchestrator flavor).connector es) lab =
      (.ok (client lab.memories.length), { lab with memories := lab.memories ++ [none] }) := rfl

/-- **What a deployment leaves behind** in a lab where no layout of its identity is in place: a sound
fleet of new members, and a client. -/
theorem deploy_eq_ok {g : Group Lab} (fresh : ∀ l ∈ lab.fabric.layout, l.clusterId ≠ identity)
    (deployed : ((orchestrator flavor).deploy fixture identity).result lab = (.ok g, made)) :
    let fleet := Fleet.recruited flavor fixture.backend.memberPort lab.handles.length 0
      fixture.nodeCount
    g = ⟨fixture, fleet.nodes, client lab.memories.length, .ready⟩ ∧ fleet.posts ≠ [] ∧
      lab.memories.length < made.memories.length ∧ fleet.Sound made := by
  obtain ⟨nodes, _, rfl, valid, s₁, s₂, s₃, prepared, provisioned, connected, submitted⟩ :=
    Orchestrator.deploy_eq_ok deployed
  intro fleet
  rw [result_prepare] at prepared
  cases prepared
  obtain ⟨all, enlists⟩ := provisionAll_eq_ok provisioned
  have all : nodes = fleet.nodes := all
  have enlists : Enlists fleet.posts _ s₂ := enlists
  have memories : s₂.memories = lab.memories := enlists.memories
  subst all
  rw [result_connector, memories] at connected
  cases connected
  rw [fleet.map_id_nodes] at submitted
  have some : fleet.posts ≠ [] := by
    have length : fleet.posts.length = fixture.nodeCount := length_recruits
    have count := nodeCount_ne_zero valid
    intro none
    rw [none] at length
    exact count length.symm
  -- The connection adds a client and the refused submissions count; the last submission is taken.
  let connected : Lab := { s₂ with memories := lab.memories ++ [none] }
  have there : lab.memories.length < connected.memories.length := by
    rw [List.length_append]
    exact Nat.lt_succ_self _
  obtain ⟨u, awaits, taken⟩ := Orchestrator.submit_eq_ok (I := connected.Awaits)
    (fun _ _ _ awaits refused => awaits.refused there refused) (.refl connected) submitted
  have bare : u.fabric.layout = lab.fabric.layout := awaits.layout.trans enlists.layout
  obtain ⟨handles, kept, committed⟩ :=
    bootstrap_eq_ok (awaits.memories ▸ there) (bare ▸ fresh) taken
  have founded : made.fabric.Founded := by
    have servers : fleet.endpoints ≠ [] := fun none => some (List.map_eq_nil_iff.mp none)
    rw [committed]
    exact (Fabric.reported_commit fleet.ids servers).1
  have frame : s₂.fabric.Frames made.fabric := by
    rw [committed]
    exact awaits.frames.trans ((Fabric.frames_submit _ _).trans (Fabric.frames_commit _ _))
  refine ⟨rfl, some, ?_, enlists.sound some (handles.trans awaits.handles) frame founded⟩
  rw [kept, awaits.memories]
  exact there

end Lab

end Simulation

end FaultLab
