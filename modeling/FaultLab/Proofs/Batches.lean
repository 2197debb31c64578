import FaultLab.Proofs.Deployments
import FaultLab.Proofs.HandleIndependence

/-! # Batches

The calls of a batch race for the members that were named.  Each of them goes to a handle of its own
and keeps to this handle (`Fleet.apart_batchCalls`), so the race ends in its forecast,
whoever moves first: each call answers what it answers alone, each member is left as its call alone
leaves it, and nothing else changes (`Fleet.batch_separate`).

A batch has its members if and only if every index is there and none is named twice
(`Injector.exists_targets`, `Injector.names_of_targets`). -/

namespace FaultLab

/-! ### The members of a batch -/

theorem firstRepeated_eq_none {seen is : List Nat} :
    firstRepeated seen is = none ↔ is.Nodup ∧ ∀ i ∈ is, i ∉ seen := by
  induction is generalizing seen with
  | nil => simp [firstRepeated]
  | cons i is ih =>
    rw [firstRepeated]
    by_cases before : i ∈ seen
    · simp [before]
    · rw [if_neg (by simpa using before), ih]
      simp only [List.nodup_cons, List.mem_cons, not_or, forall_eq_or_imp]
      constructor
      · rintro ⟨nodup, apart⟩
        exact ⟨⟨fun here => (apart i here).1 rfl, nodup⟩, before, fun j hj => (apart j hj).2⟩
      · rintro ⟨⟨fresh, nodup⟩, -, apart⟩
        exact ⟨nodup, fun j hj => ⟨fun same => fresh (same ▸ hj), apart j hj⟩⟩

namespace Injector
variable {σ : Type} {inj : Injector σ} {f : Fault} {is : List Nat} {s t : σ}

/-- Whether every index is there, and none is named twice. -/
def Names (inj : Injector σ) (is : List Nat) : Prop := is.Nodup ∧ ∀ i ∈ is, i < inj.nodes.length

instance (inj : Injector σ) (is : List Nat) : Decidable (inj.Names is) :=
  inferInstanceAs (Decidable (_ ∧ _))

/-- A batch has its members if every index is there and none is named twice. -/
theorem exists_targets (named : inj.Names is) : ∃ targets, inj.targets is = .ok targets := by
  obtain ⟨nodup, there⟩ := named
  have found : ∀ i ∈ is, ∃ target, (inj.node i).map (fun node => (i, node)) = .ok target := by
    intro i hi
    have node := inj.node_eq_ok.mpr (List.getElem?_eq_getElem (there i hi))
    exact ⟨_, congrArg (Except.map _) node⟩
  have all : ∃ targets, is.mapM (fun i => (inj.node i).map fun node => (i, node)) = .ok targets := by
    simp only [mapM_eq_ok]
    clear nodup there
    induction is with
    | nil => exact ⟨[], .nil⟩
    | cons i is ih =>
      obtain ⟨target, first⟩ := found i List.mem_cons_self
      obtain ⟨targets, rest⟩ := ih fun j hj => found j (List.mem_cons_of_mem i hj)
      exact ⟨target :: targets, .cons first rest⟩
  obtain ⟨targets, each⟩ := all
  have once : firstRepeated [] is = none := firstRepeated_eq_none.mpr ⟨nodup, by simp⟩
  refine ⟨targets, ?_⟩
  rw [Injector.targets, each, once]
  rfl

theorem map_fst_targets {targets : List (Nat × Node σ)} (h : inj.targets is = .ok targets) :
    targets.map Prod.fst = is := by
  rw [← List.forall₂_eq_eq_eq, List.forall₂_map_left_iff]
  exact (targets_eq_ok h).flip.imp fun _ _ both => both.1

theorem once_of_targets {targets : List (Nat × Node σ)} (h : inj.targets is = .ok targets) :
    firstRepeated [] is = none := by
  cases again : firstRepeated [] is with
  | none => rfl
  | some i =>
    rw [Injector.targets, again] at h
    cases found : is.mapM fun i => (inj.node i).map fun node => (i, node) with
    | error e =>
      rw [found] at h
      cases h
    | ok found' =>
      rw [found] at h
      cases h

theorem names_of_targets {targets : List (Nat × Node σ)} (h : inj.targets is = .ok targets) :
    inj.Names is := by
  have once := once_of_targets h
  refine ⟨(firstRepeated_eq_none.mp once).1, fun i hi => ?_⟩
  obtain ⟨target, -, -, there⟩ := exists_of_forall₂ (targets_eq_ok h) hi
  obtain ⟨bound, -⟩ := List.getElem?_eq_some_iff.mp (inj.node_eq_ok.mp there)
  exact bound

theorem nodup_targets {targets : List (Nat × Node σ)} (h : inj.targets is = .ok targets) :
    (targets.map Prod.fst).Nodup := by
  rw [map_fst_targets h]
  exact (names_of_targets h).1

/-! ### The calls of a batch -/

/-- A call of a batch, without its report. -/
def single (inj : Injector σ) (f : Fault) (node : Node σ) : Call σ (Option (Except Failure Unit)) :=
  Call.limit inj.callTimeout (f.apply inj.stopGrace node).toCall

/-- The report on a call of a batch that is made alone. -/
def alone (inj : Injector σ) (f : Fault) (target : Nat × Node σ) (s : σ) : NodeOutcome where
  index := target.1
  node := target.2.id
  result := ((inj.single f target.2).result s).1.getD
    (.error (.ofNode target.2.id f.name (.noResponse inj.callTimeout)))
  elapsed := (inj.single f target.2).elapsed s

theorem leaves_batchCall (target : Nat × Node σ) (s : σ) : (inj.batchCall f target).Leaves s
    (inj.alone f target s) ((inj.single f target.2).result s).2
    ((inj.single f target.2).elapsed s) := by
  obtain ⟨index, node⟩ := target
  refine ⟨?_, ?_⟩
  · rw [batchCall, Call.bind_eq, Call.result_bind, Call.result_timed]
    rfl
  · rw [batchCall, Call.bind_eq, Call.elapsed_bind, Call.elapsed_timed]
    rfl

theorem elapsed_alone_le (target : Nat × Node σ) (s : σ) :
    (inj.alone f target s).elapsed ≤ inj.callTimeout := Call.elapsed_limit_le _ _ s

/-- A batch of known members leaves what its calls leave together. -/
theorem leaves_batch {targets : List (Nat × Node σ)} {outcomes : List NodeOutcome} {d : Nat}
    (h : inj.targets is = .ok targets)
    (together : (Call.together (targets.map (inj.batchCall f))).Leaves s outcomes t d) :
    (inj.batch f is).toCall.Leaves s (.ok ⟨f, outcomes⟩) t d := by
  obtain ⟨result, elapsed⟩ := together
  refine ⟨?_, ?_⟩
  · change Attempt.result (inj.batch f is) s = _
    simp only [batch, h, Attempt.result_bind, Attempt.result_give, Attempt.result_log,
      Attempt.result_lift, result, Call.result_logAll, Attempt.result_pure]
  · simp only [batch, h, Attempt.elapsed_bind, Attempt.result_give, Attempt.result_log,
      Attempt.result_lift, result, Attempt.elapsed_lift, elapsed, Call.elapsed_logAll]
    change 0 + (0 + (d + (0 + 0))) = d
    omega

theorem run_batch_error {e : Failure} (h : inj.targets is = .error e) (s : σ) :
    (inj.batch f is).toCall.run s = ⟨.error e, s, 0, []⟩ := by
  rw [batch, h]
  rfl

end Injector

/-- Outcomes of different members, in whatever order they come in, are found again by the indices of
the members. -/
theorem find_arrived {arrived outcomes : List NodeOutcome} (perm : arrived.Perm outcomes)
    (distinct : (outcomes.map NodeOutcome.index).Nodup) :
    (outcomes.map NodeOutcome.index).map (fun i => arrived.find? fun o => o.index = i) =
      outcomes.map some := by
  rw [List.map_map]
  refine List.map_congr_left fun o mem => ?_
  have here : o ∈ arrived := perm.mem_iff.mpr mem
  cases found : arrived.find? fun x => x.index = o.index with
  | none =>
    have missing := List.find?_eq_none.mp found o here
    simp at missing
  | some x =>
    have index : x.index = o.index := by simpa using List.find?_some found
    have mem' : x ∈ outcomes := perm.mem_iff.mp (List.mem_of_find?_eq_some found)
    have same : x = o := List.inj_on_of_nodup_map distinct mem' mem index
    subst same
    exact found

namespace Simulation

namespace Fleet
variable {fleet : Fleet} {inj : Injector Lab} {f : Fault} {is : List Nat} {lab : Lab} {p q : Post}

/-- Different indices are those of different handles on different members. -/
theorem distinct {i j : Nat} (hp : fleet.posts[i]? = some p) (hq : fleet.posts[j]? = some q)
    (different : i ≠ j) : p.number ≠ q.number ∧ p.id ≠ q.id := by
  obtain ⟨bound, -⟩ := List.getElem?_eq_some_iff.mp hp
  have apart : ∀ {α : Type} {v : Post → α}, (fleet.posts.map v).Nodup → v p ≠ v q := by
    intro α v nodup same
    refine different ((List.getElem?_inj (by simpa using bound) nodup).mp ?_)
    rw [List.getElem?_map, List.getElem?_map, hp, hq]
    exact congrArg some same
  exact ⟨apart fleet.numbers, apart fleet.ids⟩

theorem post_of_node (members : inj.nodes = fleet.nodes) {i : Nat} {node : Node Lab}
    (there : inj.node i = .ok node) : ∃ p, fleet.posts[i]? = some p ∧ node = p.node := by
  have found := inj.node_eq_ok.mp there
  rw [members, nodes, List.getElem?_map] at found
  obtain ⟨p, here, rfl⟩ := Option.map_eq_some_iff.mp found
  exact ⟨p, here, rfl⟩

theorem within_batchCall (inj : Injector Lab) (f : Fault) (i : Nat) (p : Post) :
    (inj.batchCall f (i, p.node)).Within p.relyGuarantee := by
  have told : (f.apply inj.stopGrace p.node).toCall.Within p.relyGuarantee := by
    rw [f.apply_eq_tell]
    exact p.within_tell _
  exact .bind (.timed (.limit told inj.callTimeout)) fun _ => trivial

/-- What is left when a batch that was begun in a lab has come to its end: every member is left as
its call alone would leave it. -/
structure Separate (fleet : Fleet) (inj : Injector Lab) (f : Fault) (is : List Nat) (lab : Lab)
    (outcomes : List NodeOutcome) (lab' : Lab) : Prop where
  /-- There is one outcome for each index, in the order of the indices. -/
  order : outcomes.map NodeOutcome.index = is
  /-- The handle and the member of an outcome are as the call alone leaves them. -/
  each : ∀ o ∈ outcomes, ∃ p, fleet.posts[o.index]? = some p ∧
    o = inj.alone f (o.index, p.node) lab ∧
      p.sight lab' = p.sight ((inj.single f p.node).result lab).2
  timely : ∀ o ∈ outcomes, o.elapsed ≤ inj.callTimeout
  others : ∀ j q, fleet.posts[j]? = some q → j ∉ is → q.sight lab' = q.sight lab
  frame : lab'.frame = lab.frame
  /-- The order in which the calls end does not matter. -/
  arrival : ∀ arrived : List NodeOutcome, arrived.Perm outcomes →
    is.map (fun i => arrived.find? fun o => o.index = i) = outcomes.map some

section targets
variable {targets : List (Nat × Node Lab)} (members : inj.nodes = fleet.nodes)
  (targeted : inj.targets is = .ok targets)
include members targeted

theorem post_of_target : ∀ target ∈ targets, ∃ p, fleet.posts[target.1]? = some p ∧
    target.2 = p.node := fun target mem =>
  post_of_node members (Injector.node_of_targets targeted target mem)

theorem apart_batchCalls (f : Fault) : (targets.map (inj.batchCall f)).Pairwise Call.Apart := by
  have nodup := Injector.nodup_targets targeted
  refine List.pairwise_map.mpr ((List.pairwise_map.mp nodup).imp_of_mem ?_)
  rintro ⟨i, node⟩ ⟨j, node'⟩ hi hj different
  obtain ⟨p, hp, rfl⟩ := post_of_target members targeted _ hi
  obtain ⟨q, hq, rfl⟩ := post_of_target members targeted _ hj
  obtain ⟨number, id⟩ := distinct hp hq different
  exact Post.apart (within_batchCall inj f i p) (within_batchCall inj f j q) number id

/-- A call for another index is not seen. -/
theorem sight_batchCall {target : Nat × Node Lab} (mem : target ∈ targets) {j : Nat}
    (hq : fleet.posts[j]? = some q) (other : target.1 ≠ j) (f : Fault) (lab : Lab) :
    q.sight ((inj.batchCall f target).result lab).2 = q.sight lab := by
  obtain ⟨i, node⟩ := target
  obtain ⟨p, hp, rfl⟩ := post_of_target members targeted _ mem
  obtain ⟨number, id⟩ := distinct hp hq other
  refine (within_batchCall inj f i p).keeps (v := q.sight) (fun act own lab => ?_) lab
  exact Post.Acts.sight own number id lab

/-- Of the calls of a batch in turn, each alone decides what is left of its member. -/
theorem sight_inTurn {target : Nat × Node Lab} (mem : target ∈ targets)
    (hp : fleet.posts[target.1]? = some p) (f : Fault) (lab : Lab) :
    p.sight (Call.inTurn (targets.map (inj.batchCall f)) lab) =
      p.sight ((inj.batchCall f target).result lab).2 := by
  have apart := apart_batchCalls members targeted f
  have nodup := Injector.nodup_targets targeted
  obtain ⟨before, after, split⟩ := List.append_of_mem mem
  have among : ∀ other ∈ before ++ after, other ∈ targets ∧ other.1 ≠ target.1 := by
    intro other there
    rw [split, List.map_append, List.map_cons, List.nodup_middle] at nodup
    have single := (List.nodup_cons.mp nodup).1
    rw [← List.map_append] at single
    refine ⟨?_, fun same => single (same ▸ List.mem_map_of_mem there)⟩
    rw [split]
    exact List.perm_middle.mem_iff.mpr (List.mem_cons_of_mem target there)
  rw [split, List.map_append, List.map_cons] at apart ⊢
  refine Call.view_inTurn (v := p.sight) (fun c hc => ?_) (fun c hc lab => ?_) lab
  · exact ((List.pairwise_append.mp apart).2.2 c hc _ List.mem_cons_self).symm
  · rw [← List.map_append] at hc
    obtain ⟨other, there, rfl⟩ := List.mem_map.mp hc
    obtain ⟨mem', different⟩ := among other there
    exact sight_batchCall members targeted mem' hp different f lab

/-- What comes of the calls of a batch in turn. -/
theorem separate_inTurn (f : Fault) (lab : Lab) : fleet.Separate inj f is lab
    (targets.map fun target => inj.alone f target lab)
    (Call.inTurn (targets.map (inj.batchCall f)) lab) := by
  have indices : (targets.map fun target => inj.alone f target lab).map NodeOutcome.index = is := by
    rw [List.map_map]
    exact Injector.map_fst_targets targeted
  have nodup := (Injector.names_of_targets targeted).1
  refine ⟨indices, fun o mem => ?_, fun o mem => ?_, fun j q hq unnamed => ?_, ?_,
    fun arrived perm => ?_⟩
  · obtain ⟨⟨i, node⟩, there, rfl⟩ := List.mem_map.mp mem
    obtain ⟨p, hp, rfl⟩ := post_of_target members targeted _ there
    refine ⟨p, hp, rfl, ?_⟩
    rw [sight_inTurn members targeted there hp, (Injector.leaves_batchCall _ lab).result]
  · obtain ⟨target, -, rfl⟩ := List.mem_map.mp mem
    exact Injector.elapsed_alone_le target lab
  · refine Call.inTurn_keeps (v := q.sight) (fun c hc lab => ?_) lab
    obtain ⟨target, mem, rfl⟩ := List.mem_map.mp hc
    refine sight_batchCall members targeted mem hq (fun same => unnamed ?_) f lab
    rw [← Injector.map_fst_targets targeted, ← same]
    exact List.mem_map_of_mem mem
  · refine Call.inTurn_keeps (v := Lab.frame) (fun c hc lab => ?_) lab
    obtain ⟨⟨i, node⟩, mem, rfl⟩ := List.mem_map.mp hc
    obtain ⟨p, -, rfl⟩ := post_of_target members targeted _ mem
    exact (within_batchCall inj f i p).keeps (v := Lab.frame)
      (fun act own lab => Post.Acts.frame own lab) lab
  · rw [← indices]
    refine find_arrived perm ?_
    rw [indices]
    exact nodup

end targets

/-- A batch on the members of a fleet.  However its calls take turns, it comes to one end: there is
one outcome for each index, in the order of the indices, each outcome and each named member is as the
call for this member alone would leave it, nothing else changes, and the batch takes as long as the
longest of its calls.  A batch that names a member twice, or one that is not there, fails before
anything happens. -/
theorem batch_separate (fleet : Fleet) (inj : Injector Lab) (members : inj.nodes = fleet.nodes)
    (f : Fault) (is : List Nat) (lab : Lab) :
    (inj.Names is → ∃ targets outcomes lab', inj.targets is = .ok targets ∧
      fleet.Separate inj f is lab outcomes lab' ∧
      (Race.start lab (targets.map (inj.batchCall f))).Surely (fun last =>
        last = ⟨lab', outcomes.map fun o => ⟨o.elapsed, .done o⟩⟩) ∧
      (inj.batch f is).toCall.Leaves lab (.ok ⟨f, outcomes⟩) lab'
        ((outcomes.map NodeOutcome.elapsed).foldr max 0)) ∧
    (¬ inj.Names is → ∃ e, (inj.batch f is).toCall.run lab = ⟨.error e, lab, 0, []⟩) := by
  refine ⟨fun named => ?_, fun unnamed => ?_⟩
  · obtain ⟨targets, targeted⟩ := Injector.exists_targets named
    have apart := apart_batchCalls members targeted f
    have answer : ∀ target, ((inj.batchCall f target).result lab).1 = inj.alone f target lab :=
      fun target => congrArg Prod.fst (Injector.leaves_batchCall target lab).result
    have time : ∀ target, (inj.batchCall f target).elapsed lab = (inj.alone f target lab).elapsed :=
      fun target => (Injector.leaves_batchCall target lab).elapsed
    refine ⟨targets, _, _, targeted, separate_inTurn members targeted f lab, ?_, ?_⟩
    · have racing : (Race.start lab (targets.map (inj.batchCall f))).Apart :=
        List.pairwise_map.mpr apart
      have surely := Race.surely_forecast racing
      simp only [Race.forecast_start, List.map_map, Function.comp_def, answer, time] at surely
      simp only [List.map_map, Function.comp_def]
      exact surely
    · have together := Call.leaves_together apart lab
      simp only [Call.longest, List.map_map, Function.comp_def, answer, time] at together
      simp only [List.map_map, Function.comp_def]
      exact Injector.leaves_batch targeted together
  · cases targeted : inj.targets is with
    | error e => exact ⟨e, Injector.run_batch_error targeted lab⟩
    | ok targets => exact absurd (Injector.names_of_targets targeted) unnamed

/-- Three containers. -/
def trio : Fleet := .recruited .container 9000 0 0 3

/-- A lab with three members, where operations on the first one take 40 nanoseconds and the next
start of the third one is to fail. -/
def trioLab : Lab where
  fabric := Fabric.failOnce (endpointAt 2 9000) .start <| Fabric.setLatency (endpointAt 0 9000) 40 <|
    trio.endpoints.foldr Fabric.register Fabric.empty
  handles := trio.posts.map fun _ => Lab.firstCommand
  memories := []

/-- An injector that waits 50 nanoseconds for each call of a batch. -/
def trioInjector : Injector Lab := ⟨trio.nodes, 10, 50⟩

/-- The third and the first of three members are told to restart: the third one fails to start, the
first one has stopped when its time is up, and the second one runs on. -/
theorem batch_separate_trio : trioInjector.nodes = trio.nodes ∧
    (∃ targets outcomes lab', trioInjector.targets [2, 0] = .ok targets ∧
      trio.Separate trioInjector .restart [2, 0] trioLab outcomes lab' ∧
      (Race.start trioLab (targets.map (trioInjector.batchCall .restart))).Surely (fun last =>
        last = ⟨lab', outcomes.map fun o => ⟨o.elapsed, .done o⟩⟩) ∧
      (trioInjector.batch .restart [2, 0]).toCall.Leaves trioLab (.ok ⟨.restart, outcomes⟩) lab' 50 ∧
      outcomes.map (fun o => (o.index, o.elapsed, o.succeeded)) = [(2, 0, false), (0, 50, false)] ∧
      lab'.handles.map Commanded.status = [.stopped, .running, .stopped]) ∧
    ∃ e, (trioInjector.batch .restart [1, 1]).toCall.run trioLab = ⟨.error e, trioLab, 0, []⟩ := by
  have named : trioInjector.Names [2, 0] := by decide
  have unnamed : ¬ trioInjector.Names [1, 1] := by decide
  obtain ⟨targets, outcomes, lab', targeted, separate, surely, leaves⟩ :=
    (batch_separate trio trioInjector rfl .restart [2, 0] trioLab).1 named
  have fails := (batch_separate trio trioInjector rfl .restart [1, 1] trioLab).2 unnamed
  have reported : ((trioInjector.batch .restart [2, 0]).toCall.result trioLab).1.toOption.map
      (fun report => report.outcomes.map fun o => (o.index, o.elapsed, o.succeeded)) =
        some [(2, 0, false), (0, 50, false)] := by decide +kernel
  have left : ((trioInjector.batch .restart [2, 0]).toCall.result trioLab).2.handles.map
      Commanded.status = [.stopped, .running, .stopped] := by decide +kernel
  have longest : (trioInjector.batch .restart [2, 0]).toCall.elapsed trioLab = 50 := by decide +kernel
  have result := leaves.result
  rw [result] at reported left
  rw [leaves.elapsed] at longest
  rw [longest] at leaves
  exact ⟨rfl, ⟨targets, outcomes, lab', targeted, separate, surely, leaves,
    Option.some.inj reported, left⟩, fails⟩

end Fleet

end Simulation

end FaultLab
