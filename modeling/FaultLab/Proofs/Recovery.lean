import FaultLab.Proofs.Deployments
import FaultLab.Proofs.Readings

/-! # Whatever was injected can be undone

An `Incident` is a fault that is injected into the members of a deployed cluster, or a request or
setting in between.  Incidents leave the fleet sound (`Fleet.Sound.struck`): handles and members agree,
nobody was given back, and nobody was told to block anybody but members.  From a sound fleet it goes
back in three steps.

* A batch of starts in which every call succeeded leaves all processes running
  (`Fleet.serving_of_batchAll`).  The calls of a batch run side by side, so what one start has done is
  secured against the other starts.
* A heal of each member takes down what the member blocks (`Fleet.mended_of_heals`), since a member
  blocks other members alone, and a heal lets all of them through.
* A cluster whose servers are up and block nobody settles (`Lab.settled_after`).

`Lab.recovers_from_incidents` puts the steps together. -/

namespace FaultLab.Simulation

/-! ### What incidents leave intact -/

/-- Something that happens to a deployed cluster while faults are injected: an injection, with whatever
patience for the calls of a batch, or something that leaves the members to themselves. -/
inductive Incident where
  | fault (callTimeout : Nat) (i : Injection)
  | manage (d : Deed) (managing : d.Managing)

/-- The lab after an incident. -/
def Incident.strike (inj : Injector Lab) (lab : Lab) : Incident → Lab
  | fault callTimeout i => (({ inj with callTimeout := callTimeout }.make i).result lab).2
  | manage d _ => lab.perform d

/-- The lab after some incidents. -/
def Lab.struck (inj : Injector Lab) (lab : Lab) (incidents : List Incident) : Lab :=
  incidents.foldl (Incident.strike inj) lab

theorem Lab.frames_request (lab : Lab) (number : Nat) (req : Request) :
    lab.fabric.Frames (lab.perform (.request number req)).fabric := by
  rw [fabric_perform]
  refine keeps_getLastD (I := lab.fabric.Frames) (isChain_stages_request lab number req)
    (fun _ _ stage frames => frames.trans stage.frames) ?_
  exact ⟨.refl _, rfl, Nat.le_refl _⟩

namespace Fleet
variable {fleet : Fleet} {lab lab' : Lab} {p q : Post} {faults : FaultPolicy} {i : Nat}

theorem steps_told (fleet : Fleet) {inj : Injector Lab} (nodes : inj.nodes = fleet.nodes) :
    ∀ node ∈ inj.nodes, ∀ cmd : Command, cmd.Stays inj.endpoints →
      (cmd.tell node).Steps (fleet.Acts (Command.Stays fleet.endpoints)) := by
  intro node mem cmd stays
  rw [Injector.endpoints, nodes, fleet.map_id_nodes] at stays
  exact fleet.steps_tell cmd (nodes ▸ mem) stays

theorem Acts.layout {cmds : Command → Prop} (acts : fleet.Acts cmds lab lab') :
    lab'.fabric.layout = lab.fabric.layout := by
  obtain ⟨p, -, cmd, -, t, does, rfl⟩ := acts
  exact does.move.alikeBeyond.layout

namespace Sound

theorem of_acts (h : fleet.Sound lab) (acts : fleet.Acts (Command.Stays fleet.endpoints) lab lab') :
    fleet.Sound lab' where
  fit p hp := acts.meets hp (fun _ stays _ _ does => does.fit stays) (h.fit p hp)
  founded := by
    obtain ⟨l, hl, founded⟩ := h.founded
    exact ⟨l, acts.layout.trans hl, founded⟩
  paced := by
    obtain ⟨p, -, cmd, -, t, does, rfl⟩ := acts
    have frame := does.move.alikeBeyond
    change t.fabric.lagRemaining ≤ t.fabric.detectionLag
    rw [frame.lag]
    rcases frame.counting with same | anew
    · rw [same]
      exact h.paced
    · exact Nat.le_of_eq anew

/-- What leaves the members to themselves leaves a fleet sound. -/
theorem perform (h : fleet.Sound lab) {d : Deed} (managing : d.Managing) :
    fleet.Sound (lab.perform d) := by
  have founded : (lab.perform d).fabric.Founded := Lab.founded_perform h.founded
  have stays : (lab.perform d).handles = lab.handles →
      lab.fabric.SameGround (lab.perform d).fabric →
      ∀ p ∈ fleet.posts, p.Meets (Fit fleet.endpoints p.id) (lab.perform d) :=
    fun handles ground p hp => (h.fit p hp).of_sameGround (fun _ _ _ => Fit.resets) handles ground
  cases d with
  | connect => exact ⟨stays rfl (.refl _), founded, h.paced⟩
  | request number req =>
    have frame := Lab.frames_request lab number req
    refine ⟨stays (Lab.handles_request lab number req) frame.ground, founded, ?_⟩
    rw [frame.lag]
    exact Nat.le_trans frame.counting h.paced
  | set s =>
    refine ⟨stays rfl (.of_members (Lab.kept_apply s lab.fabric).2), founded, ?_⟩
    cases s with
    | detectionLag readings => exact Nat.le_refl _
    | failOnce e op =>
      change (Fabric.failOnce e op lab.fabric).lagRemaining ≤
        (Fabric.failOnce e op lab.fabric).detectionLag
      rw [Fabric.failOnce]
      split
      · exact h.paced
      · exact h.paced
    | _ => exact h.paced
  | _ => cases managing

theorem make (h : fleet.Sound lab) (inj : Injector Lab) (nodes : inj.nodes = fleet.nodes)
    (i : Injection) : fleet.Sound ((inj.make i).result lab).2 := by
  have steps := Injector.steps_make (fleet.steps_told nodes) i
  exact steps.keeps (fun _ _ acts sound => sound.of_acts acts) h

/-- What is told to members leaves a fleet sound and the layout in place. -/
theorem of_steps {α : Type} {c : Attempt Lab Failure α} {outcome : Except Failure α}
    (h : fleet.Sound lab) (steps : c.Steps (fleet.Acts (Command.Stays fleet.endpoints)))
    (done : c.result lab = (outcome, lab')) :
    fleet.Sound lab' ∧ lab'.fabric.layout = lab.fabric.layout := by
  have kept := Call.Steps.keeps steps
    (I := fun t => fleet.Sound t ∧ t.fabric.layout = lab.fabric.layout)
    (fun _ _ acts both => ⟨both.1.of_acts acts, acts.layout.trans both.2⟩) ⟨h, rfl⟩
  change fleet.Sound (c.result lab).2 ∧ (c.result lab).2.fabric.layout = lab.fabric.layout at kept
  rw [done] at kept
  exact kept

theorem of_batchAll {f : Fault} {outcome : Except Failure BatchReport} (h : fleet.Sound lab)
    (inj : Injector Lab) (nodes : inj.nodes = fleet.nodes)
    (done : Attempt.result (inj.batchAll f) lab = (outcome, lab')) :
    fleet.Sound lab' ∧ lab'.fabric.layout = lab.fabric.layout :=
  h.of_steps (Injector.steps_batch (fleet.steps_told nodes) f inj.all) done

theorem of_heals {inj : Injector Lab} {is : List Nat} {outcome : Except Failure Unit}
    (h : fleet.Sound lab) (nodes : inj.nodes = fleet.nodes)
    (done : Attempt.result (is.forM inj.heal) lab = (outcome, lab')) :
    fleet.Sound lab' ∧ lab'.fabric.layout = lab.fabric.layout :=
  h.of_steps (.forM fun i _ => Injector.steps_reconnect (fleet.steps_told nodes) i _ _) done

theorem struck (faults : FaultPolicy) (h : fleet.Sound lab) (incidents : List Incident) :
    fleet.Sound (lab.struck (fleet.injector faults) incidents) := by
  induction incidents generalizing lab with
  | nil => exact h
  | cons incident incidents ih =>
    refine ih ?_
    cases incident with
    | fault callTimeout i =>
      exact h.make { fleet.injector faults with callTimeout := callTimeout } rfl i
    | manage d managing => exact h.perform managing

end Sound

end Fleet

/-! ### What mends -/

namespace Handle
variable {h : Handle} {s t : Seat}

theorem process_started (h : Handle) (s : Seat) :
    (h.started s).commanded.status.process = .running := Commanded.process_setStatus .running _

theorem process_reconnected (h : Handle) (peers : List Endpoint) (s : Seat) :
    (h.reconnected peers s).commanded.status.process = s.commanded.status.process := by
  rw [reconnected]
  induction peers generalizing s with
  | nil => rfl
  | cons e es ih => exact (ih (h.unblock s e)).trans (Commanded.process_withPeers _ _)

theorem mem_peers_reconnected {peers : List Endpoint} {e : Endpoint} :
    e ∈ (h.reconnected peers s).commanded.peers ↔ e ∈ s.commanded.peers ∧ e ∉ peers := by
  rw [reconnected]
  induction peers generalizing s with
  | nil => simp
  | cons x xs ih =>
    rw [List.foldl_cons, ih, unblock, Commanded.peers_removePeer, EndpointSet.mem_erase, List.mem_cons,
      not_or, and_assoc]

end Handle

/-- A fit member whose process is to run. -/
def Serving (ids : List Endpoint) (own : Endpoint) (m : Member) (c : Commanded) : Prop :=
  Fit ids own m c ∧ c.status.process = .running

/-- A fit member whose process is to run and that is to block nobody. -/
def Mended (ids : List Endpoint) (own : Endpoint) (m : Member) (c : Commanded) : Prop :=
  Serving ids own m c ∧ c.peers = .empty

namespace Command

/-- Whether a command is a start or takes blocks down. -/
def Mends : Command → Prop
  | .start => True
  | .reconnect _ => True
  | _ => False

/-- Whether a command takes blocks down. -/
def Reconnects : Command → Prop
  | .reconnect _ => True
  | _ => False

variable {cmd : Command} {ids : List Endpoint}

theorem Reconnects.mends (h : cmd.Reconnects) : cmd.Mends := by
  cases cmd with
  | reconnect peers => trivial
  | _ => cases h

theorem Mends.stays (h : cmd.Mends) : cmd.Stays ids := by
  cases cmd with
  | start => trivial
  | reconnect peers => trivial
  | _ => cases h

end Command

namespace Handle
variable {h : Handle} {s t : Seat} {ids : List Endpoint} {cmd : Command}
  {P : Member → Commanded → Prop} {Q : Commanded → Prop}

theorem Holds.command (hs : h.Holds P s) (command : Q s.commanded) :
    h.Holds (fun m c => P m c ∧ Q c) s := by
  obtain ⟨m, found, holds⟩ := hs
  exact ⟨m, found, holds, command⟩

theorem Holds.commanded (hs : h.Holds (fun m c => P m c ∧ Q c) s) : Q s.commanded := by
  obtain ⟨_, -, -, command⟩ := hs
  exact command

theorem Does.serving (does : h.Does cmd s t) (mends : cmd.Mends)
    (hs : h.Holds (Serving ids h.id) s) : h.Holds (Serving ids h.id) t := by
  have running : s.commanded.status.process = .running := hs.commanded
  refine (does.fit mends.stays (hs.mono fun _ _ => And.left)).command ?_
  cases does with
  | idle => exact running
  | refused op => exact running
  | changed change able =>
    cases cmd with
    | start =>
      rw [List.mem_singleton.mp able]
      exact process_started h s
    | reconnect peers =>
      rw [List.mem_singleton.mp able]
      exact (process_reconnected h peers s).trans running
    | _ => cases mends

theorem Does.mended (does : h.Does cmd s t) (reconnects : cmd.Reconnects)
    (hs : h.Holds (Mended ids h.id) s) : h.Holds (Mended ids h.id) t := by
  have none : s.commanded.peers = .empty := hs.commanded
  refine (does.serving reconnects.mends (hs.mono fun _ _ => And.left)).command ?_
  cases does with
  | idle => exact none
  | refused op => exact none
  | changed change able =>
    cases cmd with
    | reconnect peers =>
      rw [List.mem_singleton.mp able]
      refine EndpointSet.ext fun e => iff_of_false (fun mem => ?_) (EndpointSet.not_mem_empty e)
      have old := (mem_peers_reconnected.mp mem).1
      rw [none] at old
      exact EndpointSet.not_mem_empty e old
    | _ => cases reconnects

end Handle

/-! ### Starting all members -/

namespace Fleet
variable {fleet : Fleet} {lab lab' : Lab} {p q : Post} {faults : FaultPolicy} {i : Nat}

/-- What may happen while members are started side by side: one of them is started, or refuses. -/
def starting (fleet : Fleet) : Pact Lab := .alike (fleet.Acts (· = .start))

theorem meets_of_starting {P : Member → Commanded → Prop}
    (more : fleet.starting.rely lab lab') (hp : p ∈ fleet.posts)
    (kept : ∀ s t, p.handle.Does .start s t → p.handle.Holds P s → p.handle.Holds P t)
    (h : p.Meets P lab) : p.Meets P lab' := by
  induction more with
  | refl => exact h
  | tail _ acts ih =>
    refine acts.meets hp (fun cmd start => ?_) ih
    subst start
    exact kept

theorem fit_of_starting (more : fleet.starting.rely lab lab') (hp : p ∈ fleet.posts)
    (fit : p.Meets (Fit fleet.endpoints p.id) lab) : p.Meets (Fit fleet.endpoints p.id) lab' :=
  meets_of_starting more hp (fun _ _ does => does.fit trivial) fit

/-- A start that takes effect has the member run, and the others do not undo it. -/
theorem secures_started (hp : p ∈ fleet.posts) (fit : p.Meets (Fit fleet.endpoints p.id) lab) :
    (Call.focus p.seat (Call.atomically (p.handle.guarded .start fun s =>
      (.ok (), p.handle.started s)))).Secures fleet.starting
        (fun answer t => answer = .ok () → p.Meets (Serving fleet.endpoints p.id) t) lab := by
  intro u more
  obtain ⟨there, holds⟩ := fit_of_starting more hp fit
  have within : ∀ t, p.handle.Does .start (p.seat.get u) t →
      fleet.starting.guarantee u (p.seat.set t u) :=
    fun t does => ⟨p, hp, .start, rfl, t, does, rfl⟩
  let outcome := p.handle.guarded .start (fun s => (.ok (), p.handle.started s)) (p.seat.get u)
  change fleet.starting.guarantee u (p.seat.set outcome.2 u) ∧
    ∀ v, fleet.starting.rely (p.seat.set outcome.2 u) v → outcome.1 = .ok () → _
  by_cases asked : u.fabric.failNext.contains (p.id, .start) = true
  · have refused : outcome = (.error (.ofNode p.id Operation.start.name .injected),
        { p.seat.get u with fabric := u.fabric.spendFailure p.id .start }) := if_pos asked
    rw [refused]
    refine ⟨within _ (.refused .start asked), fun v _ ok => ?_⟩
    cases ok
  · have done : outcome = (.ok (), p.handle.started (p.seat.get u)) := if_neg asked
    have does : p.handle.Does .start (p.seat.get u) (p.handle.started (p.seat.get u)) :=
      .changed _ List.mem_cons_self
    rw [done]
    refine ⟨within _ does, fun v later _ => ?_⟩
    have serving : p.handle.Holds (Serving fleet.endpoints p.id)
        (p.handle.started (p.seat.get u)) :=
      (does.fit trivial holds).command (p.handle.process_started _)
    exact meets_of_starting later hp (fun _ _ does => does.serving trivial) (.set_seat there serving)

theorem secures_start (hp : p ∈ fleet.posts) (fit : p.Meets (Fit fleet.endpoints p.id) lab) :
    p.node.start.toCall.Secures fleet.starting
      (fun answer t => answer = .ok () → p.Meets (Serving fleet.endpoints p.id) t) lab := by
  have start : p.node.start.toCall =
      Call.bind (Call.focus p.seat (Call.read fun s => s.fabric.latencyOf p.id)) fun latency =>
        Call.bind (Call.focus p.seat (Call.sleepIfAny latency)) fun _ =>
          Call.focus p.seat (Call.atomically
            (p.handle.guarded .start fun s => (.ok (), p.handle.started s))) := by
    change Call.focus p.seat (p.handle.perform .start _).toCall = _
    rw [Handle.toCall_perform, Call.focus_bind]
    refine congrArg _ (funext fun latency => ?_)
    rw [Call.focus_bind]
  rw [start]
  intro u more
  have looked : fleet.starting.guarantee u (p.seat.modify id u) :=
    ⟨p, hp, .start, rfl, _, .idle, rfl⟩
  have since := fleet.starting.trans more (fleet.starting.within looked)
  refine ⟨looked, ?_⟩
  have act := secures_started hp (fit_of_starting since hp fit)
  change (Call.bind (Call.focus p.seat (Call.sleepIfAny _)) fun _ => _).Secures _ _ _
  rw [Call.sleepIfAny]
  split
  · exact act
  · exact act

theorem node_eq_ok {inj : Injector Lab} (nodes : inj.nodes = fleet.nodes)
    (here : fleet.posts[i]? = some p) : inj.node i = .ok p.node := by
  rw [Injector.node_eq_ok, nodes, Fleet.nodes, List.getElem?_map, here]
  rfl

theorem mem_all {inj : Injector Lab} (nodes : inj.nodes = fleet.nodes)
    (here : fleet.posts[i]? = some p) : i ∈ inj.all := by
  have member := Injector.node_eq_ok.mp (node_eq_ok nodes here)
  exact List.mem_range.mpr (List.getElem?_eq_some_iff.mp member).1

/-- A call of a batch of starts that succeeds has its member run. -/
theorem secures_batchCall (inj : Injector Lab) (index : Nat) (hp : p ∈ fleet.posts)
    (fit : p.Meets (Fit fleet.endpoints p.id) lab) :
    (inj.batchCall .start (index, p.node)).Secures fleet.starting
      (fun o t => o.succeeded = true → p.Meets (Serving fleet.endpoints p.id) t) lab := by
  have timed := ((secures_start hp fit).limit inj.callTimeout).timed.stable
  refine .bind (timed.mono fun a t still u more succeeded => ?_)
  obtain ⟨answer, elapsed⟩ := a
  cases answer with
  | none => cases succeeded
  | some outcome =>
    cases outcome with
    | ok _ => exact still u more _ rfl rfl
    | error e => cases succeeded

/-- **All members run** after a batch of starts in which every call succeeded. -/
theorem serving_of_batchAll (inj : Injector Lab) {report : BatchReport}
    (nodes : inj.nodes = fleet.nodes)
    (fit : ∀ p ∈ fleet.posts, p.Meets (Fit fleet.endpoints p.id) lab)
    (done : Attempt.result (inj.batchAll .start) lab = (.ok report, lab'))
    (all : report.allSucceeded = true) :
    ∀ p ∈ fleet.posts, p.Meets (Serving fleet.endpoints p.id) lab' := by
  obtain ⟨targets, outcomes, found, together, rfl⟩ := Injector.batch_eq_ok done
  -- What each call secures holds when all of them are done.
  have secures : ∀ target ∈ targets, (inj.batchCall .start target).Secures fleet.starting
      (fun o t => ∃ p ∈ fleet.posts, p.id = target.2.id ∧
        (o.succeeded = true → p.Meets (Serving fleet.endpoints p.id) t)) lab := by
    intro target mem
    have member : target.2 ∈ fleet.nodes := nodes ▸ Injector.mem_of_targets found target mem
    obtain ⟨p, hp, same⟩ := List.mem_map.mp member
    have secures := secures_batchCall inj target.1 hp (fit p hp)
    rw [same] at secures
    exact secures.mono fun o t serves => ⟨p, hp, congrArg Node.id same, serves⟩
  have each := (Call.Secures.together secures).result
  rw [together] at each
  intro p hp
  obtain ⟨i, here⟩ := List.getElem?_of_mem hp
  obtain ⟨target, targeted, -, same⟩ :=
    exists_of_forall₂ (Injector.targets_eq_ok found) (mem_all nodes here)
  rw [node_eq_ok nodes here] at same
  obtain ⟨o, listed, q, hq, own, serves⟩ := exists_of_forall₂ each targeted
  rw [← Except.ok.inj same] at own
  obtain rfl := eq_of_id hq hp own
  exact serves (List.all_eq_true.mp all o listed)

/-! ### Healing all members -/

theorem steps_heal {inj : Injector Lab} (nodes : inj.nodes = fleet.nodes) :
    (inj.heal i).Steps (fleet.Acts Command.Reconnects) :=
  Injector.steps_link (fun _ mem es _ =>
    fleet.steps_tell (.reconnect es) (nodes ▸ mem) trivial) _ _ _

/-- What reconnects keep of a member is kept where nothing else is done. -/
theorem meets_of_reconnects {P : Member → Commanded → Prop} {c : Attempt Lab Failure Unit}
    {outcome : Except Failure Unit} (steps : c.Steps (fleet.Acts Command.Reconnects))
    (hp : p ∈ fleet.posts)
    (kept : ∀ cmd : Command, cmd.Reconnects → ∀ s t, p.handle.Does cmd s t → p.handle.Holds P s →
      p.handle.Holds P t)
    (h : p.Meets P lab) (done : c.result lab = (outcome, lab')) : p.Meets P lab' := by
  have met := Call.Steps.keeps steps (fun _ _ acts met => acts.meets hp kept met) h
  change p.Meets P (c.result lab).2 at met
  rw [done] at met
  exact met

theorem mem_ids_others {inj : Injector Lab} {ids : List Endpoint} {e : Endpoint}
    (nodes : inj.nodes = fleet.nodes) (here : fleet.posts[i]? = some p)
    (known : inj.ids (inj.others i) = .ok ids) (he : e ∈ fleet.endpoints) (other : e ≠ p.id) :
    e ∈ ids := by
  obtain ⟨q, hq, rfl⟩ := List.mem_map.mp he
  obtain ⟨j, there⟩ := List.getElem?_of_mem hq
  have apart : j ≠ i := by
    rintro rfl
    rw [here] at there
    exact other (congrArg Post.id (Option.some.inj there).symm)
  have among : j ∈ inj.others i :=
    List.mem_filter.mpr ⟨mem_all nodes there, decide_eq_true apart⟩
  obtain ⟨e, mem, node, found, rfl⟩ := exists_of_forall₂ (Injector.ids_eq_ok.mp known) among
  rw [node_eq_ok nodes there] at found
  cases found
  exact mem

/-- A member that is told to let through all members but itself blocks nobody any more. -/
theorem mended_of_reconnected {ids : List Endpoint}
    (serving : p.Meets (Serving fleet.endpoints p.id) lab)
    (others : ∀ e ∈ fleet.endpoints, e ≠ p.id → e ∈ ids) :
    p.Meets (Mended fleet.endpoints p.id)
      (p.seat.set (p.handle.reconnected ids (p.seat.get lab)) lab) := by
  obtain ⟨there, holds⟩ := serving
  have does : p.handle.Does (.reconnect ids) (p.seat.get lab)
      (p.handle.reconnected ids (p.seat.get lab)) := .changed _ List.mem_cons_self
  refine .set_seat there ((does.serving trivial holds).command ?_)
  obtain ⟨m, -, ⟨agrees, lodged⟩, -⟩ := holds
  refine EndpointSet.ext fun e => iff_of_false (fun mem => ?_) (EndpointSet.not_mem_empty e)
  obtain ⟨old, left⟩ := Handle.mem_peers_reconnected.mp mem
  refine left (others e (lodged.inside e old) fun own => ?_)
  exact agrees.bonds.others (own ▸ old)

theorem mended_of_heal {inj : Injector Lab} (nodes : inj.nodes = fleet.nodes)
    (here : fleet.posts[i]? = some p) (serving : p.Meets (Serving fleet.endpoints p.id) lab)
    (done : Attempt.result (inj.heal i) lab = (.ok (), lab')) :
    p.Meets (Mended fleet.endpoints p.id) lab' := by
  obtain ⟨node, ids, u, member, known, own, peers⟩ := Injector.link_symmetric_eq_ok done
  rw [node_eq_ok nodes here] at member
  cases member
  have own : Attempt.result
      ((p.handle.change .reconnect (p.handle.reconnected ids)).focus p.seat) lab = (.ok (), u) := own
  rw [Post.result_change serving.1] at own
  split at own
  · cases own
  · cases own
    have mended := mended_of_reconnected serving fun e he other =>
      mem_ids_others nodes here known he other
    -- What the others are told after that takes down blocks of theirs alone.
    have steps : Attempt.Steps (fleet.Acts Command.Reconnects) ((inj.others i).forM fun j =>
        Attempt.give (inj.node j) >>= fun peer => peer.reconnect [p.node.id]) :=
      .forM fun j _ => .give_bind fun peer there => fleet.steps_tell (.reconnect [p.node.id])
        (nodes ▸ Injector.mem_of_node there) trivial
    exact meets_of_reconnects steps (List.mem_of_getElem? here)
      (fun _ reconnects _ _ does => does.mended reconnects) mended peers

/-- **All members are mended** after a heal of each of them, if they run. -/
theorem mended_of_heals {inj : Injector Lab} {is : List Nat} (nodes : inj.nodes = fleet.nodes)
    (serving : ∀ p ∈ fleet.posts, p.Meets (Serving fleet.endpoints p.id) lab)
    (done : Attempt.result (is.forM inj.heal) lab = (.ok (), lab')) :
    ∀ i ∈ is, ∀ p, fleet.posts[i]? = some p → p.Meets (Mended fleet.endpoints p.id) lab' := by
  induction is generalizing lab with
  | nil =>
    intro i hi
    cases hi
  | cons j is ih =>
    obtain ⟨_, s, healed, rest⟩ := Attempt.bind_eq_ok done
    intro i hi p here
    rcases List.mem_cons.mp hi with rfl | hi
    · have mended := mended_of_heal nodes here (serving p (List.mem_of_getElem? here)) healed
      exact meets_of_reconnects (.forM fun _ _ => steps_heal nodes) (List.mem_of_getElem? here)
        (fun _ reconnects _ _ does => does.mended reconnects) mended rest
    · refine ih (fun q hq => ?_) rest i hi p here
      exact meets_of_reconnects (steps_heal nodes) hq
        (fun _ reconnects _ _ does => does.serving reconnects.mends) (serving q hq) healed

/-! ### Reading the cluster that was mended -/

/-- A member that is mended is up and blocks nobody, and its handle says so. -/
theorem whole_of_mended (mended : p.Meets (Mended fleet.endpoints p.id) lab) :
    (lab.commandedBy p.number).status = .running ∧ (lab.commandedBy p.number).peers = .empty ∧
      lab.fabric.Whole p.id := by
  obtain ⟨_, m, found, ⟨⟨agrees, lodged⟩, process⟩, none⟩ := mended
  have found : lab.fabric.members.get? p.id = some m := found
  have none : (lab.commandedBy p.number).peers = .empty := none
  have running : (lab.commandedBy p.number).status = .running := by
    have process : (lab.commandedBy p.number).status.process = .running := process
    have together : (lab.commandedBy p.number).status ≠ .disconnected :=
      fun apart => agrees.bonds.apart apart none
    cases status : (lab.commandedBy p.number).status with
    | running => rfl
    | disconnected => exact absurd status together
    | _ =>
      rw [status] at process
      cases process
  refine ⟨running, none, ?_, ?_⟩
  · rw [Fabric.isUp, found]
    refine (agrees.isUp_eq lodged.there).trans ?_
    exact congrArg NodeStatus.isLive running
  · rw [Fabric.blockedBy, found]
    exact agrees.bonds.peers.symm.trans none

/-- What is so after a start of all members and a heal of each that succeeded. -/
structure Recovered (fleet : Fleet) (lab lab' : Lab) : Prop where
  commanded : ∀ p ∈ fleet.posts, (lab'.commandedBy p.number).status = .running ∧
    (lab'.commandedBy p.number).peers = .empty
  whole : ∀ e ∈ fleet.endpoints, lab'.fabric.Whole e
  layout : lab'.fabric.layout = lab.fabric.layout
  paced : lab'.fabric.lagRemaining ≤ lab'.fabric.detectionLag

theorem Sound.recovered {inj : Injector Lab} {report : BatchReport} {lab₁ lab₂ : Lab}
    (sound : fleet.Sound lab) (nodes : inj.nodes = fleet.nodes) (callTimeout : Nat)
    (started : Attempt.result ({ inj with callTimeout := callTimeout }.batchAll .start) lab =
      (.ok report, lab₁)) (all : report.allSucceeded = true)
    (healed : Attempt.result (inj.all.forM inj.heal) lab₁ = (.ok (), lab₂)) :
    fleet.Recovered lab lab₂ := by
  have serving := serving_of_batchAll { inj with callTimeout := callTimeout } nodes sound.fit
    started all
  have mended : ∀ p ∈ fleet.posts, p.Meets (Mended fleet.endpoints p.id) lab₂ := by
    intro p hp
    obtain ⟨i, here⟩ := List.getElem?_of_mem hp
    exact mended_of_heals nodes serving healed i (mem_all nodes here) p here
  obtain ⟨still, first⟩ := sound.of_batchAll { inj with callTimeout := callTimeout } nodes started
  obtain ⟨after, second⟩ := still.of_heals nodes healed
  refine ⟨fun p hp => ?_, fun e he => ?_, second.trans first, after.paced⟩
  · obtain ⟨running, none, -⟩ := whole_of_mended (mended p hp)
    exact ⟨running, none⟩
  · obtain ⟨p, hp, rfl⟩ := List.mem_map.mp he
    exact (whole_of_mended (mended p hp)).2.2

end Fleet

namespace Lab
variable {start made lab lab₁ lab₂ : Lab} {flavor : Flavor} {fixture : Fixture} {identity : Uuid}
  {g : Group Lab} {report : BatchReport}

/-- **Every fault that can be injected can be undone.**  Whatever was injected into the members of a
deployed cluster, with whatever failures, deadlines and requests in between: if a start of all members
and then a heal of each succeed, every member was last commanded to run and blocks nobody.  If the
layout in place counts members alone as servers, the cluster settles with the management up: after one
more reading than the lag has, the report is stable with a strong quorum, nobody counts as
unresponsive, the epoch has grown by one at most, and further readings change nothing. -/
theorem recovers_from_incidents (fresh : ∀ l ∈ start.fabric.layout, l.clusterId ≠ identity)
    (deployed : ((orchestrator flavor).deploy fixture identity).result start = (.ok g, made))
    (incidents : List Incident) (reached : made.struck g.injector incidents = lab)
    (callTimeout : Nat)
    (started : Attempt.result ({ g.injector with callTimeout := callTimeout }.batchAll .start) lab =
      (.ok report, lab₁)) (all : report.allSucceeded = true)
    (healed : Attempt.result (g.injector.all.forM g.injector.heal) lab₁ = (.ok (), lab₂)) :
    (∀ node ∈ g.nodes, (node.commanded lab₂).status = .running ∧
      (node.commanded lab₂).peers = .empty) ∧
    ((∀ l ∈ lab.fabric.layout, ∀ e ∈ l.servers, e ∈ g.endpoints) →
      ∀ (peeks : List Peek) (read : Lab), (∀ peek ∈ peeks, peek.client < lab₂.memories.length) →
        peeks.length = lab₂.fabric.detectionLag + 1 →
        (lab₂.perform (.set (.managementDown false))).peeked peeks = read →
        ∃ l m r, lab₂.fabric.layout = some l ∧ read.fabric.layout = some m ∧
          m.unresponsive = .empty ∧ (m.epoch = l.epoch ∨ m.epoch = l.epoch + 1) ∧
          read.fabric.report = some r ∧ r.overall = .stable ∧ r.reliability = .strongQuorum ∧
          (∀ n < lab₂.memories.length, (read.asked n .getStatus).1 = .ok (.status r)) ∧
          ∀ more : List Peek, (∀ peek ∈ more, peek.client < lab₂.memories.length) →
            (read.peeked more).fabric = read.fabric) := by
  obtain ⟨rfl, -, -, sound⟩ := deploy_eq_ok fresh deployed
  subst reached
  have sound := sound.struck fixture.faults incidents
  have recovered := sound.recovered rfl callTimeout started all healed
  refine ⟨fun node mem => ?_, fun among peeks read there enough after => ?_⟩
  · obtain ⟨p, hp, rfl⟩ := List.mem_map.mp mem
    exact recovered.commanded p hp
  · subst after
    obtain ⟨l, hl, distinct, servers⟩ := sound.founded
    have place : lab₂.fabric.layout = some l := recovered.layout.trans hl
    have whole : ∀ e ∈ l.servers, lab₂.fabric.Whole e := by
      intro e he
      have member := among l hl e he
      rw [Group.endpoints, Fleet.map_id_nodes] at member
      exact recovered.whole e member
    have paced : lab₂.fabric.lagRemaining < peeks.length := by
      rw [enough]
      exact Nat.lt_succ_of_le recovered.paced
    -- Management that comes up again changes nothing about the members.
    obtain ⟨⟨m, r, quiet, answers⟩, further⟩ :=
      (lab₂.perform (.set (.managementDown false))).settled_after rfl place distinct servers
        (fun e he => ⟨(whole e he).up, (whole e he).blocks⟩) there paced
    refine ⟨l, m, r, place, quiet.layout, quiet.responsive, ?_, quiet.report, quiet.stable,
      quiet.strong, answers, further⟩
    rcases quiet.next with rfl | rfl
    · exact .inl rfl
    · exact .inr rfl

/-- One of three members is killed and counts as unresponsive; another one is too slow for the same
batch and loses its power later; the third one is cut off, and the heal of it stops halfway.  In the
end the management goes down. -/
def drill : List Incident :=
  [.manage (.set (.latency (endpointAt 1 9000) 50)) trivial, .fault 10 (.batch .kill [0, 1]),
    .manage (.request 0 .getStatus) trivial, .manage (.set (.detectionLag 1)) trivial,
    .fault 10 (.inject .powerOff 1), .fault 10 (.partition 2),
    .manage (.set (.failOnce (endpointAt 0 9000) .reconnect)) trivial, .fault 10 (.heal 2),
    .manage (.set (.managementDown true)) trivial]

/-- Three machines in a lab of their own. -/
def drillFleet : Fleet := .recruited .machine 9000 0 0 3

/-- The lab of the deployment of the three machines. -/
def drillDeployed : Except Failure (Group Lab) × Lab :=
  ((orchestrator .machine).deploy (.simulated 3) (.ofNat 7)).result empty

/-- The lab after the drill. -/
def drilled : Lab := drillDeployed.2.struck (drillFleet.injector .default) drill

/-- The start of all members after the drill. -/
def drillStarted : Except Failure BatchReport × Lab :=
  Attempt.result ({ drillFleet.injector .default with callTimeout := 100 }.batchAll .start) drilled

/-- The heals after that. -/
def drillHealed : Except Failure Unit × Lab :=
  Attempt.result ((drillFleet.injector .default).all.forM (drillFleet.injector .default).heal)
    drillStarted.2

theorem recovers_from_incidents_drill : ∃ g made,
    ((orchestrator .machine).deploy (.simulated 3) (.ofNat 7)).result empty = (.ok g, made) ∧
      (∃ l, (made.struck g.injector drill).fabric.layout = some l ∧
        l.unresponsive = .ofList [endpointAt 0 9000]) ∧
      ∃ report lab₁ lab₂,
        Attempt.result ({ g.injector with callTimeout := 100 }.batchAll .start)
          (made.struck g.injector drill) = (.ok report, lab₁) ∧ report.allSucceeded = true ∧
        Attempt.result (g.injector.all.forM g.injector.heal) lab₁ = (.ok (), lab₂) ∧
        (∀ node ∈ g.nodes, (node.commanded lab₂).status = .running) ∧
        ∃ m, ((lab₂.perform (.set (.managementDown false))).peeked
            [.status 0, .layout 0]).fabric.layout = some m ∧ m.unresponsive = .empty := by
  have fresh : ∀ l ∈ empty.fabric.layout, l.clusterId ≠ .ofNat 7 := by
    rintro l ⟨⟩
  have deploys : drillDeployed.1.toOption.isSome = true := by decide +kernel
  obtain ⟨g, taken⟩ := Option.isSome_iff_exists.mp deploys
  have deployed : drillDeployed = (.ok g, drillDeployed.2) := Attempt.eq_ok_of_toOption taken
  obtain ⟨rfl, -⟩ := deploy_eq_ok fresh deployed
  have succeeds : drillStarted.1.toOption.map BatchReport.allSucceeded = some true := by
    decide +kernel
  obtain ⟨report, reported, all⟩ := Option.map_eq_some_iff.mp succeeds
  have started : drillStarted = (.ok report, drillStarted.2) := Attempt.eq_ok_of_toOption reported
  have heals : drillHealed.1.toOption = some () := by decide +kernel
  have healed : drillHealed = (.ok (), drillHealed.2) := Attempt.eq_ok_of_toOption heals
  have marked : drilled.fabric.layout.map Layout.unresponsive = some (.ofList [endpointAt 0 9000]) := by
    decide +kernel
  have among : ∀ l ∈ drilled.fabric.layout, ∀ e ∈ l.servers, e ∈ drillFleet.nodes.map Node.id := by
    rw [Fleet.map_id_nodes]
    decide +kernel
  have enough : [Peek.status 0, Peek.layout 0].length = drillHealed.2.fabric.detectionLag + 1 := by
    decide +kernel
  have there : ∀ peek ∈ [Peek.status 0, Peek.layout 0],
      peek.client < drillHealed.2.memories.length := by decide +kernel
  obtain ⟨commanded, settles⟩ :=
    recovers_from_incidents fresh deployed drill rfl 100 started all healed
  obtain ⟨l, m, r, -, place, none, -⟩ := settles among _ _ there enough rfl
  exact ⟨_, _, deployed, Option.map_eq_some_iff.mp marked, report, _, _, started, all, healed,
    fun node mem => (commanded node mem).1, m, place, none⟩

end Lab

end FaultLab.Simulation
