import FaultLab.Proofs.Readings
import FaultLab.Proofs.Shapes

/-! # What calls that change the members come to

A call that makes an endpoint a server, or no server any more, reads the cluster first, and whatever it
decides it decides on what that reading leaves.  Since a reading changes neither the servers nor the
members, one can tell beforehand whether the call succeeds (`Fabric.MayJoin`, `Fabric.MayLeave`).

A `Fabric.Change` is one of the two calls with what it asks for and what it makes of a layout;
`Lab.Exact` says what becomes of a call in a lab: it is answered as it should be, a change is put in
place and looked at at once, and otherwise the reading is all that has happened. -/

namespace FaultLab

/-! ### Layouts with a server more or less -/

namespace Layout
variable {l m : Layout} {e : Endpoint}

/-- The next layout, where a server has joined at the end of the servers, the sequencers and the only
log. -/
structure Gains (e : Endpoint) (l m : Layout) : Prop where
  servers : m.servers = l.servers ++ [e]
  sequencers : m.sequencers = l.sequencers ++ [e]
  log : ∃ log, l.segments = [⟨.chain, 0, none, [⟨log⟩]⟩] ∧
    m.segments = [⟨.chain, 0, none, [⟨log ++ [e]⟩]⟩]
  unresponsive : m.unresponsive = l.unresponsive
  epoch : m.epoch = l.epoch + 1
  clusterId : m.clusterId = l.clusterId

/-- The next layout, where a server has left the servers, the sequencers, the only log and the
unresponsive servers, wherever it was one. -/
structure Loses (e : Endpoint) (l m : Layout) : Prop where
  servers : m.servers = l.servers.filter (· ≠ e)
  sequencers : m.sequencers = l.sequencers.filter (· ≠ e)
  log : ∃ log, l.segments = [⟨.chain, 0, none, [⟨log⟩]⟩] ∧
    m.segments = [⟨.chain, 0, none, [⟨log.filter (· ≠ e)⟩]⟩]
  unresponsive : m.unresponsive = l.unresponsive.erase e
  epoch : m.epoch = l.epoch + 1
  clusterId : m.clusterId = l.clusterId

theorem Shaped.gains (h : l.Shaped) (e : Endpoint) : l.Gains e (l.addServer e) where
  servers := rfl
  sequencers := rfl
  log := by
    refine ⟨l.servers, h.segments, ?_⟩
    rw [Layout.addServer, h.segments]
    rfl
  unresponsive := rfl
  epoch := rfl
  clusterId := rfl

theorem Shaped.loses (h : l.Shaped) (e : Endpoint) : l.Loses e (l.removeServer e) where
  servers := rfl
  sequencers := rfl
  log := by
    refine ⟨l.servers, h.segments, ?_⟩
    rw [Layout.removeServer, h.segments]
    rfl
  unresponsive := rfl
  epoch := rfl
  clusterId := rfl

/-- One is the only server exactly if it is there and there is one. -/
theorem servers_eq_singleton : l.servers = [e] ↔ e ∈ l.servers ∧ l.servers.length = 1 := by
  constructor
  · intro alone
    simp [alone]
  · rintro ⟨member, one⟩
    obtain ⟨a, alone⟩ := List.length_eq_one_iff.mp one
    rw [alone] at member ⊢
    rw [List.mem_singleton.mp member]

end Layout

namespace Simulation

/-! ### What a reading leaves to a change -/

namespace Fabric
variable {f g : Fabric} {l m : Layout} {e : Endpoint}

theorem members_watched (f : Fabric) : f.watched.members = f.members := by
  rw [watched]
  cases seen : f.observe with
  | error cause => rfl
  | ok g =>
    obtain ⟨-, l, -, ⟨-, rfl⟩ | ⟨-, rfl⟩⟩ := observe_eq_ok seen
    · rfl
    · rfl

theorem managementDown_watched (f : Fabric) : f.watched.managementDown = f.managementDown := by
  rw [watched]
  cases seen : f.observe with
  | error cause => rfl
  | ok g =>
    obtain ⟨-, l, -, ⟨-, rfl⟩ | ⟨-, rfl⟩⟩ := observe_eq_ok seen
    · rfl
    · rfl

/-- A reading may mark servers of the layout in place, but changes none of them. -/
theorem layout_watched_of_layout (up : f.managementDown = false) (hl : f.layout = some l) :
    ∃ l', f.watched.layout = some l' ∧ l'.servers = l.servers := by
  rw [watched_of_layout up hl]
  split
  · exact ⟨l, hl, rfl⟩
  · exact ⟨settle (f.detect l) l, rfl, servers_settle _ _⟩

theorem detect_of_members (members : g.members = f.members) : g.detect l = f.detect l :=
  (SameGround.of_members members).detect_eq l

theorem isUp_of_members (members : g.members = f.members) : g.isUp e = f.isUp e := by
  rw [isUp, isUp, members]

/-- A layout that is put in place is looked at at once, whatever the lag. -/
theorem commit_eq_look (up : f.managementDown = false) (m : Layout) : f.commit m = f.look m := by
  have placed : ¬ (f.place m).Waiting := fun waiting => Bool.false_ne_true waiting.1
  rw [commit_eq, watched_of_layout (f := f.place m) up rfl, if_neg placed]
  rfl

/-- What it takes to change the layout in place for an endpoint: the management is up, so many servers
are not found by the detector that they make a quorum, and the endpoint is that of a member. -/
structure Agrees (f : Fabric) (l : Layout) (e : Endpoint) : Prop where
  up : f.managementDown = false
  layout : f.layout = some l
  quorum : l.quorum ≤ (f.remaining l).length
  known : f.members.contains e = true

/-- Whether a call to make an endpoint a server succeeds: it is one already, or the member is up. -/
def MayJoin (f : Fabric) (e : Endpoint) : Prop :=
  ∃ l, f.Agrees l e ∧ (e ∈ l.servers ∨ f.isUp e = true)

/-- Whether a call to make an endpoint no server any more succeeds: it is not the only one. -/
def MayLeave (f : Fabric) (e : Endpoint) : Prop := ∃ l, f.Agrees l e ∧ l.servers ≠ [e]

/-- After a reading, the layout can be changed for an endpoint exactly if that could be told before it. -/
theorem changeable_watched (up : f.managementDown = false) (hl : f.layout = some l)
    (distinct : l.servers.Nodup) : ∃ l', f.watched.layout = some l' ∧ l'.servers = l.servers ∧
      (f.Agrees l e → f.watched.changeable e = .ok l') ∧
      (¬ f.Agrees l e → ∃ cause, f.watched.changeable e = .error cause) := by
  obtain ⟨l', place, servers⟩ := layout_watched_of_layout up hl
  have quorum : hasQuorum l' (f.watched.detect l') = true ↔ l.quorum ≤ (f.remaining l).length := by
    have detect : f.watched.detect l' = f.detect l := by
      rw [detect_of_members f.members_watched, Fabric.detect, vantages, servers]
      rfl
    have same : hasQuorum l' (f.detect l) = hasQuorum l (f.detect l) := by
      rw [hasQuorum, hasQuorum, Layout.quorum, Layout.quorum, servers]
    rw [detect, same, hasQuorum_detect_iff distinct]
  refine ⟨l', place, servers, fun agrees => ?_, fun disagrees => ?_⟩
  · simp [changeable, place, quorum.mpr agrees.quorum, f.members_watched, agrees.known]
  · rw [changeable, place]
    by_cases enough : hasQuorum l' (f.watched.detect l') = true
    · have unknown : ¬ f.watched.members.contains e = true := by
        rw [f.members_watched]
        exact fun known => disagrees ⟨up, hl, quorum.mp enough, known⟩
      exact ⟨.unknownEndpoint e, by simp [enough, unknown]⟩
    · exact ⟨.noQuorum, by simp [enough]⟩

/-! ### Joining and leaving -/

/-- A call that changes whether an endpoint is a server: how it picks the next layout, what it asks for
beyond an agreement, when there is nothing to do, and what it makes of a layout. -/
structure Change (e : Endpoint) where
  pick : Fabric → Layout → Except ManagementError (Option Layout)
  asks : Fabric → List Endpoint → Prop
  shown : Layout → Prop
  next : Layout → Layout → Prop
  blind : ∀ {f g : Fabric} {servers}, g.members = f.members → (asks g servers ↔ asks f servers)
  refused : ∀ {f : Fabric} {l}, ¬ asks f l.servers → ∃ cause, pick f l = .error cause
  kept : ∀ {f : Fabric} {l}, asks f l.servers → shown l → pick f l = .ok none
  made : ∀ {f : Fabric} {l}, asks f l.servers → ¬ shown l → l.Shaped →
    ∃ m, pick f l = .ok (some m) ∧ next l m

namespace Change

/-- Make an endpoint a server. -/
def join (e : Endpoint) : Change e where
  pick := joined e
  asks f servers := e ∈ servers ∨ f.isUp e = true
  shown l := e ∈ l.servers
  next := Layout.Gains e
  blind members := or_congr_right (by rw [isUp_of_members members])
  refused := by
    intro f l unasked
    rw [not_or] at unasked
    exact ⟨.notRunning e, by simp [joined, Layout.contains, unasked]⟩
  kept := by
    intro f l _ member
    simp [joined, Layout.contains, member]
  made := by
    intro f l asked new shaped
    have up := asked.resolve_left new
    exact ⟨l.addServer e, by simp [joined, Layout.contains, new, up], shaped.gains e⟩

/-- Make an endpoint no server any more. -/
def leave (e : Endpoint) : Change e where
  pick := left e
  asks _ servers := servers ≠ [e]
  shown l := e ∉ l.servers
  next := Layout.Loses e
  blind _ := Iff.rfl
  refused := by
    intro f l unasked
    rw [not_not, Layout.servers_eq_singleton] at unasked
    exact ⟨.lastServer, by simp [left, ClientState.withoutServer, Layout.contains, unasked]⟩
  kept := by
    intro f l _ gone
    simp [left, ClientState.withoutServer, Layout.contains, gone]
  made := by
    intro f l asked member shaped
    rw [not_not] at member
    have others : l.servers.length ≠ 1 := fun one =>
      asked (Layout.servers_eq_singleton.mpr ⟨member, one⟩)
    exact ⟨l.removeServer e, by simp [left, ClientState.withoutServer, Layout.contains, member, others],
      shaped.loses e⟩

end Change

end Fabric

namespace ClientState
variable {d : ClientState} {l : Layout} {e : Endpoint}

/-- A change for which there is no agreement, or that asks for more than there is, is refused. -/
theorem changeOutcome_refused (change : Fabric.Change e) (shaped : ∀ l ∈ d.fabric.layout, l.Shaped)
    (refused : ¬ ∃ l, d.fabric.Agrees l e ∧ change.asks d.fabric l.servers) :
    ∃ cause, d.changeOutcome e change.pick = (.error cause, { d with fabric := d.fabric.watched }) := by
  cases seen : d.fabric.observe with
  | error cause =>
    have same : d.fabric.watched = d.fabric := by rw [Fabric.watched, seen]
    exact ⟨cause, by rw [changeOutcome, seen, same]⟩
  | ok g =>
    have same : d.fabric.watched = g := by rw [Fabric.watched, seen]
    obtain ⟨up, l, hl, -⟩ := Fabric.observe_eq_ok seen
    obtain ⟨l', -, servers, agreed, disagreed⟩ :=
      Fabric.changeable_watched (e := e) up hl (shaped l hl).distinct
    suffices ∃ cause, g.changed e change.pick = .error cause by
      obtain ⟨cause, changed⟩ := this
      exact ⟨cause, by simp only [changeOutcome, seen, changed, same]⟩
    rw [← same]
    by_cases agrees : d.fabric.Agrees l e
    · have unasked : ¬ change.asks d.fabric.watched l'.servers := by
        rw [servers, change.blind d.fabric.members_watched]
        exact fun asked => refused ⟨l, agrees, asked⟩
      obtain ⟨cause, picked⟩ := change.refused unasked
      exact ⟨cause, by simp only [Fabric.changed, agreed agrees, picked]⟩
    · obtain ⟨cause, changeable⟩ := disagreed agrees
      exact ⟨cause, by simp only [Fabric.changed, changeable]⟩

/-- A change that there is agreement on is made, unless the layout shows it already. -/
theorem changeOutcome_accepted (change : Fabric.Change e) (shaped : ∀ l ∈ d.fabric.layout, l.Shaped)
    (agrees : d.fabric.Agrees l e) (asked : change.asks d.fabric l.servers) :
    ∃ l', d.fabric.watched.layout = some l' ∧
      (change.shown l' → d.changeOutcome e change.pick = (.ok .done, ⟨d.fabric.watched, none⟩)) ∧
      (¬ change.shown l' → ∃ m, change.next l' m ∧
        d.changeOutcome e change.pick = (.ok .done, ⟨d.fabric.watched.look m, none⟩)) := by
  have seen := Fabric.observe_eq_watched agrees.up agrees.layout
  have before := shaped l agrees.layout
  obtain ⟨l', place, servers, agreed, -⟩ :=
    Fabric.changeable_watched (e := e) agrees.up agrees.layout before.distinct
  have changed : d.fabric.watched.changed e change.pick = change.pick d.fabric.watched l' := by
    simp only [Fabric.changed, agreed agrees]
  have asked : change.asks d.fabric.watched l'.servers := by
    rw [servers, change.blind d.fabric.members_watched]
    exact asked
  refine ⟨l', place, fun shown => ?_, fun unshown => ?_⟩
  · simp only [changeOutcome, seen, changed, change.kept asked shown]
  · have after : l'.Shaped := by
      obtain ⟨k, hk, after⟩ := (Fabric.stage_watched d.fabric).turn.shaped ⟨l, agrees.layout, before⟩
      rw [place] at hk
      cases hk
      exact after
    obtain ⟨m, picked, next⟩ := change.made asked unshown after
    have up : d.fabric.watched.managementDown = false := d.fabric.managementDown_watched.trans agrees.up
    refine ⟨m, next, ?_⟩
    simp only [changeOutcome, seen, changed, picked, Fabric.commit_eq_look up]

end ClientState

namespace Lab
variable {lab : Lab} {number : Nat} {e : Endpoint} {req : Request}

/-- What becomes of a call that may change the layout in place.  It succeeds exactly if it may.  The
layout that a reading leaves stays if it shows the change already; otherwise the next one is put in
place and looked at, however long the lag has left.  A call that is refused leaves what the reading
leaves, which is nothing new if the reading fails. -/
structure Exact (lab : Lab) (number : Nat) (req : Request) (may : Prop) (shown : Layout → Prop)
    (next : Layout → Layout → Prop) : Prop where
  accepted : (lab.asked number req).1 = .ok .done ↔ may
  done : may → ∃ l, lab.fabric.watched.layout = some l ∧
    (shown l → lab.asked number req =
      (.ok .done, (clientState number).set ⟨lab.fabric.watched, none⟩ lab)) ∧
    (¬ shown l → ∃ m, next l m ∧ lab.asked number req =
      (.ok .done, (clientState number).set ⟨lab.fabric.watched.look m, none⟩ lab))
  refused : ¬ may → ∃ cause, lab.asked number req = (.error cause,
    (clientState number).set { (clientState number).get lab with fabric := lab.fabric.watched } lab)

/-- Each of the two calls is exact where the layout in place has its shape. -/
theorem exact_change (change : Fabric.Change e)
    (asked : ∀ d, ClientState.asked req d = d.changeOutcome e change.pick)
    (there : number < lab.memories.length) (shaped : ∀ l ∈ lab.fabric.layout, l.Shaped) :
    lab.Exact number req (∃ l, lab.fabric.Agrees l e ∧ change.asks lab.fabric l.servers) change.shown
      change.next := by
  have outcome : lab.asked number req = ((((clientState number).get lab).changeOutcome e change.pick).1,
      (clientState number).set (((clientState number).get lab).changeOutcome e change.pick).2 lab) := by
    rw [asked_eq there, asked]
  have done : (∃ l, lab.fabric.Agrees l e ∧ change.asks lab.fabric l.servers) →
      ∃ l', lab.fabric.watched.layout = some l' ∧
        (change.shown l' → lab.asked number req =
          (.ok .done, (clientState number).set ⟨lab.fabric.watched, none⟩ lab)) ∧
        (¬ change.shown l' → ∃ m, change.next l' m ∧ lab.asked number req =
          (.ok .done, (clientState number).set ⟨lab.fabric.watched.look m, none⟩ lab)) := by
    rintro ⟨l, agrees, may⟩
    obtain ⟨l', place, kept, made⟩ :=
      ClientState.changeOutcome_accepted (d := (clientState number).get lab) change shaped agrees may
    refine ⟨l', place, fun shown => ?_, fun unshown => ?_⟩
    · rw [outcome, kept shown]
      rfl
    · obtain ⟨m, next, made⟩ := made unshown
      refine ⟨m, next, ?_⟩
      rw [outcome, made]
      rfl
  have refused : (¬ ∃ l, lab.fabric.Agrees l e ∧ change.asks lab.fabric l.servers) →
      ∃ cause, lab.asked number req = (.error cause,
        (clientState number).set { (clientState number).get lab with fabric := lab.fabric.watched } lab) := by
    intro unfit
    obtain ⟨cause, refused⟩ :=
      ClientState.changeOutcome_refused (d := (clientState number).get lab) change shaped unfit
    refine ⟨cause, ?_⟩
    rw [outcome, refused]
    rfl
  refine ⟨⟨fun ok => ?_, fun may => ?_⟩, done, refused⟩
  · by_contra unfit
    obtain ⟨cause, refused⟩ := refused unfit
    rw [refused] at ok
    cases ok
  · obtain ⟨l, -, kept, made⟩ := done may
    by_cases shown : change.shown l
    · rw [kept shown]
    · obtain ⟨m, -, made⟩ := made shown
      rw [made]

/-- **Calls that change the members do exactly what they are to do, or nothing.**  In every state of a
lab before a first layout and after it, a call to make an endpoint a server succeeds exactly if there is
agreement on a change and the endpoint is a server already or up, and a call to make it no server any
more exactly if there is agreement and it is not the only one.  A call that succeeds puts the endpoint
at the end of all lists of the layout that a reading leaves, or takes it out of them, unless there is
nothing to do; and a call that fails leaves what the reading leaves. -/
theorem membership_calls_exact (reached : lab.fabric.layout = none ∨ Deployed lab)
    (there : number < lab.memories.length) (e : Endpoint) (patience : Patience) :
    lab.Exact number (.add e patience) (lab.fabric.MayJoin e) (fun l => e ∈ l.servers)
        (Layout.Gains e) ∧
      lab.Exact number (.remove e patience) (lab.fabric.MayLeave e) (fun l => e ∉ l.servers)
        (Layout.Loses e) := by
  have shaped : ∀ l ∈ lab.fabric.layout, l.Shaped := by
    intro l hl
    rcases reached with bare | deployed
    · rw [bare] at hl
      cases hl
    · obtain ⟨k, hk, shaped⟩ := deployed.shaped
      rw [hk] at hl
      cases hl
      exact shaped
  exact ⟨exact_change (.join e) (ClientState.asked_add e patience) there shaped,
    exact_change (.leave e) (ClientState.asked_remove e patience) there shaped⟩

/-- Three servers of which one was killed, which the detector is not to see for five more readings. -/
def delayed : Lab :=
  trio.after [.set (.detectionLag 5), .command 0 ⟨⟨"c:1"⟩, .container⟩ .kill none]

theorem membership_calls_exact_delayed : Deployed delayed ∧ 0 < delayed.fabric.watched.lagRemaining ∧
    (delayed.asked 0 (.add ⟨"d:1"⟩ .default)).1 = .ok .done ∧
    (∃ l m : Layout, l.Gains ⟨"d:1"⟩ m ∧ l.unresponsive = .empty ∧
      delayed.asked 0 (.add ⟨"d:1"⟩ .default) =
        (.ok .done, (clientState 0).set ⟨delayed.fabric.watched.look m, none⟩ delayed)) ∧
    ∃ cause, (delayed.asked 0 (.remove ⟨"x:1"⟩ .default)).1 = .error cause := by
  have deployed : Deployed delayed := by
    refine Deployed.after (.bootstrap ?_ ?_ ?_ ?_) _
    · rfl
    · decide
    · decide
    · decide +kernel
  have there : 0 < delayed.memories.length := by decide +kernel
  obtain ⟨joins, -⟩ := membership_calls_exact (.inr deployed) there ⟨"d:1"⟩ .default
  obtain ⟨-, leaves⟩ := membership_calls_exact (.inr deployed) there ⟨"x:1"⟩ .default
  have may : delayed.fabric.MayJoin ⟨"d:1"⟩ := by
    refine ⟨.initial [⟨"a:1"⟩, ⟨"b:1"⟩, ⟨"c:1"⟩] (.ofNat 7), ⟨?_, ?_, ?_, ?_⟩, .inr ?_⟩ <;> decide +kernel
  have stranger : ¬ delayed.fabric.MayLeave ⟨"x:1"⟩ := by
    rintro ⟨l, agrees, -⟩
    have unknown : delayed.fabric.members.contains ⟨"x:1"⟩ = false := by decide +kernel
    rw [agrees.known] at unknown
    cases unknown
  have before : delayed.fabric.watched.layout =
      some (.initial [⟨"a:1"⟩, ⟨"b:1"⟩, ⟨"c:1"⟩] (.ofNat 7)) := by decide +kernel
  obtain ⟨l, place, -, made⟩ := joins.done may
  rw [before] at place
  cases place
  obtain ⟨m, gains, after⟩ := made (by decide)
  obtain ⟨cause, refused⟩ := leaves.refused stranger
  exact ⟨deployed, by decide +kernel, joins.accepted.mpr may, ⟨_, m, gains, rfl, after⟩, cause,
    by rw [refused]⟩

end Lab

end Simulation

end FaultLab
