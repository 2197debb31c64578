import FaultLab.Group
import FaultLab.Proofs.Deployments
import FaultLab.Proofs.Memories

/-! # Changes of the members are made sure of

A group asks its client for a change of the members, then has the client forget the layout that it remembers,
and then asks for the layout (`Group.Inquires`).  The change counts if the request was granted and the layout
shows it; in any other case there is a `Group.Complaint`, in which trouble with the request goes before
whatever the layout shows.

Nothing is assumed about the client, nor about what others do to the state while it is asked: the runs of a
change are exactly the inquiries, each with the outcome that its two answers call for (`Group.Verifies`). -/

namespace FaultLab

/-! ### One call after the other, amid others -/

namespace Call.Amid
variable {σ α β : Type} {R : σ → σ → Prop} {s t u : σ} {found first rest : List σ}

theorem bind {c : Call σ α} {f : α → Call σ β} {a : α} {b : β} (before : c.Amid R s first a u)
    (after : (f a).Amid R u rest b t) : (c.bind f).Amid R s (first ++ rest) b t := by
  induction before with
  | done => exact after
  | pause d _ ih => exact (ih after).pause d
  | note e _ ih => exact (ih after).note e
  | step act others _ ih => exact (ih after).step act others

theorem bind_iff {c : Call σ α} {f : α → Call σ β} {b : β} : (c.bind f).Amid R s found b t ↔
    ∃ a u first rest, c.Amid R s first a u ∧ (f a).Amid R u rest b t ∧ found = first ++ rest := by
  constructor
  · exact of_bind
  · rintro ⟨a, u, first, rest, before, after, rfl⟩
    exact before.bind after

end Call.Amid

namespace Attempt
variable {σ ε α β : Type} {R : σ → σ → Prop} {s t : σ} {found : List σ}

theorem amid_give_iff {r r' : Except ε α} :
    (give r : Attempt σ ε α).toCall.Amid R s found r' t ↔ r' = r ∧ found = [] ∧ t = s := by
  constructor
  · rintro ⟨⟩
    exact ⟨rfl, rfl, rfl⟩
  · rintro ⟨rfl, rfl, rfl⟩
    exact .done _ _

theorem toCall_lift_bind (c : Call σ α) (f : α → Attempt σ ε β) :
    (lift c >>= f).toCall = c.bind fun a => (f a).toCall :=
  Call.bind_assoc c _ _

theorem amid_log_bind_iff {e : Event} {f : Unit → Attempt σ ε β} {r : Except ε β} :
    (log e >>= f).toCall.Amid R s found r t ↔ (f ()).toCall.Amid R s found r t := by
  rw [log, toCall_lift_bind]
  constructor
  · rintro ⟨⟩
    assumption
  · exact .note e

end Attempt

namespace Group
variable {σ : Type} {R : σ → σ → Prop} {s t : σ} {found : List σ} {e : Endpoint} {l : Layout}
  {answer : Except ManagementError Unit} {observed : Except ManagementError Layout}

/-! ### The outcome of a change -/

/-- What there is to complain about when a request got an answer and a layout was observed after it, or not;
trouble with the request comes first. -/
inductive Complaint (shown : Layout → Prop) :
    Except ManagementError Unit → Except ManagementError Layout → String → Prop
  | refused (cause : ManagementError) (observed : Except ManagementError Layout) :
    Complaint shown (.error cause) observed cause.message
  | unseen (cause : ManagementError) :
    Complaint shown (.ok ()) (.error cause) ("layout re-fetch failed: " ++ cause.message)
  | notShown (l : Layout) (h : ¬ shown l) : Complaint shown (.ok ()) (.ok l)
    s!"call succeeded but layout epoch {l.epoch.toNat} does not reflect it"

namespace MembershipChange
variable {change : MembershipChange}

/-- A change is believed if the request was granted and the observed layout shows it. -/
theorem verdict_eq_ok_iff : verdict change e answer observed = .ok l ↔
    answer = .ok () ∧ observed = .ok l ∧ change.shows e l = true := by
  rcases answer with cause | ⟨⟨⟩⟩
  · simp [verdict]
  · rcases observed with cause | seen
    · simp [verdict]
    · by_cases shown : change.shows e seen = true
      · simp only [verdict, shown, if_true, Except.ok.injEq, true_and]
        exact ⟨fun same => ⟨same, same ▸ shown⟩, And.left⟩
      · simp only [verdict, shown, true_and, Except.ok.injEq]
        constructor
        · rintro ⟨⟩
        · rintro ⟨rfl, shown'⟩
          exact absurd shown' shown

/-- A change is doubted for the reason that there is to complain. -/
theorem exists_doubt_iff {detail : String} :
    (∃ doubt, verdict change e answer observed = .error doubt ∧ detail = doubt.message) ↔
      Complaint (fun l => change.shows e l = true) answer observed detail := by
  constructor
  · rintro ⟨doubt, doubted, rfl⟩
    rcases answer with cause | ⟨⟨⟩⟩
    · cases doubted
      exact .refused cause observed
    · rcases observed with cause | seen
      · cases doubted
        exact .unseen cause
      · rw [verdict] at doubted
        split at doubted
        · cases doubted
        · next hidden =>
          cases doubted
          exact .notShown seen hidden
  · rintro (⟨cause⟩ | ⟨cause⟩ | ⟨seen, hidden⟩)
    · exact ⟨.refused cause, rfl, rfl⟩
    · exact ⟨.unseen cause, rfl, rfl⟩
    · exact ⟨.notShown seen.epoch, if_neg hidden, rfl⟩

/-- What a group makes of the answer to a request for a change and of the layout observed after it. -/
def conclusion (change : MembershipChange) (e : Endpoint) (answer : Except ManagementError Unit)
    (observed : Except ManagementError Layout) : Except Failure Layout :=
  (verdict change e answer observed).mapError fun doubt =>
    .membership change.name e observed.toOption doubt.message

theorem conclusion_eq_ok_iff : change.conclusion e answer observed = .ok l ↔
    answer = .ok () ∧ observed = .ok l ∧ change.shows e l = true := by
  rw [← verdict_eq_ok_iff, conclusion]
  cases verdict change e answer observed <;> simp [Except.mapError]

theorem conclusion_eq_error_iff {failure : Failure} : change.conclusion e answer observed = .error failure ↔
    ∃ detail, Complaint (fun l => change.shows e l = true) answer observed detail ∧
      failure = .membership change.name e observed.toOption detail := by
  simp only [← exists_doubt_iff, conclusion]
  cases verdict change e answer observed with
  | ok l => simp [Except.mapError]
  | error doubt => simp [Except.mapError, eq_comm]

end MembershipChange

/-! ### The runs of a change -/

/-- A client is asked for a change, then made to forget, and then asked for the layout; others may do to the
state what `R` says in between. -/
def Inquires (client : ManagementClient σ) (request : Attempt σ ManagementError Unit) (R : σ → σ → Prop)
    (s : σ) (found : List σ) (answer : Except ManagementError Unit)
    (observed : Except ManagementError Layout) (t : σ) : Prop :=
  ∃ u v asked cleared fetched, request.toCall.Amid R s asked answer u ∧
    client.invalidate.Amid R u cleared () v ∧ client.getLayout.toCall.Amid R v fetched observed t ∧
    found = asked ++ (cleared ++ fetched)

variable {g : Group σ} {change : MembershipChange} {index : Nat} {outcome : Except Failure Layout}

/-- Tell of a verdict, and answer with it. -/
def announce (change : MembershipChange) (e : Endpoint) (observed : Except ManagementError Layout) :
    Except Doubt Layout → Attempt σ Failure Layout
  | .ok layout => do
    Attempt.log (.info "membership change verified" [("node", .fixed e.text),
      ("operation", .fixed change.name), ("epoch", .ofNat layout.epoch.toNat)])
    return layout
  | .error doubt => do
    Attempt.log (.warn "membership change failed" [("node", .fixed e.text),
      ("operation", .fixed change.name), ("detail", .unless doubt.varies doubt.message)])
    Attempt.give (.error (.membership change.name e observed.toOption doubt.message))

theorem verify_eq : g.verify change e answer = (do
    Attempt.lift g.management.invalidate
    let observed ← Attempt.lift g.management.getLayout.toCall
    announce change e observed (verdict change e answer observed)) :=
  rfl

/-- After the layout was fetched nothing more is done than to tell of the outcome. -/
theorem amid_announce_iff :
    (announce change e observed (verdict change e answer observed)).toCall.Amid R s found outcome t ↔
      outcome = change.conclusion e answer observed ∧ found = [] ∧ t = s := by
  rw [MembershipChange.conclusion]
  cases verdict change e answer observed with
  | ok layout => exact Attempt.amid_log_bind_iff.trans (Attempt.amid_give_iff (r := .ok layout))
  | error doubt => exact Attempt.amid_log_bind_iff.trans Attempt.amid_give_iff

theorem amid_verify_iff : (g.verify change e answer).toCall.Amid R s found outcome t ↔
    ∃ observed u cleared fetched, g.management.invalidate.Amid R s cleared () u ∧
      g.management.getLayout.toCall.Amid R u fetched observed t ∧ found = cleared ++ fetched ∧
      outcome = change.conclusion e answer observed := by
  simp only [verify_eq, Attempt.toCall_lift_bind, Call.Amid.bind_iff, amid_announce_iff]
  constructor
  · rintro ⟨⟨⟩, u, cleared, _, forgot, ⟨observed, v, fetched, _, seen, ⟨told, rfl, rfl⟩, rfl⟩, rfl⟩
    exact ⟨observed, u, cleared, fetched, forgot, seen, by rw [List.append_nil], told⟩
  · rintro ⟨observed, u, cleared, fetched, forgot, seen, rfl, told⟩
    refine ⟨(), u, cleared, fetched, forgot, ⟨observed, t, fetched, [], seen, ⟨told, rfl, rfl⟩, ?_⟩, rfl⟩
    rw [List.append_nil]

/-- The runs of a change of a member of a cluster that is ready are the inquiries. -/
theorem amid_changeMembership_iff (ready : g.readyEndpoint index = .ok e) :
    (g.changeMembership change index).toCall.Amid R s found outcome t ↔ ∃ answer observed,
      Inquires g.management (change.request g.management e g.fixture.membership) R s found answer observed t ∧
        outcome = change.conclusion e answer observed := by
  have begun : g.changeMembership change index = (do
      Attempt.log (change.event e)
      let answer ← Attempt.lift (change.request g.management e g.fixture.membership).toCall
      g.verify change e answer) := by
    rw [changeMembership, ready]
    rfl
  rw [begun, Attempt.amid_log_bind_iff, Attempt.toCall_lift_bind, Call.Amid.bind_iff]
  simp only [amid_verify_iff, Inquires]
  constructor
  · rintro ⟨answer, u, asked, _, granted, ⟨observed, v, cleared, fetched, forgot, seen, rfl, told⟩, rfl⟩
    exact ⟨answer, observed, ⟨u, v, asked, cleared, fetched, granted, forgot, seen, rfl⟩, told⟩
  · rintro ⟨answer, observed, ⟨u, v, asked, cleared, fetched, granted, forgot, seen, rfl⟩, told⟩
    exact ⟨answer, u, asked, cleared ++ fetched, granted,
      ⟨observed, v, cleared, fetched, forgot, seen, rfl, told⟩, rfl⟩

/-- A group makes sure of an operation on the member at an index.  The client is asked for nothing unless the
cluster is ready and has the member.  Otherwise the outcome is a layout exactly if the request was granted and
this layout, fetched afterwards, shows the change; and it is a failure that names the operation and the
member, with the layout that was observed, exactly if there is a complaint. -/
structure Verifies (g : Group σ) (index : Nat) (call : Attempt σ Failure Layout) (operation : String)
    (request : Endpoint → Attempt σ ManagementError Unit) (shown : Endpoint → Layout → Prop) : Prop where
  unready : g.phase ≠ .ready → call = Attempt.give (.error (.invalidState "READY" g.phase.name))
  missing : g.phase = .ready → g.nodes.length ≤ index →
    call = Attempt.give (.error (.noNode index g.nodes.length))
  succeeds : ∀ R s found l t, call.toCall.Amid R s found (.ok l) t ↔ g.phase = .ready ∧
    ∃ node, g.nodes[index]? = some node ∧
      Inquires g.management (request node.id) R s found (.ok ()) (.ok l) t ∧ shown node.id l
  fails : ∀ node, g.phase = .ready → g.nodes[index]? = some node →
    ∀ R s found failure t, call.toCall.Amid R s found (.error failure) t ↔ ∃ answer observed detail,
      Inquires g.management (request node.id) R s found answer observed t ∧
        Complaint (shown node.id) answer observed detail ∧
        failure = .membership operation node.id observed.toOption detail

theorem readyEndpoint_eq_ok (ready : g.phase = .ready) {node : Node σ} (here : g.nodes[index]? = some node) :
    g.readyEndpoint index = .ok node.id := by
  rw [readyEndpoint, Group.node, here, ready]
  rfl

theorem readyEndpoint_eq_missing (ready : g.phase = .ready) (missing : g.nodes.length ≤ index) :
    g.readyEndpoint index = .error (.noNode index g.nodes.length) := by
  rw [readyEndpoint, Group.node, List.getElem?_eq_none missing, ready]
  rfl

theorem readyEndpoint_eq_unready (unready : g.phase ≠ .ready) :
    g.readyEndpoint index = .error (.invalidState "READY" g.phase.name) := by
  rw [readyEndpoint, Phase.require, if_neg unready]
  rfl

theorem changeMembership_eq_give {failure : Failure} (h : g.readyEndpoint index = .error failure) :
    g.changeMembership change index = Attempt.give (.error failure) := by
  rw [changeMembership, h]
  rfl

theorem verifies_changeMembership (g : Group σ) (change : MembershipChange) (index : Nat) :
    g.Verifies index (g.changeMembership change index) change.name
      (fun e => change.request g.management e g.fixture.membership)
      fun e l => change.shows e l = true where
  unready unready := changeMembership_eq_give (readyEndpoint_eq_unready unready)
  missing ready missing := changeMembership_eq_give (readyEndpoint_eq_missing ready missing)
  succeeds R s found l t := by
    by_cases ready : g.phase = .ready
    · cases here : g.nodes[index]? with
      | some node =>
        rw [amid_changeMembership_iff (readyEndpoint_eq_ok ready here)]
        constructor
        · rintro ⟨answer, observed, inquired, told⟩
          obtain ⟨rfl, rfl, shown⟩ := MembershipChange.conclusion_eq_ok_iff.mp told.symm
          exact ⟨ready, node, rfl, inquired, shown⟩
        · rintro ⟨-, node, ⟨⟩, inquired, shown⟩
          exact ⟨_, _, inquired, (MembershipChange.conclusion_eq_ok_iff.mpr ⟨rfl, rfl, shown⟩).symm⟩
      | none =>
        rw [changeMembership_eq_give (readyEndpoint_eq_missing ready (List.getElem?_eq_none_iff.mp here)),
          Attempt.amid_give_iff]
        simp
    · rw [changeMembership_eq_give (readyEndpoint_eq_unready ready), Attempt.amid_give_iff]
      simp [ready]
  fails node ready here R s found failure t := by
    rw [amid_changeMembership_iff (readyEndpoint_eq_ok ready here)]
    constructor
    · rintro ⟨answer, observed, inquired, told⟩
      obtain ⟨detail, complaint, rfl⟩ := MembershipChange.conclusion_eq_error_iff.mp told.symm
      exact ⟨answer, observed, detail, inquired, complaint, rfl⟩
    · rintro ⟨answer, observed, detail, inquired, complaint, rfl⟩
      exact ⟨answer, observed, inquired,
        (MembershipChange.conclusion_eq_error_iff.mpr ⟨detail, complaint, rfl⟩).symm⟩

/-- **A change of the members is believed only when it is seen**: whatever the client answers, and whatever
others do meanwhile, adding a member succeeds with the layout that was fetched after the request was granted
and after the client forgot, and only if it has the member; removing one likewise, only if it lacks it. -/
theorem membership_changes_verified (g : Group σ) (index : Nat) :
    g.Verifies index (g.addNode index) "add" (fun e => g.management.add e g.fixture.membership)
      (fun e l => e ∈ l.servers) ∧
    g.Verifies index (g.removeNode index) "remove" (fun e => g.management.remove e g.fixture.membership)
      (fun e l => e ∉ l.servers) := by
  have joined : (fun e l => MembershipChange.add.shows e l = true) =
      fun e (l : Layout) => e ∈ l.servers := by
    funext e l
    simp [MembershipChange.shows, Layout.contains]
  have gone : (fun e l => MembershipChange.remove.shows e l = true) =
      fun e (l : Layout) => e ∉ l.servers := by
    funext e l
    simp [MembershipChange.shows, Layout.contains]
  rw [← joined, ← gone]
  exact ⟨g.verifies_changeMembership .add index, g.verifies_changeMembership .remove index⟩

open Simulation in
/-- Three machines are deployed, two of them are killed, and the third one is to be added, which is a server
already. -/
def outvoted : Attempt Lab Failure Layout := do
  let g ← (Lab.orchestrator .machine).deploy (.simulated 3) (.ofNat 7)
  g.injector.inject .kill 0
  g.injector.inject .kill 1
  g.addNode 2

/-- The request is refused, and that is the complaint, though the observed layout has the member. -/
example : (match (outvoted.result Simulation.Lab.empty).1 with
    | .error (.membership "add" e (some l) detail) =>
      l.contains e && detail == "request rejected: no quorum of layout servers"
    | _ => false) = true := by
  decide +kernel

end Group

end FaultLab
