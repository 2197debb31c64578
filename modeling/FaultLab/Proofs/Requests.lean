import FaultLab.Proofs.Calls
import FaultLab.Simulation.Lab
import Mathlib.Data.List.Chain

/-! # Requests to the management of a simulated cluster

A `Request` is anything that a client can be asked.  One request may change the layout in place up
to three times: a reading may mark servers, the change itself puts a layout in place, and the
detector looks at once.  `ClientState.stages` lists the fabrics that a request goes through, also the one in
which a layout is in place and nobody has looked yet.

* `ClientState.fabric_asked` ties the list to the request: its last fabric is the one that is left.
* `ClientState.isChain_stages` says all that can happen from one fabric to the next (`Fabric.Stage`):
  members change at most the number of their resets, and the layout in place stays, is the first
  one, or gives way to a revision of it (`Fabric.Revision`), for which a quorum of its servers has
  to be left. -/

namespace FaultLab.Simulation

/-- What a client can be asked. -/
inductive Request where
  | getLayout
  | getStatus
  | invalidate
  | bootstrap (layout : Layout)
  | add (e : Endpoint) (patience : Patience)
  | remove (e : Endpoint) (patience : Patience)
  | reset (e : Endpoint)

/-- What a client answers. -/
inductive Answer where
  | layout (layout : Layout)
  | status (report : StatusReport)
  | done

namespace Request
variable {σ τ : Type}

/-- Ask a client. -/
def ask (client : ManagementClient σ) : Request → Attempt σ ManagementError Answer
  | getLayout => do
    let layout ← client.getLayout
    return .layout layout
  | getStatus => do
    let report ← client.getStatus
    return .status report
  | invalidate => do
    Attempt.lift client.invalidate
    return .done
  | bootstrap layout => do
    client.bootstrap layout
    return .done
  | add e patience => do
    client.add e patience
    return .done
  | remove e patience => do
    client.remove e patience
    return .done
  | reset e => do
    client.reset e
    return .done

theorem ask_focus (p : Part σ τ) (client : ManagementClient τ) (req : Request) :
    req.ask (client.focus p) = (req.ask client).focus p := by
  cases req with
  | getLayout => exact (Attempt.focus_bind p client.getLayout fun l => pure (Answer.layout l)).symm
  | getStatus => exact (Attempt.focus_bind p client.getStatus fun r => pure (Answer.status r)).symm
  | invalidate =>
    rw [ask, ask, Attempt.focus_bind, Attempt.focus_lift]
    rfl
  | bootstrap l => exact (Attempt.focus_bind p (client.bootstrap l) fun _ => pure Answer.done).symm
  | add e q => exact (Attempt.focus_bind p (client.add e q) fun _ => pure Answer.done).symm
  | remove e q => exact (Attempt.focus_bind p (client.remove e q) fun _ => pure Answer.done).symm
  | reset e => exact (Attempt.focus_bind p (client.reset e) fun _ => pure Answer.done).symm

end Request

/-! ### What the parts of a request do -/

namespace Fabric

/-- The fabric after a reading, whether it succeeds or not. -/
def watched (f : Fabric) : Fabric :=
  match f.observe with
  | .ok g => g
  | .error _ => f

/-- Put a layout in place, without a look at it. -/
def place (l : Layout) (f : Fabric) : Fabric := { f with layout := some l, report := none }

theorem commit_eq (l : Layout) (f : Fabric) : f.commit l = (f.place l).watched := rfl

/-- The layout with a server more, unless it is there already or does not run. -/
def joined (e : Endpoint) (f : Fabric) (l : Layout) : Except ManagementError (Option Layout) :=
  if l.contains e then .ok none
  else if f.isUp e then .ok (some (l.addServer e))
  else .error (.notRunning e)

/-- The layout without a server, unless it is gone already or the last one. -/
def left (e : Endpoint) (_ : Fabric) (l : Layout) : Except ManagementError (Option Layout) :=
  ClientState.withoutServer e l

/-- The layout to put in place for a change of the members, if there is to be one. -/
def changed (e : Endpoint) (next : Fabric → Layout → Except ManagementError (Option Layout))
    (f : Fabric) : Except ManagementError (Option Layout) :=
  match f.changeable e with
  | .ok l => next f l
  | .error cause => .error cause

end Fabric

namespace ClientState
variable {d : ClientState}

theorem result_onFabric {α : Type} (act : Fabric → α × Fabric) (d : ClientState) :
    (onFabric act).result d = ((act d.fabric).1, { d with fabric := (act d.fabric).2 }) := rfl

theorem result_observe (d : ClientState) : Attempt.result observe d = match d.fabric.observe with
    | .ok g => (.ok g, { d with fabric := g })
    | .error e => (.error e, d) := by
  rw [observe, Attempt.result_bind, Attempt.result_lift, result_onFabric]
  cases h : d.fabric.observe with
  | ok g =>
    simp only [Attempt.result_bind, Attempt.result_give, Attempt.result_lift,
      Call.result_logAll, Attempt.result_pure]
  | error e => simp only [Attempt.result_bind, Attempt.result_give]

theorem result_getLayout (d : ClientState) : Attempt.result getLayout d = match d.memory with
    | some l => (.ok l, d)
    | none => match d.fabric.observe with
      | .error cause => (.error cause, d)
      | .ok g => match g.layout with
        | some l => (.ok l, ⟨g, some l⟩)
        | none => (.error .notBootstrapped, { d with fabric := g }) := by
  obtain ⟨f, memory⟩ := d
  rw [getLayout, Attempt.result_bind, Attempt.result_lift, Call.result_read]
  cases memory with
  | some l => rfl
  | none =>
    simp only [Attempt.result_bind, result_observe]
    cases f.observe with
    | error cause => rfl
    | ok g =>
      simp only
      cases g.layout with
      | none => rfl
      | some l => rfl

theorem result_getStatus (d : ClientState) : Attempt.result getStatus d = match d.fabric.observe with
    | .error cause => (.error cause, d)
    | .ok g => match g.report with
      | some r => (.ok r, { d with fabric := g })
      | none => (.error .noReport, { d with fabric := g }) := by
  rw [getStatus, Attempt.result_bind, result_observe]
  cases d.fabric.observe with
  | error cause => rfl
  | ok g =>
    simp only
    cases g.report with
    | none => rfl
    | some r => rfl

theorem result_commit (l : Layout) (d : ClientState) :
    (commit l).result d = ((), { d with fabric := d.fabric.commit l }) := by
  change (Call.bind _ _).result d = _
  rw [Call.result_bind, result_onFabric, Call.result_logAll]

theorem result_bootstrap (l : Layout) (d : ClientState) :
    Attempt.result (bootstrap l) d = match d.fabric.submit l with
      | (.ok true, f) => (.ok (), ⟨f.commit l, none⟩)
      | (.ok false, f) => (.ok (), { d with fabric := f })
      | (.error cause, f) => (.error cause, { d with fabric := f }) := by
  rw [bootstrap, Attempt.result_bind, Attempt.result_lift, result_onFabric]
  rcases d.fabric.submit l with ⟨outcome, f⟩
  cases outcome with
  | error cause => rfl
  | ok accepted =>
    cases accepted with
    | false => rfl
    | true =>
      simp only [Attempt.result_bind, Attempt.result_give, if_true, Attempt.result_lift,
        result_commit, forget, Call.result_modify, Attempt.result_log]

theorem result_withServer (e : Endpoint) (l : Layout) (d : ClientState) :
    Attempt.result (withServer e l) d = (d.fabric.joined e l, d) := by
  rw [withServer, Fabric.joined]
  by_cases member : l.contains e = true
  · rw [if_pos member, if_pos member, Attempt.result_pure]
  · rw [if_neg member, if_neg member, Attempt.result_bind, Attempt.result_lift, Call.result_read]
    by_cases up : d.fabric.isUp e = true
    · simp only [up, if_true, Attempt.result_pure]
    · simp only [up, if_false, Attempt.result_give, Bool.false_eq_true]

/-- A change of the members looks, decides on the layout that it finds, and puts the next one in
place. -/
theorem result_change {e : Endpoint} {next : Layout → Attempt ClientState ManagementError (Option Layout)}
    {pick : Fabric → Layout → Except ManagementError (Option Layout)}
    (picks : ∀ l d, (next l).result d = (pick d.fabric l, d)) (d : ClientState) :
    Attempt.result (change e next) d = match d.fabric.observe with
      | .error cause => (.error cause, d)
      | .ok g => match g.changed e pick with
        | .error cause => (.error cause, { d with fabric := g })
        | .ok none => (.ok (), ⟨g, none⟩)
        | .ok (some m) => (.ok (), ⟨g.commit m, none⟩) := by
  rw [change, Attempt.result_bind, result_observe]
  cases d.fabric.observe with
  | error cause => rfl
  | ok g =>
    simp only [Attempt.result_bind, Attempt.result_give, Fabric.changed]
    cases g.changeable e with
    | error cause => rfl
    | ok l =>
      simp only [picks]
      cases pick g l with
      | error cause => rfl
      | ok next =>
        cases next with
        | none => rfl
        | some m =>
          simp only [Attempt.result_bind, Attempt.result_lift, result_commit, forget,
            Call.result_modify]

/-! ### What a request does -/

/-- The answer to a request, and the state of the client after it. -/
def asked (req : Request) (d : ClientState) : Except ManagementError Answer × ClientState :=
  Attempt.result (req.ask client) d

theorem asked_getLayout (d : ClientState) : d.asked .getLayout = match d.memory with
    | some l => (.ok (.layout l), d)
    | none => match d.fabric.observe with
      | .error cause => (.error cause, d)
      | .ok g => match g.layout with
        | some l => (.ok (.layout l), ⟨g, some l⟩)
        | none => (.error .notBootstrapped, { d with fabric := g }) := by
  change Attempt.result (getLayout >>= fun l => pure (Answer.layout l)) d = _
  rw [Attempt.result_bind, result_getLayout]
  cases d.memory with
  | some l => rfl
  | none =>
    simp only
    cases d.fabric.observe with
    | error cause => rfl
    | ok g =>
      simp only
      cases g.layout with
      | none => rfl
      | some l => rfl

theorem asked_getStatus (d : ClientState) : d.asked .getStatus = match d.fabric.observe with
    | .error cause => (.error cause, d)
    | .ok g => match g.report with
      | some r => (.ok (.status r), { d with fabric := g })
      | none => (.error .noReport, { d with fabric := g }) := by
  change Attempt.result (getStatus >>= fun r => pure (Answer.status r)) d = _
  rw [Attempt.result_bind, result_getStatus]
  cases d.fabric.observe with
  | error cause => rfl
  | ok g =>
    simp only
    cases g.report with
    | none => rfl
    | some r => rfl

theorem asked_invalidate (d : ClientState) :
    d.asked .invalidate = (.ok .done, { d with memory := none }) := rfl

theorem asked_bootstrap (l : Layout) (d : ClientState) :
    d.asked (.bootstrap l) = match d.fabric.submit l with
      | (.ok true, f) => (.ok .done, ⟨f.commit l, none⟩)
      | (.ok false, f) => (.ok .done, { d with fabric := f })
      | (.error cause, f) => (.error cause, { d with fabric := f }) := by
  change Attempt.result (bootstrap l >>= fun _ => pure Answer.done) d = _
  rw [Attempt.result_bind, result_bootstrap]
  rcases d.fabric.submit l with ⟨outcome, f⟩
  cases outcome with
  | error cause => rfl
  | ok accepted => cases accepted <;> rfl

/-- The answer to a request for a change of the members, and the state of the client after it. -/
def changeOutcome (e : Endpoint)
    (pick : Fabric → Layout → Except ManagementError (Option Layout)) (d : ClientState) :
    Except ManagementError Answer × ClientState :=
  match d.fabric.observe with
  | .error cause => (.error cause, d)
  | .ok g => match g.changed e pick with
    | .error cause => (.error cause, { d with fabric := g })
    | .ok none => (.ok .done, ⟨g, none⟩)
    | .ok (some m) => (.ok .done, ⟨g.commit m, none⟩)

/-- Whatever the change of the members, it is asked for in the same way. -/
theorem asked_change {e : Endpoint} {next : Layout → Attempt ClientState ManagementError (Option Layout)}
    {pick : Fabric → Layout → Except ManagementError (Option Layout)}
    (picks : ∀ l d, (next l).result d = (pick d.fabric l, d)) (d : ClientState) :
    Attempt.result (change e next >>= fun _ => pure Answer.done) d = d.changeOutcome e pick := by
  rw [Attempt.result_bind, result_change picks, changeOutcome]
  cases d.fabric.observe with
  | error cause => rfl
  | ok g =>
    simp only
    cases g.changed e pick with
    | error cause => rfl
    | ok next =>
      cases next with
      | none => rfl
      | some m => rfl

theorem asked_add (e : Endpoint) (patience : Patience) (d : ClientState) :
    d.asked (.add e patience) = d.changeOutcome e (Fabric.joined e) :=
  asked_change (result_withServer e) d

theorem asked_remove (e : Endpoint) (patience : Patience) (d : ClientState) :
    d.asked (.remove e patience) = d.changeOutcome e (Fabric.left e) :=
  asked_change (fun _ _ => rfl) d

theorem asked_reset (e : Endpoint) (d : ClientState) :
    d.asked (.reset e) = match d.fabric.resetMember e with
      | (.ok (), f) => (.ok .done, { d with fabric := f })
      | (.error cause, f) => (.error cause, { d with fabric := f }) := by
  change Attempt.result ((client.reset e) >>= fun _ => pure Answer.done) d = _
  rw [Attempt.result_bind, client, Attempt.result_ofCall, result_onFabric]
  rcases d.fabric.resetMember e with ⟨outcome, f⟩
  cases outcome with
  | ok _ => rfl
  | error cause => rfl

end ClientState

/-! ### The fabrics that a request goes through -/

namespace Fabric

/-- The fabrics that a change of the members goes through. -/
def changeStages (e : Endpoint)
    (pick : Fabric → Layout → Except ManagementError (Option Layout)) (f : Fabric) :
    List Fabric :=
  match f.observe with
  | .error _ => []
  | .ok g => match g.changed e pick with
    | .ok (some m) => [g, g.place m, g.commit m]
    | _ => [g]

end Fabric

namespace ClientState

/-- The fabrics that a request goes through, one after the other. -/
def stages (d : ClientState) : Request → List Fabric
  | .getLayout => if d.memory.isSome then [] else [d.fabric.watched]
  | .getStatus => [d.fabric.watched]
  | .invalidate => []
  | .bootstrap l => match d.fabric.submit l with
    | (.ok true, f) => [f, f.place l, f.commit l]
    | (_, f) => [f]
  | .add e _ => d.fabric.changeStages e (Fabric.joined e)
  | .remove e _ => d.fabric.changeStages e (Fabric.left e)
  | .reset e => [(d.fabric.resetMember e).2]

theorem fabric_changeOutcome (e : Endpoint)
    (pick : Fabric → Layout → Except ManagementError (Option Layout)) (d : ClientState) :
    (d.changeOutcome e pick).2.fabric = (d.fabric.changeStages e pick).getLastD d.fabric := by
  rw [changeOutcome, Fabric.changeStages]
  cases d.fabric.observe with
  | error cause => rfl
  | ok g =>
    simp only
    cases g.changed e pick with
    | error cause => rfl
    | ok next => cases next <;> rfl

/-- The last fabric of a request is the one that it leaves. -/
theorem fabric_asked (req : Request) (d : ClientState) :
    (d.asked req).2.fabric = (d.stages req).getLastD d.fabric := by
  cases req with
  | getLayout =>
    rw [asked_getLayout, stages, Fabric.watched]
    cases d.memory with
    | some l => rfl
    | none =>
      cases d.fabric.observe with
      | error cause => rfl
      | ok g =>
        simp only
        cases g.layout <;> rfl
  | getStatus =>
    rw [asked_getStatus, stages, Fabric.watched]
    cases d.fabric.observe with
    | error cause => rfl
    | ok g =>
      simp only
      cases g.report <;> rfl
  | invalidate =>
    rw [asked_invalidate, stages]
    rfl
  | bootstrap l =>
    rw [asked_bootstrap, stages]
    rcases d.fabric.submit l with ⟨outcome, f⟩
    cases outcome with
    | error cause => rfl
    | ok accepted => cases accepted <;> rfl
  | add e patience =>
    rw [asked_add, stages]
    exact fabric_changeOutcome e _ d
  | remove e patience =>
    rw [asked_remove, stages]
    exact fabric_changeOutcome e _ d
  | reset e =>
    rw [asked_reset, stages]
    rcases d.fabric.resetMember e with ⟨outcome, f⟩
    cases outcome <;> rfl

end ClientState

/-! ### What can happen from one fabric of a request to the next -/

theorem keeps_getLastD {α : Type} {R : α → α → Prop} {I : α → Prop} {a : α} {as : List α}
    (chain : (a :: as).IsChain R) (kept : ∀ ⦃x y : α⦄, R x y → I x → I y) (h : I a) :
    I (as.getLastD a) :=
  chain.induction I _ kept (fun _ => h) _ List.getLastD_mem_cons

namespace Fabric
variable {f g : Fabric} {l m : Layout} {e : Endpoint}

/-- What a member is apart from the number of its resets. -/
def ground (f : Fabric) (e : Endpoint) : Option Member :=
  (f.members.get? e).map fun m => { m with resets := 0 }

/-- Two fabrics whose members are alike apart from the number of resets. -/
def SameGround (f g : Fabric) : Prop := ∀ e, g.ground e = f.ground e

/-- The layouts that may take the place of a layout, for which a quorum of its servers has to be
left. -/
inductive Revision (f : Fabric) (l : Layout) : Layout → Prop
  | marked (quorum : hasQuorum l (f.detect l) = true) :
    Revision f l (l.markUnresponsive (f.detect l))
  | joined (e : Endpoint) (new : e ∉ l.servers) (up : f.isUp e = true)
    (quorum : hasQuorum l (f.detect l) = true) : Revision f l (l.addServer e)
  | left (e : Endpoint) (member : e ∈ l.servers) (others : l.servers.length ≠ 1)
    (quorum : hasQuorum l (f.detect l) = true) : Revision f l (l.removeServer e)

/-- What may become of the layout in place: it stays, there is a first one, or a revision takes its
place. -/
inductive Turn (f g : Fabric) : Prop
  | same (h : g.layout = f.layout)
  | first (l : Layout) (bare : f.layout = none) (valid : l.validate = .ok ())
    (placed : g.layout = some l)
  | revised (l m : Layout) (before : f.layout = some l) (revision : f.Revision l m)
    (placed : g.layout = some m)

/-- All that can happen from one fabric of a request to the next. -/
structure Stage (f g : Fabric) : Prop where
  ground : f.SameGround g
  turn : f.Turn g
  lag : g.detectionLag = f.detectionLag
  counting : g.lagRemaining ≤ f.lagRemaining

theorem isUp_eq_ground (f : Fabric) (e : Endpoint) :
    f.isUp e = ((f.ground e).map Member.isUp).getD false := by
  rw [isUp, ground]
  cases f.members.get? e <;> rfl

theorem blockedBy_eq_ground (f : Fabric) (e : Endpoint) :
    f.blockedBy e = ((f.ground e).map Member.blocked).getD .empty := by
  rw [blockedBy, ground]
  cases f.members.get? e <;> rfl

theorem SameGround.of_members (h : g.members = f.members) : f.SameGround g := by
  intro e
  rw [ground, ground, h]

theorem SameGround.refl (f : Fabric) : f.SameGround f := .of_members rfl

theorem SameGround.trans {k : Fabric} (h : f.SameGround g) (h' : g.SameGround k) :
    f.SameGround k :=
  fun e => (h' e).trans (h e)

/-- What the detector finds depends on the ground alone. -/
theorem SameGround.detect_eq (h : f.SameGround g) (l : Layout) : g.detect l = f.detect l := by
  have up : g.isUp = f.isUp := by
    funext e
    rw [isUp_eq_ground, isUp_eq_ground, h e]
  have blocked : g.blockedBy = f.blockedBy := by
    funext e
    rw [blockedBy_eq_ground, blockedBy_eq_ground, h e]
  rw [detect, detect, vantages, vantages, up, blocked]

/-- Whether a reading only counts down: there is a report, and the lag lasts. -/
def Waiting (f : Fabric) : Prop := f.report.isSome = true ∧ 0 < f.lagRemaining

instance (f : Fabric) : Decidable f.Waiting := inferInstanceAs (Decidable (_ ∧ _))

/-- The fabric after a reading that only counts down. -/
def countDown (f : Fabric) : Fabric := { f with lagRemaining := f.lagRemaining - 1 }

theorem observe_of_layout (up : f.managementDown = false) (hl : f.layout = some l) :
    f.observe = .ok (if f.Waiting then f.countDown else f.look l) := by
  have seen : f.observe = if f.Waiting then .ok f.countDown else .ok (f.look l) := by
    rw [observe, if_neg (ne_true_of_eq_false up)]
    split
    · rename_i bare
      rw [hl] at bare
      cases bare
    · rename_i l' hl'
      rw [hl] at hl'
      cases hl'
      rfl
  rw [seen]
  split <;> rfl

theorem observe_eq_ok (h : f.observe = .ok g) : f.managementDown = false ∧ ∃ l,
    f.layout = some l ∧ (f.Waiting ∧ g = f.countDown ∨ ¬ f.Waiting ∧ g = f.look l) := by
  have up : f.managementDown = false := by
    by_contra down
    rw [observe, if_pos (eq_true_of_ne_false down)] at h
    cases h
  cases hl : f.layout with
  | none =>
    rw [observe, if_neg (ne_true_of_eq_false up), hl] at h
    cases h
  | some l =>
    rw [observe_of_layout up hl] at h
    refine ⟨up, l, rfl, ?_⟩
    by_cases waiting : f.Waiting
    · rw [if_pos waiting] at h
      cases h
      exact .inl ⟨waiting, rfl⟩
    · rw [if_neg waiting] at h
      cases h
      exact .inr ⟨waiting, rfl⟩

theorem stage_look (hl : f.layout = some l) : f.Stage (f.look l) := by
  refine ⟨.of_members rfl, ?_, rfl, Nat.le_refl _⟩
  by_cases moves : f.detect l ≠ l.unresponsive ∧ hasQuorum l (f.detect l) = true
  · refine .revised l _ hl (.marked moves.2) ?_
    rw [look, settle, if_pos moves]
  · refine .same ?_
    rw [look, settle, if_neg moves, hl]

theorem stage_of_observe (h : f.observe = .ok g) : f.Stage g := by
  obtain ⟨_, l, hl, ⟨_, rfl⟩ | ⟨_, rfl⟩⟩ := observe_eq_ok h
  · exact ⟨.of_members rfl, .same rfl, rfl, Nat.sub_le _ _⟩
  · exact stage_look hl

theorem stage_watched (f : Fabric) : f.Stage f.watched := by
  rw [watched]
  cases h : f.observe with
  | ok g => exact stage_of_observe h
  | error cause => exact ⟨.of_members rfl, .same rfl, rfl, Nat.le_refl _⟩

theorem changeable_eq_ok (h : f.changeable e = .ok l) :
    f.layout = some l ∧ hasQuorum l (f.detect l) = true := by
  rw [changeable] at h
  split at h
  · cases h
  · rename_i l' hl
    split at h
    · cases h
    · rename_i quorum
      split at h
      · cases h
      · cases h
        refine ⟨hl, ?_⟩
        simpa using quorum

theorem revision_of_joined (quorum : hasQuorum l (f.detect l) = true)
    (h : joined e f l = .ok (some m)) : f.Revision l m := by
  rw [joined] at h
  split at h
  · cases h
  · rename_i new
    split at h
    · rename_i up
      cases h
      refine .joined e ?_ up quorum
      simpa [Layout.contains] using new
    · cases h

theorem revision_of_left (quorum : hasQuorum l (f.detect l) = true)
    (h : left e f l = .ok (some m)) : f.Revision l m := by
  rw [left, ClientState.withoutServer] at h
  split at h
  · cases h
  · rename_i member
    split at h
    · cases h
    · rename_i others
      cases h
      refine .left e ?_ others quorum
      simpa [Layout.contains] using member

/-- A layout that is to be put in place for a change of the members comes from the one in place,
which has a quorum. -/
theorem changed_eq_ok {pick : Fabric → Layout → Except ManagementError (Option Layout)}
    {next : Option Layout} (h : f.changed e pick = .ok next) :
    ∃ l, f.layout = some l ∧ hasQuorum l (f.detect l) = true ∧ pick f l = .ok next := by
  rw [changed] at h
  cases hc : f.changeable e with
  | error cause =>
    rw [hc] at h
    cases h
  | ok l =>
    rw [hc] at h
    obtain ⟨hl, quorum⟩ := changeable_eq_ok hc
    exact ⟨l, hl, quorum, h⟩

/-- A change of the members goes from a layout to a revision of it. -/
theorem isChain_changeStages
    {pick : Fabric → Layout → Except ManagementError (Option Layout)}
    (revises : ∀ {f : Fabric} {l m : Layout}, hasQuorum l (f.detect l) = true →
      pick f l = .ok (some m) → f.Revision l m) (f : Fabric) :
    (f :: f.changeStages e pick).IsChain Stage := by
  rw [changeStages]
  cases hg : f.observe with
  | error cause => exact .singleton f
  | ok g =>
    have seen := stage_of_observe hg
    simp only
    cases hm : g.changed e pick with
    | error cause => exact .cons_cons seen (.singleton g)
    | ok next =>
      cases next with
      | none => exact .cons_cons seen (.singleton g)
      | some m =>
        obtain ⟨l, hl, quorum, picked⟩ := changed_eq_ok hm
        have placed : g.Stage (g.place m) :=
          ⟨.of_members rfl, .revised l m hl (revises quorum picked) rfl, rfl, Nat.le_refl _⟩
        have looked : (g.place m).Stage (g.commit m) := by
          rw [commit_eq]
          exact stage_watched _
        exact .cons_cons seen (.cons_cons placed (.cons_cons looked (.singleton _)))

/-- A layout is taken in only where there is none, and only if it is valid. -/
theorem submit_eq_ok_true (h : f.submit l = (.ok true, g)) :
    f.layout = none ∧ l.validate = .ok () := by
  rw [submit] at h
  simp only at h
  split at h
  · cases h
  · split at h
    · cases h
    · split at h
      · split at h <;> cases h
      · rename_i bare
        split at h
        · rename_i valid
          exact ⟨bare, valid⟩
        · cases h

/-- A layout is passed over only where there is one of the same cluster. -/
theorem submit_eq_ok_false (h : f.submit l = (.ok false, g)) :
    ∃ m ∈ f.layout, m.clusterId = l.clusterId := by
  rw [submit] at h
  simp only at h
  split at h
  · cases h
  · split at h
    · cases h
    · split at h
      · rename_i m present
        split at h
        · rename_i same
          exact ⟨m, present, same⟩
        · cases h
      · split at h <;> cases h

theorem submit_eq (l : Layout) (f : Fabric) : ∃ attempts failures, (f.submit l).2 =
    { f with bootstrapAttempts := attempts, bootstrapFailures := failures } := by
  rw [submit]
  simp only
  split
  · exact ⟨_, _, rfl⟩
  · split
    · exact ⟨_, _, rfl⟩
    · split
      · split <;> exact ⟨_, _, rfl⟩
      · split <;> exact ⟨_, _, rfl⟩

/-- Whether a layout is taken in or not, the members and the layout in place stay. -/
theorem kept_submit (l : Layout) (f : Fabric) :
    (f.submit l).2.members = f.members ∧ (f.submit l).2.layout = f.layout := by
  obtain ⟨attempts, failures, counted⟩ := submit_eq l f
  rw [counted]
  exact ⟨rfl, rfl⟩

theorem stage_submit (l : Layout) (f : Fabric) : f.Stage (f.submit l).2 := by
  obtain ⟨attempts, failures, counted⟩ := submit_eq l f
  rw [counted]
  exact ⟨.of_members rfl, .same rfl, rfl, Nat.le_refl _⟩

theorem stage_resetMember (e : Endpoint) (f : Fabric) : f.Stage (f.resetMember e).2 := by
  rw [resetMember]
  split
  · exact ⟨.of_members rfl, .same rfl, rfl, Nat.le_refl _⟩
  · split
    · refine ⟨fun x => ?_, .same rfl, rfl, Nat.le_refl _⟩
      rw [ground, ground, EndpointTable.get?_update]
      by_cases hx : x = e
      · subst hx
        rw [if_pos rfl, Option.map_map]
        rfl
      · rw [if_neg hx]
    · exact ⟨.of_members rfl, .same rfl, rfl, Nat.le_refl _⟩

end Fabric

/-- From one fabric of a request to the next there is a stage. -/
theorem ClientState.isChain_stages (d : ClientState) (req : Request) :
    (d.fabric :: d.stages req).IsChain Fabric.Stage := by
  cases req with
  | getLayout =>
    rw [stages]
    split
    · exact .singleton _
    · exact .cons_cons (Fabric.stage_watched _) (.singleton _)
  | getStatus => exact .cons_cons (Fabric.stage_watched _) (.singleton _)
  | invalidate => exact .singleton _
  | bootstrap l =>
    rw [stages]
    have taken := Fabric.stage_submit l d.fabric
    rcases h : d.fabric.submit l with ⟨outcome, f⟩
    rw [h] at taken
    cases outcome with
    | error cause => exact .cons_cons taken (.singleton _)
    | ok accepted =>
      cases accepted with
      | false => exact .cons_cons taken (.singleton _)
      | true =>
        obtain ⟨bare, valid⟩ := Fabric.submit_eq_ok_true h
        have bare' : f.layout = none := by
          have kept := (Fabric.kept_submit l d.fabric).2
          rw [h, bare] at kept
          exact kept
        have placed : f.Stage (f.place l) :=
          ⟨.of_members rfl, .first l bare' valid rfl, rfl, Nat.le_refl _⟩
        have looked : (f.place l).Stage (f.commit l) := by
          rw [Fabric.commit_eq]
          exact Fabric.stage_watched _
        exact .cons_cons taken (.cons_cons placed (.cons_cons looked (.singleton _)))
  | add e patience => exact Fabric.isChain_changeStages Fabric.revision_of_joined d.fabric
  | remove e patience => exact Fabric.isChain_changeStages Fabric.revision_of_left d.fabric
  | reset e => exact .cons_cons (Fabric.stage_resetMember e d.fabric) (.singleton _)

end FaultLab.Simulation
