import FaultLab.Proofs.Detection
import FaultLab.Proofs.Sessions

/-! # Layouts move with a quorum only

A lab is `Deployed` once a first layout of distinct servers was put in place by a client.  From then
on a layout is in place and its servers are distinct, whatever happens (`Lab.Deployed.placed`).

* If a request leaves another layout in place, the detector left a quorum of the servers of the
  layout before (`Fabric.layout_getLastD`), and these are up and connected.
* Without a quorum nothing that the management is asked moves the layout, because no request changes
  the ground on which the detector stands (`Lab.frozen_after`), and changes of the members are
  refused (`ClientState.asked_change_refused`). -/

namespace FaultLab.Simulation

/-! ### Quorums along a request -/

namespace Fabric
variable {f g : Fabric} {l m : Layout} {fs : List Fabric} {e : Endpoint} {cause : ManagementError}

/-- A layout whose servers are distinct is in place. -/
def Placed (f : Fabric) : Prop := ∃ l ∈ f.layout, l.servers.Nodup

theorem Revision.quorum (h : f.Revision l m) : hasQuorum l (f.detect l) = true := by
  cases h <;> assumption

theorem Revision.nodup (h : f.Revision l m) (distinct : l.servers.Nodup) : m.servers.Nodup := by
  cases h with
  | marked => exact distinct
  | joined e new =>
    rw [Layout.addServer, List.nodup_append]
    refine ⟨distinct, List.nodup_singleton e, fun a ha b hb => ?_⟩
    rw [List.mem_singleton.mp hb]
    intro same
    exact new (same ▸ ha)
  | left e => exact distinct.sublist List.filter_sublist

theorem Turn.placed (turn : f.Turn g) (h : f.Placed) : g.Placed := by
  obtain ⟨l, hl, distinct⟩ := h
  cases turn with
  | same h => exact ⟨l, h ▸ hl, distinct⟩
  | first m bare =>
    rw [bare] at hl
    cases hl
  | revised l' m before revision placed =>
    rw [before] at hl
    cases hl
    exact ⟨m, placed, revision.nodup distinct⟩

/-- Without a quorum a stage leaves the layout in place as it is. -/
theorem Stage.layout_eq (stage : f.Stage g) (hl : f.layout = some l)
    (few : hasQuorum l (f.detect l) ≠ true) : g.layout = some l := by
  cases stage.turn with
  | same h => exact h.trans hl
  | first m bare =>
    rw [bare] at hl
    cases hl
  | revised l' m before revision =>
    rw [before] at hl
    cases hl
    exact absurd revision.quorum few

theorem layout_getLastD (chain : (f :: fs).IsChain Stage) (hl : f.layout = some l)
    (few : hasQuorum l (f.detect l) ≠ true) : (fs.getLastD f).layout = some l := by
  have kept : ∀ ⦃g k : Fabric⦄, g.Stage k → f.SameGround g ∧ g.layout = some l →
      f.SameGround k ∧ k.layout = some l := by
    rintro g k stage ⟨same, placed⟩
    have still : hasQuorum l (g.detect l) ≠ true := by
      rw [same.detect_eq]
      exact few
    exact ⟨same.trans stage.ground, stage.layout_eq placed still⟩
  exact (keeps_getLastD chain kept ⟨.refl f, hl⟩).2

theorem observe_eq_error (h : f.observe = .error cause) :
    cause = .gatewayDown ∨ f.layout = none := by
  rw [observe] at h
  split at h
  · cases h
    exact .inl rfl
  · split at h
    · rename_i bare
      exact .inr bare
    · split at h <;> cases h

theorem changed_eq_noQuorum {pick : Fabric → Layout → Except ManagementError (Option Layout)}
    (hl : f.layout = some l) (few : hasQuorum l (f.detect l) ≠ true) :
    f.changed e pick = .error .noQuorum := by
  have refused : f.changeable e = .error .noQuorum := by
    rw [changeable, hl]
    simp only [eq_false_of_ne_true few]
    rfl
  rw [changed, refused]

end Fabric

/-- Without a quorum a client refuses to change the members. -/
theorem ClientState.asked_change_refused {d : ClientState} {l : Layout} {e : Endpoint}
    (hl : d.fabric.layout = some l) (few : Fabric.hasQuorum l (d.fabric.detect l) ≠ true)
    (patience : Patience) : ∃ cause, (cause = .gatewayDown ∨ cause = .noQuorum) ∧
      (d.asked (.add e patience)).1 = .error cause ∧
      (d.asked (.remove e patience)).1 = .error cause := by
  rw [asked_add, asked_remove, changeOutcome, changeOutcome]
  cases hg : d.fabric.observe with
  | error cause =>
    refine ⟨cause, ?_, rfl, rfl⟩
    cases Fabric.observe_eq_error hg with
    | inl down => exact .inl down
    | inr bare =>
      rw [bare] at hl
      cases hl
  | ok g =>
    have stage := Fabric.stage_of_observe hg
    have placed := stage.layout_eq hl few
    rw [← stage.ground.detect_eq] at few
    refine ⟨.noQuorum, .inr rfl, ?_, ?_⟩
    · simp only [Fabric.changed_eq_noQuorum placed few]
    · simp only [Fabric.changed_eq_noQuorum placed few]

/-! ### Deployed labs -/

/-- What can happen while the members are left to themselves: clients are made and asked, and
settings are made. -/
def Deed.Managing : Deed → Prop
  | .connect | .request _ _ | .set _ => True
  | _ => False

namespace Lab
variable {lab : Lab} {d : Deed} {l : Layout}

/-- The labs in which a client has put a first layout of distinct servers in place, and anything has
happened since. -/
inductive Deployed : Lab → Prop
  | bootstrap {lab : Lab} {nodes : List Endpoint} {id : Uuid} {number : Nat}
    (bare : lab.fabric.layout = none) (nonempty : nodes ≠ []) (distinct : nodes.Nodup)
    (taken :
      (lab.perform (.request number (.bootstrap (.initial nodes id)))).fabric.layout ≠ none) :
    Deployed (lab.perform (.request number (.bootstrap (.initial nodes id))))
  | perform {lab : Lab} (d : Deed) (deployed : Deployed lab) : Deployed (lab.perform d)

theorem Deployed.after (h : Deployed lab) (ds : List Deed) : Deployed (lab.after ds) :=
  after_keeps (fun d _ _ h => h.perform d) h

theorem placed_perform (h : lab.fabric.Placed) : (lab.perform d).fabric.Placed := by
  rw [fabric_perform]
  exact keeps_getLastD (isChain_stages lab d) (fun _ _ turn h => turn.placed h) h

/-- Where there was no layout in place and there is one after a submission, it was put in place. -/
theorem fabric_bootstrap {number : Nat} (bare : lab.fabric.layout = none)
    (taken : (lab.perform (.request number (.bootstrap l))).fabric.layout ≠ none) :
    ∃ f, (lab.perform (.request number (.bootstrap l))).fabric = Fabric.commit l f := by
  rw [fabric_perform, stages] at taken ⊢
  split at taken
  · rw [if_pos ‹_›]
    rw [ClientState.stages] at taken ⊢
    have kept := Fabric.kept_submit l ((clientState number).get lab).fabric
    rcases h : ((clientState number).get lab).fabric.submit l with ⟨outcome, f⟩
    rw [h] at taken kept
    have still : f.layout = none := kept.2.trans bare
    cases outcome with
    | error cause => exact absurd still taken
    | ok accepted =>
      cases accepted with
      | false => exact absurd still taken
      | true => exact ⟨f, rfl⟩
  · exact absurd bare taken

theorem placed_bootstrap {number : Nat} (bare : lab.fabric.layout = none)
    (distinct : l.servers.Nodup)
    (taken : (lab.perform (.request number (.bootstrap l))).fabric.layout ≠ none) :
    (lab.perform (.request number (.bootstrap l))).fabric.Placed := by
  obtain ⟨f, committed⟩ := fabric_bootstrap bare taken
  have here : (f.place l).Placed := ⟨l, rfl, distinct⟩
  rw [committed, Fabric.commit_eq]
  exact (Fabric.stage_watched (f.place l)).turn.placed here

theorem Deployed.placed (h : Deployed lab) : lab.fabric.Placed := by
  induction h with
  | bootstrap bare nonempty distinct taken => exact placed_bootstrap bare distinct taken
  | perform d deployed ih => exact placed_perform ih

/-! ### Labs without a quorum -/

/-- Without a quorum nothing that the management is asked moves the layout or the ground. -/
theorem frozen_perform (hl : lab.fabric.layout = some l)
    (few : Fabric.hasQuorum l (lab.fabric.detect l) ≠ true) (managing : d.Managing) :
    (lab.perform d).fabric.layout = some l ∧ lab.fabric.SameGround (lab.perform d).fabric := by
  cases d with
  | request number req =>
    refine ⟨?_, sameGround_request lab number req⟩
    rw [fabric_perform]
    exact Fabric.layout_getLastD (isChain_stages_request lab number req) hl few
  | connect => exact ⟨hl, .refl _⟩
  | set s =>
    obtain ⟨layout, members⟩ := kept_apply s lab.fabric
    exact ⟨layout.trans hl, .of_members members⟩
  | _ => exact managing.elim

theorem frozen_after (hl : lab.fabric.layout = some l)
    (few : Fabric.hasQuorum l (lab.fabric.detect l) ≠ true) {ds : List Deed}
    (managing : ∀ d ∈ ds, d.Managing) :
    (lab.after ds).fabric.layout = some l ∧
      Fabric.hasQuorum l ((lab.after ds).fabric.detect l) ≠ true := by
  refine after_keeps (I := fun after => after.fabric.layout = some l ∧
    Fabric.hasQuorum l (after.fabric.detect l) ≠ true) ?_ ⟨hl, few⟩
  rintro d hd after ⟨placed, few⟩
  obtain ⟨kept, ground⟩ := frozen_perform placed few (managing d hd)
  refine ⟨kept, ?_⟩
  rw [ground.detect_eq]
  exact few

/-- **A layout moves only with a quorum**, in every deployed lab.  A request that leaves another
layout in place finds a quorum of servers that are up and do not block each other; and while the
detector does not leave a quorum, the management keeps the layout as it is and refuses every change
of the members, however often it is asked and whatever is set. -/
theorem Deployed.layout_moves_with_quorum (h : Deployed lab) :
    ∃ l, lab.fabric.layout = some l ∧
      (∀ number req, (lab.perform (.request number req)).fabric.layout ≠ some l →
        ∃ es, l.servers.length / 2 + 1 ≤ es.length ∧ (∀ e ∈ es, e ∈ l.servers) ∧
          lab.fabric.Connected es) ∧
      ((l.servers.filter fun e => !(lab.fabric.detect l).contains e).length <
          l.servers.length / 2 + 1 →
        ∀ ds, (∀ d ∈ ds, Deed.Managing d) → (lab.after ds).fabric.layout = some l ∧
          ∀ number < (lab.after ds).memories.length, ∀ e patience,
            ∃ cause, (cause = .gatewayDown ∨ cause = .noQuorum) ∧
              ((lab.after ds).asked number (.add e patience)).1 = .error cause ∧
              ((lab.after ds).asked number (.remove e patience)).1 = .error cause) := by
  obtain ⟨l, hl, distinct⟩ := h.placed
  have enough := Fabric.hasQuorum_detect_iff (f := lab.fabric) distinct
  refine ⟨l, hl, fun number req moved => ?_, fun few ds managing => ?_⟩
  · have quorum : Fabric.hasQuorum l (lab.fabric.detect l) = true := by
      by_contra few
      have managing : Deed.Managing (.request number req) := trivial
      exact moved (frozen_perform hl few managing).1
    refine ⟨lab.fabric.remaining l, enough.mp quorum, fun e he => ?_, ?_⟩
    · exact (Fabric.mem_remaining.mp he).1
    · exact Fabric.connected_remaining distinct
  · have none : Fabric.hasQuorum l (lab.fabric.detect l) ≠ true := by
      intro quorum
      have left := enough.mp quorum
      rw [Fabric.remaining, Layout.quorum] at left
      omega
    obtain ⟨placed, still⟩ := frozen_after hl none managing
    refine ⟨placed, fun number there e patience => ?_⟩
    rw [asked_eq there, asked_eq there]
    exact ClientState.asked_change_refused (d := (clientState number).get (lab.after ds)) placed still patience

/-- Two of three servers are killed after the first layout was put in place. -/
def crippled : Lab :=
  ((empty.after [.register ⟨"a:1"⟩, .register ⟨"b:1"⟩, .register ⟨"c:1"⟩, .connect]).perform
    (.request 0 (.bootstrap (.initial [⟨"a:1"⟩, ⟨"b:1"⟩, ⟨"c:1"⟩] (.ofNat 7))))).after
      [.attach ⟨⟨"b:1"⟩, .container⟩, .attach ⟨⟨"c:1"⟩, .machine⟩,
        .command 0 ⟨⟨"b:1"⟩, .container⟩ .kill none, .command 1 ⟨⟨"c:1"⟩, .machine⟩ .powerOff none]

theorem layout_moves_with_quorum_crippled :
    Deployed crippled ∧ ∃ l, crippled.fabric.layout = some l ∧ l.epoch = 0 ∧
      ∀ ds, (∀ d ∈ ds, Deed.Managing d) → (crippled.after ds).fabric.layout = some l := by
  have deployed : Deployed crippled := by
    refine Deployed.after (.bootstrap ?_ ?_ ?_ ?_) _
    · rfl
    · decide
    · decide
    · decide +kernel
  have placed : crippled.fabric.layout =
      some (.initial [⟨"a:1"⟩, ⟨"b:1"⟩, ⟨"c:1"⟩] (.ofNat 7)) := by decide +kernel
  have few : ((Layout.initial [⟨"a:1"⟩, ⟨"b:1"⟩, ⟨"c:1"⟩] (.ofNat 7)).servers.filter fun e =>
      !(crippled.fabric.detect (.initial [⟨"a:1"⟩, ⟨"b:1"⟩, ⟨"c:1"⟩] (.ofNat 7))).contains
        e).length < 3 / 2 + 1 := by decide +kernel
  obtain ⟨l, hl, -, frozen⟩ := deployed.layout_moves_with_quorum
  rw [placed] at hl
  cases hl
  exact ⟨deployed, _, placed, rfl, fun ds managing => (frozen few ds managing).1⟩

end Lab

end FaultLab.Simulation
