import FaultLab.Proofs.Epochs
import FaultLab.Proofs.Readings

/-! # Lagged detection converges

Wherever a layout is in place there is a report, whatever has happened in the lab
(`Lab.informed_after`): what puts a layout in place takes the report away and looks at once, and no
request gets so far with the management down.  So while the lag lasts a reading only counts down
(`Fabric.watched_iterate_of_le`), the first one after it looks, and what it leaves is a fixed point of
looking (`Fabric.watched_settled`).

* `Lab.readings_converge`: the readings that the lag has left change neither layout nor report; one
  reading more settles the detector's findings, and all further readings change nothing. -/

namespace FaultLab

theorem Layout.toNat_next {n : UInt64} (h : n ≠ lastEpoch) : (n + 1).toNat = n.toNat + 1 := by
  have rises := Layout.lt_next h
  rw [UInt64.lt_iff_toNat_lt] at rises
  rw [UInt64.toNat_add, UInt64.toNat_one] at rises ⊢
  have bound := UInt64.toNat_lt n
  omega

namespace Simulation

namespace Fabric
variable {f g : Fabric} {l : Layout} {n : Nat}

/-! ### A layout in place has a report -/

/-- Where a layout is in place there is a report. -/
def Informed (f : Fabric) : Prop := f.layout.isSome = true → f.report.isSome = true

theorem informed_look (l : Layout) (f : Fabric) : (f.look l).Informed := fun _ => rfl

/-- A reading keeps the report, or makes one. -/
theorem informed_of_observe (seen : f.observe = .ok g) (h : f.Informed) :
    g.managementDown = false ∧ g.Informed := by
  obtain ⟨up, l, -, ⟨-, rfl⟩ | ⟨-, rfl⟩⟩ := observe_eq_ok seen
  · exact ⟨up, h⟩
  · exact ⟨up, informed_look l f⟩

theorem informed_watched (h : f.Informed) : f.watched.Informed := by
  rw [watched]
  cases seen : f.observe with
  | ok g => exact (informed_of_observe seen h).2
  | error cause => exact h

/-- Whoever puts a layout in place looks at once, if the management is up. -/
theorem informed_commit (up : f.managementDown = false) (l : Layout) : (f.commit l).Informed := by
  rw [commit_eq, watched_of_layout (f := f.place l) up rfl]
  rw [if_neg fun waiting => Bool.false_ne_true waiting.1]
  exact informed_look l _

/-- A change of the members gets to putting a layout in place only if the management is up. -/
theorem informed_changeStages {e : Endpoint}
    (pick : Fabric → Layout → Except ManagementError (Option Layout)) (h : f.Informed) :
    ((f.changeStages e pick).getLastD f).Informed := by
  rw [changeStages]
  cases seen : f.observe with
  | error cause => exact h
  | ok g =>
    obtain ⟨up, informed⟩ := informed_of_observe seen h
    simp only
    cases g.changed e pick with
    | error cause => exact informed
    | ok next =>
      cases next with
      | none => exact informed
      | some m => exact informed_commit up m

theorem up_of_submit (taken : f.submit l = (.ok true, g)) : g.managementDown = false := by
  have up : f.managementDown = false := by
    by_contra down
    rw [submit] at taken
    simp only at taken
    rw [if_pos (eq_true_of_ne_false down)] at taken
    cases taken
  obtain ⟨attempts, failures, counted⟩ := submit_eq l f
  rw [taken] at counted
  have counted : g = { f with bootstrapAttempts := attempts, bootstrapFailures := failures } := counted
  rw [counted]
  exact up

theorem informed_submit (h : f.Informed) : (f.submit l).2.Informed := by
  obtain ⟨attempts, failures, counted⟩ := submit_eq l f
  rw [counted]
  exact h

theorem informed_resetMember (e : Endpoint) (h : f.Informed) : (f.resetMember e).2.Informed := by
  rw [resetMember]
  split
  · exact h
  · split <;> exact h

end Fabric

theorem ClientState.informed_asked {d : ClientState} (h : d.fabric.Informed) (req : Request) :
    (d.asked req).2.fabric.Informed := by
  rw [fabric_asked]
  cases req with
  | getLayout =>
    rw [stages]
    split
    · exact h
    · exact Fabric.informed_watched h
  | getStatus => exact Fabric.informed_watched h
  | invalidate => exact h
  | bootstrap l =>
    have counted := Fabric.informed_submit (l := l) h
    rw [stages]
    rcases taken : d.fabric.submit l with ⟨outcome, f⟩
    rw [taken] at counted
    cases outcome with
    | error cause => exact counted
    | ok accepted =>
      cases accepted with
      | false => exact counted
      | true => exact Fabric.informed_commit (Fabric.up_of_submit taken) l
  | add e patience => exact Fabric.informed_changeStages _ h
  | remove e patience => exact Fabric.informed_changeStages _ h
  | reset e => exact Fabric.informed_resetMember e h

namespace Lab
variable {lab : Lab} {d : Deed}

theorem informed_perform (h : lab.fabric.Informed) : (lab.perform d).fabric.Informed := by
  obtain ⟨number, req, rfl⟩ | other := d.request_or_other
  · by_cases there : number < lab.memories.length
    · rw [perform_request there]
      exact ClientState.informed_asked (d := (clientState number).get lab) h req
    · rw [perform, if_neg there]
      exact h
  · rw [Fabric.Informed, (view_perform other).1, report_perform other]
    exact h

/-- Whatever happens in a lab, where a layout is in place there is a report. -/
theorem informed_after (ds : List Deed) : (empty.after ds).fabric.Informed :=
  after_keeps (I := fun lab => lab.fabric.Informed) (fun _ _ _ => informed_perform)
    fun some => absurd some Bool.false_ne_true

end Lab

namespace Fabric
variable {f : Fabric} {l : Layout} {n : Nat}

/-! ### Readings while the lag lasts, and after it -/

/-- As many readings as the lag has left only count down. -/
theorem watched_iterate_of_le (up : f.managementDown = false) (hl : f.layout = some l)
    (reported : f.report.isSome = true) (few : n ≤ f.lagRemaining) :
    watched^[n] f = { f with lagRemaining := f.lagRemaining - n } := by
  induction n with
  | zero => rfl
  | succ n ih =>
    rw [Function.iterate_succ_apply', ih (Nat.le_of_succ_le few)]
    have more : 0 < f.lagRemaining - n := Nat.sub_pos_of_lt few
    rw [watched_of_layout (f := { f with lagRemaining := f.lagRemaining - n }) up hl,
      if_pos ⟨reported, more⟩]
    rfl

/-- The layout that a look leaves, field by field: with a quorum the servers that were found count as
unresponsive, the epoch grows by one if that is a change, and all else stays. -/
theorem settle_eq (detected : EndpointSet) (l : Layout) :
    settle detected l = { l with
      unresponsive := if hasQuorum l detected then detected else l.unresponsive
      epoch := if hasQuorum l detected ∧ detected ≠ l.unresponsive then l.epoch + 1
        else l.epoch } := by
  rw [settle]
  by_cases quorum : hasQuorum l detected = true
  · by_cases differ : detected ≠ l.unresponsive
    · rw [if_pos ⟨differ, quorum⟩, if_pos quorum, if_pos ⟨quorum, differ⟩, Layout.markUnresponsive]
    · have same : detected = l.unresponsive := not_not.mp differ
      rw [if_neg fun both => differ both.1, if_pos quorum, if_neg fun both => differ both.2, same]
  · rw [if_neg fun both => quorum both.2, if_neg quorum, if_neg fun both => quorum both.1]

/-- What the detector's findings are on record as, once a look was made at a layout. -/
structure Recorded (f : Fabric) (l : Layout) (m : Layout) (r : StatusReport) : Prop where
  /-- The report describes what the detector finds. -/
  report : r = f.reportOn l (f.detect l)
  down : ∀ e, r.Down e ↔ e ∈ f.detect l
  /-- The servers that count as unresponsive are those that were found, if a quorum is left. -/
  found : hasQuorum l (f.detect l) = true → m.unresponsive = f.detect l
  kept : hasQuorum l (f.detect l) = false → m.unresponsive = l.unresponsive
  /-- The epoch grows by one if that is a change. -/
  grown : m.unresponsive ≠ l.unresponsive → m.epoch = l.epoch + 1
  still : m.unresponsive = l.unresponsive → m.epoch = l.epoch
  /-- Nothing else of the layout changes. -/
  rest : { m with unresponsive := l.unresponsive, epoch := l.epoch } = l

/-- A look puts the detector's findings on record. -/
theorem recorded_look (f : Fabric) (l : Layout) :
    f.Recorded l (settle (f.detect l) l) (f.reportOn l (f.detect l)) := by
  have layout := settle_eq (f.detect l) l
  refine ⟨rfl, fun e => down_reportOn, fun quorum => ?_, fun none => ?_, fun differ => ?_,
    fun same => ?_, ?_⟩
  · exact unresponsive_settle quorum
  · rw [layout, none]
    rfl
  · rw [layout] at differ ⊢
    by_cases quorum : hasQuorum l (f.detect l) = true
    · simp only [quorum, if_true] at differ
      exact if_pos ⟨quorum, differ⟩
    · exact absurd (if_neg quorum) differ
  · rw [layout] at same ⊢
    by_cases quorum : hasQuorum l (f.detect l) = true
    · simp only [quorum, if_true] at same
      exact if_neg fun both => both.2 same
    · exact if_neg fun both => quorum both.1
  · rw [layout]

end Fabric

namespace Lab
variable {lab : Lab} {l : Layout}

/-- **Lagged detection converges** in any lab with a layout in place and the management up.  As many
readings as the lag has left, by whatever clients, leave layout and report as they were.  One reading
more puts on record what the detector finds among the members as they are: the report describes it, the
servers that were found count as unresponsive if a quorum is left, and the epoch grows by one if that is
a change.  All further readings leave layout and report as they are. -/
theorem readings_converge (ds : List Deed) (hl : (empty.after ds).fabric.layout = some l)
    (up : (empty.after ds).fabric.managementDown = false) :
    let lab := empty.after ds
    ∃ m r, lab.fabric.Recorded l m r ∧
      (l.epoch ≠ lastEpoch → m.unresponsive ≠ l.unresponsive →
        m.epoch.toNat = l.epoch.toNat + 1) ∧
      ∀ peeks : List Peek, (∀ peek ∈ peeks, peek.client < lab.memories.length) →
        (lab.peeked peeks).fabric.members = lab.fabric.members ∧
        (peeks.length ≤ lab.fabric.lagRemaining →
          (lab.peeked peeks).fabric.layout = some l ∧
            (lab.peeked peeks).fabric.report = lab.fabric.report) ∧
        (lab.fabric.lagRemaining < peeks.length →
          (lab.peeked peeks).fabric.layout = some m ∧ (lab.peeked peeks).fabric.report = some r) := by
  intro lab
  have reported : lab.fabric.report.isSome = true := by
    refine informed_after ds ?_
    rw [hl]
    rfl
  have recorded := lab.fabric.recorded_look l
  refine ⟨_, _, recorded, fun calm differ => ?_, fun peeks there => ?_⟩
  · rw [recorded.grown differ]
    exact Layout.toNat_next calm
  · -- A reading of either kind is a look of the fabric at itself, so only their number counts.
    rw [fabric_peeked there]
    by_cases few : peeks.length ≤ lab.fabric.lagRemaining
    · have counted := Fabric.watched_iterate_of_le up hl reported few
      rw [counted]
      exact ⟨rfl, fun _ => ⟨hl, rfl⟩, fun enough => absurd few (Nat.not_le_of_lt enough)⟩
    · have enough := Nat.lt_of_not_le few
      obtain ⟨n, length⟩ := Nat.exists_eq_succ_of_ne_zero (Nat.ne_zero_of_lt enough)
      have counted : lab.fabric.lagRemaining ≤ n := by omega
      have settled := Fabric.watched_iterate up hl counted
      rw [length, settled]
      exact ⟨rfl, fun few' => absurd few' (length ▸ few), fun _ => ⟨rfl, rfl⟩⟩

/-- One of three servers is killed, and two readings pass before the detector looks. -/
def lagging : List Deed :=
  let trio : List Endpoint := [⟨"a:1"⟩, ⟨"b:1"⟩, ⟨"c:1"⟩]
  trio.map .register ++ [.connect, .connect, .request 0 (.bootstrap (.initial trio (.ofNat 7))),
    .set (.detectionLag 2), .attach ⟨⟨"c:1"⟩, .container⟩,
    .command 0 ⟨⟨"c:1"⟩, .container⟩ .kill none]

theorem readings_converge_lagging :
    let lab := empty.after lagging
    let l := Layout.initial [⟨"a:1"⟩, ⟨"b:1"⟩, ⟨"c:1"⟩] (.ofNat 7)
    lab.fabric.layout = some l ∧ lab.fabric.managementDown = false ∧
      (lab.peeked [.status 0, .layout 1]).fabric.layout = some l ∧
      (lab.peeked [.status 0, .layout 1]).fabric.report = lab.fabric.report ∧
      ∃ m r, (lab.peeked [.status 0, .layout 1, .layout 0]).fabric.layout = some m ∧
        (lab.peeked [.status 0, .layout 1, .layout 0]).fabric.report = some r ∧
        m.unresponsive = .ofList [⟨"c:1"⟩] ∧ m.epoch = 1 ∧ r.Down ⟨"c:1"⟩ := by
  intro lab l
  have hl : lab.fabric.layout = some l := by decide +kernel
  have up : lab.fabric.managementDown = false := by decide +kernel
  have lag : lab.fabric.lagRemaining = 2 := by decide +kernel
  have clients : lab.memories.length = 2 := by decide +kernel
  have found : lab.fabric.detect l = .ofList [⟨"c:1"⟩] := by decide +kernel
  have quorum : Fabric.hasQuorum l (lab.fabric.detect l) = true := by decide +kernel
  obtain ⟨m, r, recorded, -, readings⟩ := readings_converge lagging hl up
  obtain ⟨-, early, -⟩ := readings [.status 0, .layout 1] (by rw [clients]; decide)
  obtain ⟨-, -, late⟩ := readings [.status 0, .layout 1, .layout 0] (by rw [clients]; decide)
  have marked := (recorded.found quorum).trans found
  have differ : m.unresponsive ≠ l.unresponsive := by
    rw [marked]
    decide
  obtain ⟨still, same⟩ := early (by rw [lag]; decide)
  obtain ⟨layout, report⟩ := late (by rw [lag]; decide)
  refine ⟨hl, up, still, same, m, r, layout, report, marked, recorded.grown differ, ?_⟩
  rw [recorded.down, found]
  decide

end Lab

end Simulation

end FaultLab
