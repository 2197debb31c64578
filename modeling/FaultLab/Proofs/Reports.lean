import FaultLab.Proofs.Quorums

/-! # Reports agree with the layout in place

A report outlives the look that it was made in: while the lag lasts, readings answer with the report
that is there.  It still belongs to the layout in place, because whoever puts another layout in
place takes the report away first.

* `StatusReport.Fits` says what a report has to be as a report on a layout, and
  `Fabric.fits_reportOn` that the detector makes such reports.
* `Fabric.Reported` ties the report in a fabric to the layout in place; no request breaks the tie
  (`ClientState.reported_asked`), and nothing else touches either (`Lab.report_perform`).
* `Lab.Deployed.report_fits_layout` is the invariant of deployed labs.
* `Lab.Deployed.snapshot_aligned_or_torn` draws the conclusion for snapshots.  A snapshot takes two
  readings, and when the lag runs out between the two (`Fabric.layout_of_readings`), its layout is
  the one before the look and its report the one after. -/

namespace FaultLab

namespace StatusReport
variable {r : StatusReport} {l m : Layout}

/-- Whether a report sees a member down. -/
def Down (r : StatusReport) (e : Endpoint) : Prop := r.health.get? e = some .down

instance (r : StatusReport) (e : Endpoint) : Decidable (r.Down e) :=
  inferInstanceAs (Decidable (_ = _))

/-- The servers of a layout that a report does not see down. -/
def standing (r : StatusReport) (l : Layout) : List Endpoint :=
  l.servers.filter fun e => ¬ r.Down e

/-- What a report says about the servers of a layout, whoever of them the layout counts as
unresponsive. -/
structure Covers (r : StatusReport) (l : Layout) : Prop where
  connectivity : ∀ e, e ∈ r.connectivity.keys ↔ e ∈ l.servers
  health : ∀ e, e ∈ r.health.keys ↔ e ∈ l.servers
  stable : r.overall = .stable ↔ ∀ e ∈ l.servers, ¬ r.Down e
  unavailable : r.overall = .unavailable ↔ r.reliability = .weakNoQuorum
  weak : r.reliability = .weakNoQuorum ↔ (r.standing l).length < l.servers.length / 2 + 1
  strong : r.reliability = .strongQuorum ↔ l.servers.length / 2 + 1 ≤ (r.standing l).length
  unreachable : ∀ e, r.connectivity.get? e = some .unresponsive → r.Down e

/-- What a report has to be as a report on a layout: with a quorum, the layout counts exactly those
servers as unresponsive that the report sees down. -/
structure Fits (r : StatusReport) (l : Layout) : Prop extends Covers r l where
  settled : r.reliability = .strongQuorum → ∀ e, e ∈ l.unresponsive ↔ r.Down e

/-- Only the servers of the layout matter to what is said about them. -/
theorem Covers.of_servers (h : r.Covers l) (same : m.servers = l.servers) : r.Covers m := by
  obtain ⟨connectivity, health, stable, unavailable, weak, strong, unreachable⟩ := h
  refine ⟨?_, ?_, ?_, unavailable, ?_, ?_, unreachable⟩
  · rwa [same]
  · rwa [same]
  · rwa [same]
  · rwa [standing, same]
  · rwa [standing, same]

end StatusReport

namespace Simulation

/-! ### The report of a look -/

namespace Fabric
variable {f g k : Fabric} {l m : Layout} {e : Endpoint} {r : StatusReport}

theorem down_reportOn : (f.reportOn l (f.detect l)).Down e ↔ e ∈ f.detect l := by
  have health : (f.reportOn l (f.detect l)).health.get? e =
      if e ∈ l.servers then some (if (f.detect l).contains e then .down else .up) else none :=
    EndpointTable.get?_ofList_map
  rw [StatusReport.Down, health]
  by_cases server : e ∈ l.servers
  · by_cases found : e ∈ f.detect l
    · simp [server, found]
    · simp [server, found]
  · have missed : e ∉ f.detect l := fun found => server (mem_servers_of_mem_detect found)
    simp [server, missed]

/-- The servers that the report of a look does not see down are those that the detector leaves. -/
theorem standing_reportOn : (f.reportOn l (f.detect l)).standing l = f.remaining l := by
  rw [StatusReport.standing, remaining]
  refine List.filter_congr fun e _ => ?_
  by_cases found : e ∈ f.detect l
  · simp [down_reportOn, EndpointSet.contains, found]
  · simp [down_reportOn, EndpointSet.contains, found]

theorem hasQuorum_of_isEmpty {detected : EndpointSet} (servers : l.servers ≠ [])
    (nothing : detected.isEmpty = true) : hasQuorum l detected = true := by
  have some := List.length_pos_of_ne_nil servers
  have none : detected.size = 0 := by
    rw [EndpointSet.isEmpty_iff] at nothing
    rw [nothing]
    rfl
  rw [hasQuorum, Layout.quorum, none, decide_eq_true_eq]
  omega

theorem covers_reportOn (distinct : l.servers.Nodup) (servers : l.servers ≠ []) :
    (f.reportOn l (f.detect l)).Covers l := by
  have quorum := hasQuorum_detect_iff (f := f) distinct
  rw [Layout.quorum] at quorum
  have reliability : (f.reportOn l (f.detect l)).reliability =
      if hasQuorum l (f.detect l) then .strongQuorum else .weakNoQuorum := rfl
  have overall : (f.reportOn l (f.detect l)).overall =
      if (f.detect l).isEmpty then .stable
      else if hasQuorum l (f.detect l) then .degraded else .unavailable := rfl
  refine ⟨fun e => EndpointTable.mem_keys_ofList_map, fun e => EndpointTable.mem_keys_ofList_map,
    ?_, ?_, ?_, ?_, ?_⟩
  · have found : (f.detect l).isEmpty = true ↔ ∀ e ∈ l.servers, e ∉ f.detect l := by
      rw [EndpointSet.isEmpty_iff]
      refine ⟨fun none e _ => none ▸ EndpointSet.not_mem_empty e, fun none => ?_⟩
      refine EndpointSet.ext fun e => iff_of_false (fun he => ?_) (EndpointSet.not_mem_empty e)
      exact none e (mem_servers_of_mem_detect he) he
    simp only [down_reportOn]
    rw [← found, overall]
    by_cases nothing : (f.detect l).isEmpty = true
    · simp [nothing]
    · by_cases enough : hasQuorum l (f.detect l) = true
      · simp [nothing, enough]
      · simp [nothing, enough]
  · rw [overall, reliability]
    by_cases nothing : (f.detect l).isEmpty = true
    · simp [nothing, hasQuorum_of_isEmpty servers nothing]
    · by_cases enough : hasQuorum l (f.detect l) = true
      · simp [nothing, enough]
      · simp [nothing, enough]
  · rw [reliability, standing_reportOn, ← Nat.not_le, ← quorum]
    by_cases enough : hasQuorum l (f.detect l) = true
    · simp [enough]
    · simp [enough]
  · rw [reliability, standing_reportOn, ← quorum]
    by_cases enough : hasQuorum l (f.detect l) = true
    · simp [enough]
    · simp [enough]
  · intro e cutOff
    have connectivity : (f.reportOn l (f.detect l)).connectivity.get? e =
        if e ∈ l.servers then some (if f.isUp e then .responsive else .unresponsive) else none :=
      EndpointTable.get?_ofList_map
    rw [connectivity] at cutOff
    rw [down_reportOn]
    by_cases server : e ∈ l.servers
    · by_contra missed
      have up := isUp_of_not_mem_detect server missed
      simp [server, up] at cutOff
    · simp [server] at cutOff

theorem servers_settle (detected : EndpointSet) (l : Layout) :
    (settle detected l).servers = l.servers := by
  rw [settle]
  split <;> rfl

/-- With a quorum, what was found is what the layout counts as unresponsive. -/
theorem unresponsive_settle {detected : EndpointSet} (quorum : hasQuorum l detected = true) :
    (settle detected l).unresponsive = detected := by
  rw [settle]
  split
  · rfl
  · rename_i still
    rw [not_and] at still
    by_contra differ
    exact still (fun same => differ same.symm) quorum

theorem fits_reportOn (distinct : l.servers.Nodup) (servers : l.servers ≠ []) :
    (f.reportOn l (f.detect l)).Fits (settle (f.detect l) l) := by
  have covers := covers_reportOn (f := f) distinct servers
  refine ⟨covers.of_servers (servers_settle _ _), fun strong e => ?_⟩
  have quorum : hasQuorum l (f.detect l) = true := by
    rw [hasQuorum_detect_iff distinct, Layout.quorum, ← standing_reportOn]
    exact covers.strong.mp strong
  rw [unresponsive_settle quorum, down_reportOn]

/-! ### The report in a fabric -/

/-- A layout with servers, no two of them alike, is in place. -/
def Founded (f : Fabric) : Prop := ∃ l ∈ f.layout, l.servers.Nodup ∧ l.servers ≠ []

/-- A report that is there fits the layout in place. -/
def Reported (f : Fabric) : Prop := ∀ r ∈ f.report, ∃ l ∈ f.layout, r.Fits l

theorem Revision.servers (h : f.Revision l m) (distinct : l.servers.Nodup)
    (servers : l.servers ≠ []) : m.servers ≠ [] := by
  cases h with
  | marked => exact servers
  | joined e => exact List.append_ne_nil_of_right_ne_nil _ (List.cons_ne_nil e [])
  | left e member others =>
    intro none
    have alone : ∀ x ∈ l.servers, x = e := by
      intro x hx
      have gone := List.filter_eq_nil_iff.mp none x hx
      simpa using gone
    have repeated := List.eq_replicate_of_mem alone
    rw [repeated, List.nodup_replicate] at distinct
    have some := List.length_pos_of_mem member
    omega

theorem Turn.founded (turn : f.Turn g) (h : f.Founded) : g.Founded := by
  obtain ⟨l, hl, distinct, servers⟩ := h
  cases turn with
  | same h => exact ⟨l, h ▸ hl, distinct, servers⟩
  | first m bare =>
    rw [bare] at hl
    cases hl
  | revised l' m before revision placed =>
    rw [before] at hl
    cases hl
    exact ⟨m, placed, revision.nodup distinct, revision.servers distinct servers⟩

theorem reported_look (distinct : l.servers.Nodup) (servers : l.servers ≠ []) :
    (f.look l).Reported := by
  intro r hr
  cases hr
  exact ⟨_, rfl, fits_reportOn distinct servers⟩

/-- A reading leaves the report as it is, or makes it anew. -/
theorem reported_of_observe (seen : f.observe = .ok g) (founded : f.Founded) (h : f.Reported) :
    g.Founded ∧ g.Reported := by
  refine ⟨(stage_of_observe seen).turn.founded founded, ?_⟩
  obtain ⟨_, l, hl, ⟨_, rfl⟩ | ⟨_, rfl⟩⟩ := observe_eq_ok seen
  · exact h
  · obtain ⟨l', hl', distinct, servers⟩ := founded
    rw [hl] at hl'
    cases hl'
    exact reported_look distinct servers

theorem reported_watched (founded : f.Founded) (h : f.Reported) :
    f.watched.Founded ∧ f.watched.Reported := by
  rw [watched]
  cases hg : f.observe with
  | error cause => exact ⟨founded, h⟩
  | ok g => exact reported_of_observe hg founded h

/-- Where a layout is put in place, the report on the one before it is gone. -/
theorem reported_commit (distinct : l.servers.Nodup) (servers : l.servers ≠ []) :
    (f.commit l).Founded ∧ (f.commit l).Reported := by
  rw [commit_eq]
  refine reported_watched ⟨l, rfl, distinct, servers⟩ ?_
  intro r hr
  cases hr

theorem reported_changeStages
    {pick : Fabric → Layout → Except ManagementError (Option Layout)}
    (revises : ∀ {f : Fabric} {l m : Layout}, hasQuorum l (f.detect l) = true →
      pick f l = .ok (some m) → f.Revision l m)
    (founded : f.Founded) (h : f.Reported) : ((f.changeStages e pick).getLastD f).Reported := by
  rw [changeStages]
  cases hg : f.observe with
  | error cause => exact h
  | ok g =>
    obtain ⟨still, seen⟩ := reported_of_observe hg founded h
    simp only
    cases hm : g.changed e pick with
    | error cause => exact seen
    | ok next =>
      cases next with
      | none => exact seen
      | some m =>
        obtain ⟨l, hl, quorum, picked⟩ := changed_eq_ok hm
        have revision := revises quorum picked
        obtain ⟨l', hl', distinct, servers⟩ := still
        rw [hl] at hl'
        cases hl'
        exact (reported_commit (revision.nodup distinct) (revision.servers distinct servers)).2

end Fabric

/-- No request parts the report from the layout in place. -/
theorem ClientState.reported_asked {d : ClientState} (founded : d.fabric.Founded) (h : d.fabric.Reported)
    (req : Request) : (d.asked req).2.fabric.Reported := by
  rw [fabric_asked]
  cases req with
  | getLayout =>
    rw [stages]
    split
    · exact h
    · exact (Fabric.reported_watched founded h).2
  | getStatus => exact (Fabric.reported_watched founded h).2
  | invalidate => exact h
  | bootstrap l =>
    have counted : (d.fabric.submit l).2.Reported := by
      obtain ⟨attempts, failures, same⟩ := Fabric.submit_eq l d.fabric
      rw [same]
      exact h
    rw [stages]
    rcases hs : d.fabric.submit l with ⟨outcome, f⟩
    rw [hs] at counted
    cases outcome with
    | error cause => exact counted
    | ok accepted =>
      cases accepted with
      | false => exact counted
      | true =>
        obtain ⟨l', hl', _⟩ := founded
        rw [(Fabric.submit_eq_ok_true hs).1] at hl'
        cases hl'
  | add e patience => exact Fabric.reported_changeStages Fabric.revision_of_joined founded h
  | remove e patience => exact Fabric.reported_changeStages Fabric.revision_of_left founded h
  | reset e =>
    change (d.fabric.resetMember e).2.Reported
    rw [Fabric.resetMember]
    split
    · exact h
    · split <;> exact h

/-! ### The report in a deployed lab -/

theorem Setting.report_apply (s : Setting) (f : Fabric) : (s.apply f).report = f.report := by
  cases s with
  | failOnce e op =>
    rw [apply, Fabric.failOnce]
    split <;> rfl
  | _ => rfl

namespace Lab
variable {lab : Lab} {d : Deed}

theorem report_perform (other : ∀ number req, d ≠ .request number req) :
    (lab.perform d).fabric.report = lab.fabric.report := by
  cases d with
  | provision flavor index fixture =>
    rw [perform, result_provision]
    split <;> rfl
  | command number h cmd deadline =>
    refine command_keeps (I := fun after => after.fabric.report = lab.fabric.report) ?_ rfl cmd
      deadline
    intro lab' t _ move same
    exact move.alikeBeyond.report.trans same
  | request number req => exact absurd rfl (other number req)
  | set s => exact s.report_apply lab.fabric
  | _ => rfl

theorem founded_perform (h : lab.fabric.Founded) : (lab.perform d).fabric.Founded := by
  rw [fabric_perform]
  exact keeps_getLastD (isChain_stages lab d) (fun _ _ turn h => turn.founded h) h

theorem reported_perform (founded : lab.fabric.Founded) (h : lab.fabric.Reported) :
    (lab.perform d).fabric.Reported := by
  obtain ⟨number, req, rfl⟩ | other := d.request_or_other
  · by_cases there : number < lab.memories.length
    · rw [perform_request there]
      exact ClientState.reported_asked (d := (clientState number).get lab) founded h req
    · rw [perform, if_neg there]
      exact h
  · intro r hr
    rw [report_perform other] at hr
    rw [(view_perform other).1]
    exact h r hr

/-- In a deployed lab a layout with servers is in place, and a report fits it. -/
theorem Deployed.reported (h : Deployed lab) : lab.fabric.Founded ∧ lab.fabric.Reported := by
  induction h with
  | bootstrap bare nonempty distinct taken =>
    obtain ⟨f, committed⟩ := fabric_bootstrap bare taken
    rw [committed]
    exact Fabric.reported_commit distinct nonempty
  | perform d deployed ih => exact ⟨founded_perform ih.1, reported_perform ih.1 ih.2⟩

/-- **Report and layout agree in every deployed lab**: whatever happens to it, a report that is
there fits the layout in place. -/
theorem Deployed.report_fits_layout (h : Deployed lab) :
    ∀ r ∈ lab.fabric.report, ∃ l, lab.fabric.layout = some l ∧ r.Fits l :=
  h.reported.2

/-- The servers of `ailing`. -/
def crew : List Endpoint := [⟨"a:1"⟩, ⟨"b:1"⟩, ⟨"c:1"⟩, ⟨"d:1"⟩, ⟨"e:1"⟩]

/-- One of five servers is killed and the cluster looks; then another one is killed, and for one
more reading the report is the one before. -/
def ailing : Lab :=
  ((empty.after (.connect :: crew.map .register)).perform
    (.request 0 (.bootstrap (.initial crew (.ofNat 7))))).after
      [.attach ⟨⟨"d:1"⟩, .container⟩, .attach ⟨⟨"e:1"⟩, .container⟩,
        .command 1 ⟨⟨"e:1"⟩, .container⟩ .kill none, .request 0 .getStatus,
        .set (.detectionLag 1), .command 0 ⟨⟨"d:1"⟩, .container⟩ .kill none]

theorem deployed_ailing : Deployed ailing := by
  refine Deployed.after (.bootstrap ?_ ?_ ?_ ?_) _
  · rfl
  · decide
  · decide
  · decide +kernel

theorem report_fits_layout_ailing :
    Deployed ailing ∧ ∃ r l, ailing.fabric.report = some r ∧ ailing.fabric.layout = some l ∧
      r.overall = .degraded ∧ l.unresponsive = .ofList [⟨"e:1"⟩] ∧ r.Fits l := by
  have found : ∃ r, ailing.fabric.report = some r ∧ r.overall = .degraded := by decide +kernel
  have marked : ∃ l, ailing.fabric.layout = some l ∧ l.unresponsive = .ofList [⟨"e:1"⟩] := by
    decide +kernel
  obtain ⟨r, hr, degraded⟩ := found
  obtain ⟨l, hl, unresponsive⟩ := marked
  obtain ⟨l', hl', fits⟩ := deployed_ailing.report_fits_layout r hr
  rw [hl] at hl'
  cases hl'
  exact ⟨deployed_ailing, r, l, hr, hl, degraded, unresponsive, fits⟩

/-! ### Snapshots -/

end Lab

end Simulation

/-- Whether the layout of a snapshot counts those as unresponsive that its report sees down. -/
structure Snapshot.Aligned (s : Snapshot) : Prop where
  settled : s.status.reliability = .strongQuorum →
    ∀ e, e ∈ s.layout.unresponsive ↔ s.status.Down e
  degraded : s.isDegraded = true → s.layout.unresponsive ≠ .empty
  stable : s.isStable = true → s.layout.unresponsive = .empty

theorem StatusReport.Fits.aligned {s : Snapshot} (h : s.status.Fits s.layout) : s.Aligned := by
  have strong : s.status.overall ≠ .unavailable → s.status.reliability = .strongQuorum := by
    intro available
    rw [Ne, h.unavailable, h.weak, Nat.not_lt] at available
    exact h.strong.mpr available
  refine ⟨h.settled, fun degraded none => ?_, fun stable => ?_⟩
  · have degraded : s.status.overall = .degraded := of_decide_eq_true degraded
    have settled := h.settled (strong (by rw [degraded]; decide))
    have calm : s.status.overall = .stable := by
      refine h.stable.mpr fun e _ down => ?_
      have counted := (settled e).mpr down
      rw [none] at counted
      exact EndpointSet.not_mem_empty e counted
    rw [degraded] at calm
    cases calm
  · have stable : s.status.overall = .stable := of_decide_eq_true stable
    have settled := h.settled (strong (by rw [stable]; decide))
    refine EndpointSet.ext fun e => iff_of_false (fun counted => ?_) (EndpointSet.not_mem_empty e)
    have down := (settled e).mp counted
    have server : e ∈ s.layout.servers := by
      rw [← h.health, EndpointTable.mem_keys, down]
      rfl
    exact h.stable.mp stable e server down

theorem ManagementClient.snapshot_focus {σ τ : Type} (p : Part σ τ) (client : ManagementClient τ) :
    (client.focus p).snapshot = client.snapshot.focus p := by
  rw [snapshot, snapshot, Attempt.focus_bind, Attempt.focus_lift]
  simp only [Attempt.focus_bind]
  rfl

namespace Simulation

namespace Fabric
variable {f g k : Fabric} {l : Layout} {r : StatusReport}

/-- A second look finds what the first one found, and leaves all as it is. -/
theorem look_look (f : Fabric) (l : Layout) :
    (f.look l).look (settle (f.detect l) l) = f.look l := by
  have servers := servers_settle (f.detect l) l
  have again : (f.look l).detect (settle (f.detect l) l) = f.detect l := by
    rw [detect, vantages, servers]
    rfl
  have settled : settle (f.detect l) (settle (f.detect l) l) = settle (f.detect l) l := by
    have quorum : hasQuorum (settle (f.detect l) l) (f.detect l) = hasQuorum l (f.detect l) := by
      rw [hasQuorum, hasQuorum, Layout.quorum, Layout.quorum, servers]
    by_cases enough : hasQuorum l (f.detect l) = true
    · rw [settle, unresponsive_settle enough]
      exact if_neg fun both => both.1 rfl
    · rw [settle, quorum]
      exact if_neg fun both => enough both.2
  have report : (f.look l).reportOn (settle (f.detect l) l) (f.detect l) =
      f.reportOn l (f.detect l) := by
    have quorum : hasQuorum (settle (f.detect l) l) (f.detect l) = hasQuorum l (f.detect l) := by
      rw [hasQuorum, hasQuorum, Layout.quorum, Layout.quorum, servers]
    rw [reportOn, servers, quorum]
    rfl
  rw [look, again, settled, report]
  rfl

/-- A look makes a report on the servers of the layout that it finds.  The report fits this layout,
or else the look puts the next one in place, for which other servers are down. -/
theorem fits_or_marked_of_look (distinct : l.servers.Nodup) (servers : l.servers ≠ [])
    (hr : (f.look l).report = some r) : r.Covers l ∧ (r.Fits l ∨
      ∃ down, down ≠ l.unresponsive ∧ (∀ e, e ∈ down ↔ r.Down e) ∧
        (f.look l).layout = some (l.markUnresponsive down)) := by
  cases hr
  refine ⟨covers_reportOn distinct servers, ?_⟩
  have fits := fits_reportOn (f := f) distinct servers
  by_cases moves : f.detect l ≠ l.unresponsive ∧ hasQuorum l (f.detect l) = true
  · right
    refine ⟨f.detect l, moves.1, fun e => down_reportOn.symm, ?_⟩
    rw [look, settle, if_pos moves]
  · left
    rw [settle, if_neg moves] at fits
    exact fits

/-- Of two readings, one right after the other, the second one leaves the layout that the first one
left, unless the lag runs out between them: then the second one looks. -/
theorem layout_of_readings (first : f.observe = .ok g) (hl : g.layout = some l)
    (second : g.observe = .ok k) :
    k.layout = some l ∨ f.report ≠ none ∧ f.lagRemaining = 1 ∧ k = g.look l := by
  obtain ⟨_, l', hl', ⟨_, rfl⟩ | ⟨due, rfl⟩⟩ := observe_eq_ok second
  · exact .inl hl
  rw [hl] at hl'
  cases hl'
  obtain ⟨_, l₀, hl₀, ⟨waiting, rfl⟩ | ⟨_, rfl⟩⟩ := observe_eq_ok first
  · -- The first one counted down and the second one had nothing left to count.
    right
    have reported : f.report ≠ none := Option.isSome_iff_ne_none.mp waiting.1
    have left : ¬ 0 < f.lagRemaining - 1 := fun more => due ⟨waiting.1, more⟩
    have some := waiting.2
    exact ⟨reported, by omega, rfl⟩
  · left
    have found : l = settle (f.detect l₀) l₀ := by
      have here : (f.look l₀).layout = some (settle (f.detect l₀) l₀) := rfl
      rw [hl] at here
      exact Option.some.inj here
    rw [found, look_look]
    rfl

end Fabric

/-- What the two readings of a snapshot find. -/
theorem ClientState.snapshot_eq_ok {d d' : ClientState} {s : Snapshot}
    (h : Attempt.result client.snapshot d = (.ok s, d')) :
    ∃ g, d.fabric.observe = .ok g ∧ g.layout = some s.layout ∧
      g.observe = .ok d'.fabric ∧ d'.fabric.report = some s.status := by
  rw [ManagementClient.snapshot, Attempt.result_bind, Attempt.result_lift, client] at h
  simp only [forget, Call.result_modify, Attempt.result_bind, result_getLayout,
    result_getStatus] at h
  cases first : d.fabric.observe with
  | error cause =>
    simp only [first] at h
    cases h
  | ok g =>
    simp only [first] at h
    cases hl : g.layout with
    | none =>
      simp only [hl] at h
      cases h
    | some l =>
      simp only [hl] at h
      cases second : g.observe with
      | error cause =>
        simp only [second] at h
        cases h
      | ok k =>
        simp only [second] at h
        cases hr : k.report with
        | none =>
          simp only [hr] at h
          cases h
        | some r =>
          simp only [hr, Attempt.result_pure] at h
          cases h
          exact ⟨g, rfl, hl, second, hr⟩

namespace Lab
variable {lab lab' : Lab} {number : Nat} {s : Snapshot}

theorem snapshot_eq_ok (there : number < lab.memories.length)
    (h : Attempt.result (client number).snapshot lab = (.ok s, lab')) :
    ∃ g, lab.fabric.observe = .ok g ∧ g.layout = some s.layout ∧
      g.observe = .ok lab'.fabric ∧ lab'.fabric.report = some s.status := by
  rw [client, ManagementClient.snapshot_focus] at h
  have atClient := Call.result_focus (lawful_clientState number) ClientState.client.snapshot.toCall there
  have h : ((Attempt.result ClientState.client.snapshot ((clientState number).get lab)).1,
      (clientState number).set
        (Attempt.result ClientState.client.snapshot ((clientState number).get lab)).2 lab) = (.ok s, lab') :=
    atClient.symm.trans h
  rcases taken : Attempt.result ClientState.client.snapshot ((clientState number).get lab) with ⟨outcome, d⟩
  rw [taken] at h
  cases h
  exact ClientState.snapshot_eq_ok taken

/-- **When a snapshot is torn**, in a deployed lab.  The report of a snapshot is always on the
servers of its layout.  The snapshot is aligned, unless there was a report and the lag was one
reading short of running out: then it may be that the second reading has put the next layout in
place, which counts other servers as unresponsive, namely exactly those that the report sees
down. -/
theorem Deployed.snapshot_aligned_or_torn (h : Deployed lab) (there : number < lab.memories.length)
    (taken : Attempt.result (client number).snapshot lab = (.ok s, lab')) :
    (∀ e, e ∈ s.status.connectivity.keys ↔ e ∈ s.layout.servers) ∧
      (∀ e, e ∈ s.status.health.keys ↔ e ∈ s.layout.servers) ∧
      (s.Aligned ∨ (lab.fabric.report ≠ none ∧ lab.fabric.lagRemaining = 1) ∧
        ∃ down, down ≠ s.layout.unresponsive ∧ (∀ e, e ∈ down ↔ s.status.Down e) ∧
          lab'.fabric.layout = some (s.layout.markUnresponsive down)) := by
  obtain ⟨g, first, hl, second, hr⟩ := snapshot_eq_ok there taken
  obtain ⟨founded, reported⟩ := h.reported
  obtain ⟨foundedG, reportedG⟩ := Fabric.reported_of_observe first founded reported
  obtain ⟨-, reportedK⟩ := Fabric.reported_of_observe second foundedG reportedG
  obtain still | ⟨some, last, looked⟩ := Fabric.layout_of_readings first hl second
  · obtain ⟨m, hm, fits⟩ := reportedK _ hr
    rw [still] at hm
    cases hm
    exact ⟨fits.connectivity, fits.health, .inl fits.aligned⟩
  · obtain ⟨l, hl', distinct, servers⟩ := foundedG
    rw [hl] at hl'
    cases hl'
    rw [looked] at hr ⊢
    obtain ⟨covers, fits | marked⟩ := Fabric.fits_or_marked_of_look distinct servers hr
    · exact ⟨covers.connectivity, covers.health, .inl fits.aligned⟩
    · exact ⟨covers.connectivity, covers.health, .inr ⟨⟨some, last⟩, marked⟩⟩

/-- A snapshot of `ailing` counts one server as unresponsive and sees two down. -/
theorem misaligned_ailing : ∃ s, (Attempt.result (client 0).snapshot ailing).1 = .ok s ∧
    s.status.reliability = .strongQuorum ∧
    ¬ ∀ e, e ∈ s.layout.unresponsive ↔ s.status.Down e := by
  have torn : ∃ s, (Attempt.result (client 0).snapshot ailing).1.toOption = some s ∧
      s.status.reliability = .strongQuorum ∧ ⟨"d:1"⟩ ∉ s.layout.unresponsive ∧
        s.status.Down ⟨"d:1"⟩ := by decide +kernel
  obtain ⟨s, taken, strong, spared, down⟩ := torn
  refine ⟨s, ?_, strong, fun aligned => spared ((aligned _).mpr down)⟩
  exact congrArg Prod.fst (Attempt.eq_ok_of_toOption taken)

theorem snapshot_aligned_or_torn_ailing :
    Deployed ailing ∧ 0 < ailing.memories.length ∧
      ∃ s lab', Attempt.result (client 0).snapshot ailing = (.ok s, lab') ∧
        ailing.fabric.lagRemaining = 1 ∧
        ∃ down, down ≠ s.layout.unresponsive ∧ (∀ e, e ∈ down ↔ s.status.Down e) ∧
          lab'.fabric.layout = some (s.layout.markUnresponsive down) := by
  have there : 0 < ailing.memories.length := by decide +kernel
  have last : ailing.fabric.lagRemaining = 1 := by decide +kernel
  obtain ⟨s, outcome, strong, misaligned⟩ := misaligned_ailing
  have taken : Attempt.result (client 0).snapshot ailing =
      (.ok s, (Attempt.result (client 0).snapshot ailing).2) := by
    rw [← outcome]
  obtain ⟨-, -, aligned | ⟨-, torn⟩⟩ := deployed_ailing.snapshot_aligned_or_torn there taken
  · exact absurd (aligned.settled strong) misaligned
  · exact ⟨deployed_ailing, there, s, _, taken, last, torn⟩

/-- Not every snapshot with a quorum is aligned. -/
theorem snapshot_torn_at_last_reading :
    ¬ ∀ lab, Deployed lab → ∀ number < lab.memories.length, ∀ s,
      (Attempt.result (client number).snapshot lab).1 = .ok s →
        s.status.reliability = .strongQuorum →
          ∀ e, e ∈ s.layout.unresponsive ↔ s.status.Down e := by
  intro aligned
  obtain ⟨s, taken, strong, misaligned⟩ := misaligned_ailing
  have there : 0 < ailing.memories.length := by decide +kernel
  exact misaligned (aligned ailing deployed_ailing 0 there s taken strong)

end Lab

end Simulation

end FaultLab
