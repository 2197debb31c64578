import FaultLab.Proofs.Reports
import FaultLab.Proofs.Shapes

/-! # Layouts that stay valid

Whatever the first layout is that a client puts in place, only servers count as unresponsive from then
on, and there are servers, with one exception (`Lab.Accepted.decays_iff_repeated_member_leaves`).  The
guard of a removal counts entries of the list of servers while the removal takes out every entry of a
member.  So the last member is let go if it is listed more than once.  Then there is no server and no
quorum any more, and this layout stays for good (`Fabric.Turn.stuck`).

`ClientState.Changes` says what becomes of the servers when a client is asked to change the members; all
other requests leave the list of servers as it is or make it longer (`ClientState.servers_asked_ne_nil`). -/

namespace FaultLab

namespace Layout
variable {l : Layout} {e : Endpoint}

/-- A layout is valid if it has servers and counts only servers as unresponsive. -/
theorem validate_eq_ok_iff :
    l.validate = .ok () ↔ l.servers ≠ [] ∧ ∀ e ∈ l.unresponsive, e ∈ l.servers := by
  have stray : (l.unresponsive.toList.find? fun e => !l.servers.contains e) = none ↔
      ∀ e ∈ l.unresponsive, e ∈ l.servers := by
    rw [List.find?_eq_none]
    simp only [Bool.not_eq_true', Bool.not_eq_false, List.contains_iff_mem]
    rfl
  rw [← stray, validate]
  by_cases none : l.servers = []
  · simp [none]
  · rw [if_neg (by simpa using none)]
    cases l.unresponsive.toList.find? fun e => !l.servers.contains e with
    | none => simp [none]
    | some e => simp

theorem servers_removeServer_eq_nil : (l.removeServer e).servers = [] ↔ ∀ a ∈ l.servers, a = e := by
  simp [removeServer, List.filter_eq_nil_iff]

end Layout

namespace Simulation

/-! ### The servers in place -/

namespace Fabric
variable {f g : Fabric} {l m : Layout}

/-- The servers of the layout in place. -/
def servers (f : Fabric) : List Endpoint := (f.layout.map Layout.servers).getD []

theorem servers_eq (h : f.layout = some l) : f.servers = l.servers := by
  rw [servers, h]
  rfl

theorem servers_of_observe (h : f.observe = .ok g) : g.servers = f.servers := by
  obtain ⟨_, l, hl, ⟨_, rfl⟩ | ⟨_, rfl⟩⟩ := observe_eq_ok h
  · rfl
  · have looked : (f.look l).layout = some (settle (f.detect l) l) := rfl
    rw [servers_eq looked, servers_eq hl, servers_settle]

theorem servers_watched (f : Fabric) : f.watched.servers = f.servers := by
  rw [watched]
  cases h : f.observe with
  | ok g => exact servers_of_observe h
  | error cause => rfl

theorem servers_commit (l : Layout) (f : Fabric) : (f.commit l).servers = l.servers := by
  rw [commit_eq, servers_watched]
  rfl

theorem servers_resetMember (e : Endpoint) (f : Fabric) :
    (f.resetMember e).2.servers = f.servers := by
  rw [resetMember]
  split
  · rfl
  · split <;> rfl

/-- Whether a layout is in place that counts only servers as unresponsive. -/
def Known (f : Fabric) : Prop := ∃ l, f.layout = some l ∧ ∀ e ∈ l.unresponsive, e ∈ l.servers

theorem Revision.known (revision : f.Revision l m) (h : ∀ e ∈ l.unresponsive, e ∈ l.servers) :
    ∀ e ∈ m.unresponsive, e ∈ m.servers := by
  cases revision with
  | marked => exact fun e he => mem_servers_of_mem_detect he
  | joined e => exact fun a ha => List.mem_append_left _ (h a ha)
  | left e =>
    intro a ha
    obtain ⟨old, other⟩ := EndpointSet.mem_erase.mp ha
    simp [Layout.removeServer, h a old, other]

theorem Turn.known (turn : f.Turn g) (h : f.Known) : g.Known := by
  obtain ⟨l, hl, known⟩ := h
  cases turn with
  | same same => exact ⟨l, same.trans hl, known⟩
  | first m bare =>
    rw [bare] at hl
    cases hl
  | revised l' m before revision placed =>
    rw [before] at hl
    cases hl
    exact ⟨m, placed, revision.known known⟩

/-- Without servers there is no quorum, so nothing takes the place of such a layout. -/
theorem Turn.stuck (turn : f.Turn g) (none : l.servers = []) (h : f.layout = some l) :
    g.layout = some l := by
  cases turn with
  | same same => exact same.trans h
  | first m bare =>
    rw [bare] at h
    cases h
  | revised l' m before revision =>
    rw [before] at h
    cases h
    have quorum := revision.quorum
    simp [hasQuorum, Layout.quorum, none] at quorum

end Fabric

/-! ### What requests make of the servers -/

namespace ClientState
variable {d : ClientState} {l : Layout} {e : Endpoint} {servers : List Endpoint}

/-- The answer to a request for a change of the members, and the servers after it. -/
inductive Changes (pick : Fabric → Layout → Except ManagementError (Option Layout))
    (servers : List Endpoint) : Except ManagementError Answer → List Endpoint → Prop
  | refused (cause : ManagementError) : Changes pick servers (.error cause) servers
  | kept (f : Fabric) (l : Layout) (same : l.servers = servers) (picked : pick f l = .ok none) :
    Changes pick servers (.ok .done) servers
  | changed (f : Fabric) (l m : Layout) (same : l.servers = servers)
    (picked : pick f l = .ok (some m)) : Changes pick servers (.ok .done) m.servers

theorem changes_changeOutcome (pick : Fabric → Layout → Except ManagementError (Option Layout))
    (hl : d.fabric.layout = some l) :
    Changes pick l.servers (d.changeOutcome e pick).1 (d.changeOutcome e pick).2.fabric.servers := by
  have before : d.fabric.servers = l.servers := Fabric.servers_eq hl
  rw [changeOutcome]
  cases hg : d.fabric.observe with
  | error cause =>
    have refused : Changes pick l.servers (.error cause) l.servers := .refused cause
    rwa [← before] at refused ⊢
  | ok g =>
    have seen : g.servers = l.servers := (Fabric.servers_of_observe hg).trans before
    simp only
    cases hm : g.changed e pick with
    | error cause =>
      simp only [seen]
      exact .refused cause
    | ok next =>
      obtain ⟨l', hl', -, picked⟩ := Fabric.changed_eq_ok hm
      have same : l'.servers = l.servers := (Fabric.servers_eq hl').symm.trans seen
      cases next with
      | none =>
        simp only [seen]
        exact .kept g l' same picked
      | some m =>
        simp only [Fabric.servers_commit]
        exact .changed g l' m same picked

/-- A request other than a removal leaves servers in place where there were some. -/
theorem servers_asked_ne_nil {req : Request} (other : ∀ e patience, req ≠ .remove e patience)
    (hl : d.fabric.layout = some l) (some : l.servers ≠ []) :
    (d.asked req).2.fabric.servers ≠ [] := by
  have before : d.fabric.servers = l.servers := Fabric.servers_eq hl
  rw [← before] at some
  cases req with
  | getLayout =>
    rw [fabric_asked, stages]
    split
    · exact some
    · exact (Fabric.servers_watched d.fabric).symm ▸ some
  | getStatus =>
    rw [fabric_asked]
    exact (Fabric.servers_watched d.fabric).symm ▸ some
  | invalidate => exact some
  | bootstrap first =>
    have kept := (Fabric.kept_submit first d.fabric).2
    have still : (d.fabric.submit first).2.servers = d.fabric.servers := by
      rw [Fabric.servers, kept, Fabric.servers]
    rw [asked_bootstrap]
    rcases taken : d.fabric.submit first with ⟨outcome, f⟩
    rw [taken] at still
    cases outcome with
    | error cause => exact still ▸ some
    | ok accepted =>
      cases accepted with
      | false => exact still ▸ some
      | true =>
        rw [(Fabric.submit_eq_ok_true taken).1] at hl
        cases hl
  | add e patience =>
    rw [asked_add]
    rw [before] at some
    have changes := changes_changeOutcome (e := e) (Fabric.joined e) hl
    generalize (d.changeOutcome e (Fabric.joined e)).1 = answer at changes
    generalize (d.changeOutcome e (Fabric.joined e)).2.fabric.servers = after at changes ⊢
    cases changes with
    | refused | kept => exact some
    | changed f l' m same picked =>
      rw [Fabric.joined] at picked
      split at picked
      · cases picked
      · split at picked
        · cases picked
          simp [Layout.addServer]
        · cases picked
  | remove e patience => exact absurd rfl (other e patience)
  | reset e =>
    rw [fabric_asked]
    exact (Fabric.servers_resetMember e d.fabric).symm ▸ some

/-- A removal is carried out and leaves no server exactly if it takes out the only member, which was
listed more than once. -/
theorem servers_asked_remove_eq_nil {patience : Patience} (hl : d.fabric.layout = some l)
    (some : l.servers ≠ []) : (d.asked (.remove e patience)).2.fabric.servers = [] ↔
      (∀ a ∈ l.servers, a = e) ∧ 2 ≤ l.servers.length ∧
        (d.asked (.remove e patience)).1 = .ok .done := by
  rw [asked_remove]
  have changes := changes_changeOutcome (e := e) (Fabric.left e) hl
  generalize (d.changeOutcome e (Fabric.left e)).1 = answer at changes ⊢
  generalize (d.changeOutcome e (Fabric.left e)).2.fabric.servers = after at changes ⊢
  cases changes with
  | refused cause => simp [some]
  | kept f l' same picked =>
    have gone : e ∉ l.servers := by
      rw [← same]
      intro there
      rw [Fabric.left, withoutServer, if_neg (by simpa [Layout.contains] using there)] at picked
      split at picked <;> cases picked
    refine ⟨fun none => absurd none some, ?_⟩
    rintro ⟨all, -⟩
    obtain ⟨a, ha⟩ := List.exists_mem_of_ne_nil _ some
    exact absurd (all a ha ▸ ha) gone
  | changed f l' m same picked =>
    rw [Fabric.left, withoutServer] at picked
    split at picked
    · cases picked
    · split at picked
      · cases picked
      · rename_i others
        cases picked
        rw [Layout.servers_removeServer_eq_nil, same]
        rw [same] at others
        have more : 2 ≤ l.servers.length := by
          have := List.length_pos_of_ne_nil some
          omega
        simp [more]

/-- The only member stays where it is listed once. -/
theorem asked_remove_last {patience : Patience} (hl : d.fabric.layout = some l)
    (last : l.servers = [e]) : ∃ cause, (d.asked (.remove e patience)).1 = .error cause := by
  rw [asked_remove]
  have changes := changes_changeOutcome (e := e) (Fabric.left e) hl
  generalize (d.changeOutcome e (Fabric.left e)).1 = answer at changes ⊢
  generalize (d.changeOutcome e (Fabric.left e)).2.fabric.servers = after at changes
  have guarded : ∀ l', l'.servers = l.servers → withoutServer e l' = .error .lastServer := by
    intro l' same
    rw [last] at same
    simp [withoutServer, Layout.contains, same]
  cases changes with
  | refused cause => exact ⟨cause, rfl⟩
  | kept f l' same picked =>
    rw [Fabric.left, guarded l' same] at picked
    cases picked
  | changed f l' m same picked =>
    rw [Fabric.left, guarded l' same] at picked
    cases picked

end ClientState

/-! ### Labs with any first layout -/

namespace Lab
variable {lab : Lab} {first l m : Layout} {d : Deed}

/-- The labs in which a client has put a first layout in place, whatever it is like, and anything has
happened since. -/
inductive Accepted (first : Layout) : Lab → Prop
  | bootstrap {lab : Lab} {number : Nat} (bare : lab.fabric.layout = none)
    (taken : (lab.perform (.request number (.bootstrap first))).fabric.layout ≠ none) :
    Accepted first (lab.perform (.request number (.bootstrap first)))
  | perform {lab : Lab} (d : Deed) (accepted : Accepted first lab) : Accepted first (lab.perform d)

theorem valid_of_taken {number : Nat} (bare : lab.fabric.layout = none)
    (taken : (lab.perform (.request number (.bootstrap first))).fabric.layout ≠ none) :
    first.validate = .ok () := by
  rw [fabric_perform, stages] at taken
  split at taken
  · rw [ClientState.stages] at taken
    have kept := (Fabric.kept_submit first ((clientState number).get lab).fabric).2
    rcases h : ((clientState number).get lab).fabric.submit first with ⟨outcome, f⟩
    rw [h] at taken kept
    have still : f.layout = none := kept.trans bare
    cases outcome with
    | error cause => exact absurd still taken
    | ok accepted =>
      cases accepted with
      | false => exact absurd still taken
      | true => exact (Fabric.submit_eq_ok_true h).2
  · exact absurd bare taken

theorem known_perform (h : lab.fabric.Known) : (lab.perform d).fabric.Known := by
  rw [fabric_perform]
  exact keeps_getLastD (isChain_stages lab d) (fun _ _ turn h => turn.known h) h

theorem stuck_perform (none : l.servers = []) (h : lab.fabric.layout = some l) :
    (lab.perform d).fabric.layout = some l := by
  rw [fabric_perform]
  exact keeps_getLastD (isChain_stages lab d) (fun _ _ turn h => turn.stuck none h) h

theorem Accepted.known (h : Accepted first lab) : lab.fabric.Known := by
  induction h with
  | bootstrap bare taken =>
    obtain ⟨f, committed⟩ := fabric_bootstrap bare taken
    rw [committed, Fabric.commit_eq]
    refine (Fabric.stage_watched _).turn.known ?_
    exact ⟨first, rfl, (Layout.validate_eq_ok_iff.mp (valid_of_taken bare taken)).2⟩
  | perform d accepted ih => exact known_perform ih

/-- A deed leaves no server exactly if it is a removal of the only member, which was listed more than
once. -/
theorem servers_perform_eq_nil (hl : lab.fabric.layout = some l) (some : l.servers ≠ []) :
    (lab.perform d).fabric.servers = [] ↔ ∃ number e patience,
      d = .request number (.remove e patience) ∧ number < lab.memories.length ∧
        (∀ a ∈ l.servers, a = e) ∧ 2 ≤ l.servers.length ∧
        (lab.asked number (.remove e patience)).1 = .ok .done := by
  have before : lab.fabric.servers ≠ [] := (Fabric.servers_eq hl).symm ▸ some
  obtain ⟨number, req, rfl⟩ | other := d.request_or_other
  · by_cases there : number < lab.memories.length
    · have client_servers : (lab.perform (.request number req)).fabric.servers =
          (((clientState number).get lab).asked req).2.fabric.servers := by
        rw [perform_request there]
        rfl
      rw [client_servers]
      by_cases removal : ∃ e patience, req = .remove e patience
      · obtain ⟨e, patience, rfl⟩ := removal
        rw [ClientState.servers_asked_remove_eq_nil (d := (clientState number).get lab) hl some]
        constructor
        · rintro ⟨all, more, done⟩
          exact ⟨number, e, patience, rfl, there, all, more, by rw [asked_eq there, done]⟩
        · rintro ⟨number', e', patience', same, -, all, more, done⟩
          cases same
          rw [asked_eq there] at done
          exact ⟨all, more, done⟩
      · have others : ∀ e patience, req ≠ .remove e patience :=
          fun e patience same => removal ⟨e, patience, same⟩
        have kept := ClientState.servers_asked_ne_nil (d := (clientState number).get lab) others hl some
        refine ⟨fun none => absurd none kept, ?_⟩
        rintro ⟨number', e, patience, same, -⟩
        cases same
        exact absurd rfl (others e patience)
    · rw [perform, if_neg there]
      refine ⟨fun none => absurd none before, ?_⟩
      rintro ⟨number', e, patience, same, there', -⟩
      cases same
      exact absurd there' there
  · have kept : (lab.perform d).fabric.servers = lab.fabric.servers := by
      rw [Fabric.servers, (view_perform other).1, Fabric.servers]
    rw [kept]
    refine ⟨fun none => absurd none before, ?_⟩
    rintro ⟨number, e, patience, same, -⟩
    exact absurd same (other number _)

/-- Distinct servers stay distinct, and then the last one is kept. -/
theorem Accepted.servers_ne_nil (h : Accepted first lab) (distinct : first.servers.Nodup)
    (hl : lab.fabric.layout = some l) : l.servers ≠ [] := by
  suffices lab.fabric.Placed ∧ lab.fabric.servers ≠ [] from Fabric.servers_eq hl ▸ this.2
  clear hl
  induction h with
  | bootstrap bare taken =>
    refine ⟨placed_bootstrap bare distinct taken, ?_⟩
    obtain ⟨f, committed⟩ := fabric_bootstrap bare taken
    rw [committed, Fabric.servers_commit]
    exact (Layout.validate_eq_ok_iff.mp (valid_of_taken bare taken)).1
  | @perform lab d accepted ih =>
    obtain ⟨placed, some⟩ := ih
    refine ⟨placed_perform placed, fun none => ?_⟩
    obtain ⟨m, hm, apart⟩ := placed
    rw [Fabric.servers_eq hm] at some
    obtain ⟨_, e, _, -, -, all, more, -⟩ := (servers_perform_eq_nil hm some).mp none
    obtain ⟨a, there, other⟩ := Layout.exists_other_server apart some (by omega) e
    exact other (all a there)

/-- **Nothing but the loss of a repeated member makes an accepted layout invalid.**  The layout in place
is valid, or it has no servers and stays for good; it is valid if the first layout lists no server
twice; the only member is not removed if it is listed once; and a deed makes the layout invalid
exactly if it is a removal, which is carried out, of the only member, which is listed more than
once. -/
theorem Accepted.decays_iff_repeated_member_leaves (h : Accepted first lab) :
    ∃ l, lab.fabric.layout = some l ∧
      (l.validate = .ok () ∨ l.servers = [] ∧ ∀ ds, (lab.after ds).fabric.layout = some l) ∧
      (first.servers.Nodup → l.validate = .ok ()) ∧
      (∀ e, l.servers = [e] → ∀ number < lab.memories.length, ∀ patience,
        ∃ cause, (lab.asked number (.remove e patience)).1 = .error cause) ∧
      (l.validate = .ok () → ∀ d, ∃ m, (lab.perform d).fabric.layout = some m ∧
        (m.validate ≠ .ok () ↔ ∃ number e patience, d = .request number (.remove e patience) ∧
          number < lab.memories.length ∧ (∀ a ∈ l.servers, a = e) ∧ 2 ≤ l.servers.length ∧
          (lab.asked number (.remove e patience)).1 = .ok .done)) := by
  obtain ⟨l, hl, known⟩ := h.known
  refine ⟨l, hl, ?_, fun distinct => ?_, fun e last number there patience => ?_, fun valid d => ?_⟩
  · by_cases none : l.servers = []
    · refine .inr ⟨none, fun ds => ?_⟩
      exact after_keeps (I := fun after => after.fabric.layout = some l)
        (fun d _ after h => stuck_perform none h) hl
    · exact .inl (Layout.validate_eq_ok_iff.mpr ⟨none, known⟩)
  · exact Layout.validate_eq_ok_iff.mpr ⟨h.servers_ne_nil distinct hl, known⟩
  · rw [asked_eq there]
    exact ClientState.asked_remove_last (d := (clientState number).get lab) hl last
  · obtain ⟨some, -⟩ := Layout.validate_eq_ok_iff.mp valid
    obtain ⟨m, hm, known'⟩ := (h.perform d).known
    have served : m.validate = .ok () ↔ m.servers ≠ [] :=
      Layout.validate_eq_ok_iff.trans ⟨And.left, fun served => ⟨served, known'⟩⟩
    refine ⟨m, hm, ?_⟩
    rw [← servers_perform_eq_nil hl some, Fabric.servers_eq hm, ne_eq, served, not_not]

/-- A lab with one member that was not told of any layout yet. -/
def unfounded : Lab := empty.after [.register ⟨"a:1"⟩, .connect]

/-- A layout that lists its only server twice. -/
def twofold : Layout := ⟨0, [⟨"a:1"⟩, ⟨"a:1"⟩], [], [], .empty, .ofNat 7⟩

/-- The only member, listed twice, is removed: there is an answer of success, and no valid layout. -/
theorem decays_iff_repeated_member_leaves_twofold :
    Accepted twofold (unfounded.perform (.request 0 (.bootstrap twofold))) ∧
      ((unfounded.perform (.request 0 (.bootstrap twofold))).asked 0
        (.remove ⟨"a:1"⟩ .default)).1 = .ok .done := by
  have accepted : Accepted twofold (unfounded.perform (.request 0 (.bootstrap twofold))) :=
    .bootstrap rfl (by decide +kernel)
  have placed : (unfounded.perform (.request 0 (.bootstrap twofold))).fabric.layout =
      some twofold := by decide +kernel
  have emptied : ((unfounded.perform (.request 0 (.bootstrap twofold))).perform
      (.request 0 (.remove ⟨"a:1"⟩ .default))).fabric.layout.map Layout.servers = some [] := by
    decide +kernel
  obtain ⟨l, hl, -, -, -, decays⟩ := accepted.decays_iff_repeated_member_leaves
  rw [placed] at hl
  cases hl
  obtain ⟨m, hm, decayed⟩ := decays (by decide) (.request 0 (.remove ⟨"a:1"⟩ .default))
  rw [hm, Option.map_some, Option.some.injEq] at emptied
  have invalid : m.validate ≠ .ok () := fun valid =>
    (Layout.validate_eq_ok_iff.mp valid).1 emptied
  obtain ⟨number, e, patience, same, -, -, -, done⟩ := decayed.mp invalid
  cases same
  exact ⟨accepted, done⟩

/-- A valid layout is accepted, its only member is removed, and the layout in place is not valid. -/
theorem removal_leaves_no_server :
    unfounded.fabric.layout = none ∧ twofold.validate = .ok () ∧
      (unfounded.after [.request 0 (.bootstrap twofold)]).fabric.layout = some twofold ∧
      (unfounded.after [.request 0 (.bootstrap twofold),
        .request 0 (.remove ⟨"a:1"⟩ .default)]).fabric.layout.map Layout.validate =
          some (.error .noServers) := by
  refine ⟨?_, ?_, ?_, ?_⟩
  · rfl
  · decide
  · decide +kernel
  · decide +kernel

end Lab

end Simulation

end FaultLab
