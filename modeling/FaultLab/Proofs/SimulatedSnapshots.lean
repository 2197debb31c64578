import FaultLab.Proofs.Convergence
import FaultLab.Proofs.Waits

/-! # What a simulated management shows, snapshot by snapshot

A call that is `Call.Instant` has no pauses, so it takes no time (`Call.Instant.elapsed`).  A client
whose parts are instant plays its own footage: the outcomes of its snapshots, one after the other
(`ManagementClient.plays_footage`), so all that is known of waits applies to it.

The clients of a lab are such clients.  A snapshot makes two readings; the layout is that of the first
one and the report that of the second one (`Lab.result_snapshot_watched`).  So snapshot `k` shows the
layout after `2 * k + 1` readings and the report after `2 * k + 2` (`Lab.shows_footage`).

While the lag lasts the layout stays, and after it the detector has looked
(`Fabric.layout_watched_iterate`). -/

namespace FaultLab

/-! ### Calls that take no time -/

namespace Call
variable {σ τ α β : Type} {c : Call σ α}

/-- Whether a call has no pauses. -/
def Instant : Call σ α → Prop
  | done _ => True
  | pause _ _ => False
  | note _ rest => Instant rest
  | step _ rest => ∀ s, Instant (rest s)

namespace Instant

theorem elapsed (h : c.Instant) (s : σ) : c.elapsed s = 0 := by
  induction c generalizing s with
  | done a => rfl
  | pause d rest => cases h
  | note e rest ih => exact ih h s
  | step act rest ih => exact ih s (h s) (act s)

theorem leaves {a : α} {s t : σ} (h : c.Instant) (made : c.result s = (a, t)) : c.Leaves s a t 0 :=
  ⟨made, h.elapsed s⟩

theorem bind {f : α → Call σ β} (h : c.Instant) (hf : ∀ a, (f a).Instant) : (Call.bind c f).Instant := by
  induction c with
  | done a => exact hf a
  | pause d rest => cases h
  | note e rest ih => exact ih h
  | step act rest ih => exact fun s => ih s (h s)

theorem focus {c : Call τ α} (h : c.Instant) (p : Part σ τ) : (Call.focus p c).Instant := by
  induction c with
  | done a => trivial
  | pause d rest => cases h
  | note e rest ih => exact ih h
  | step act rest ih => exact fun s => ih _ (h _)

theorem logAll (es : List Event) : (Call.logAll es : Call σ Unit).Instant := by
  induction es with
  | nil => trivial
  | cons e es ih => exact ih

end Instant

end Call

namespace Attempt
variable {σ τ ε α β : Type}

/-- Whether an attempt has no pauses. -/
def Instant (c : Attempt σ ε α) : Prop := c.toCall.Instant

namespace Instant

theorem lift {c : Call σ α} (h : c.Instant) : (Attempt.lift c : Attempt σ ε α).Instant :=
  Call.Instant.bind h fun _ => trivial

theorem bind {c : Attempt σ ε α} {f : α → Attempt σ ε β} (h : c.Instant) (hf : ∀ a, (f a).Instant) :
    (c >>= f).Instant := by
  refine Call.Instant.bind h fun outcome => ?_
  cases outcome with
  | ok a => exact hf a
  | error e => trivial

end Instant

end Attempt

/-! ### The footage of a client -/

namespace ManagementClient
variable {σ : Type} {client : ManagementClient σ}

/-- The states that a client leaves by taking snapshots, one after the other. -/
def footage (client : ManagementClient σ) (s : σ) (k : Nat) : σ :=
  (fun t => (client.snapshot.result t).2)^[k] s

theorem footage_succ (client : ManagementClient σ) (s : σ) (k : Nat) :
    client.footage s (k + 1) = (client.snapshot.result (client.footage s k)).2 :=
  Function.iterate_succ_apply' _ k s

/-- The outcomes of these snapshots. -/
def frames (client : ManagementClient σ) (s : σ) (k : Nat) : Except ManagementError Snapshot :=
  (client.snapshot.result (client.footage s k)).1

theorem result_snapshot_eq (client : ManagementClient σ) (s : σ) :
    client.snapshot.result s = client.fetch.result (client.invalidate.result s).2 := by
  rw [snapshot, Attempt.result_bind, Attempt.result_lift]
  rfl

/-- **A client that takes no time plays its own footage.** -/
theorem plays_footage (dropping : client.invalidate.Instant) (fetching : client.fetch.Instant) (s : σ) :
    client.Plays (client.frames s) (client.footage s) fun k =>
      (client.invalidate.result (client.footage s k)).2 where
  invalidate k := dropping.leaves rfl
  fetch k := by
    refine Call.Instant.leaves fetching ?_
    have taken := client.result_snapshot_eq (client.footage s k)
    rw [footage_succ, frames, taken]
    rfl

end ManagementClient

namespace Simulation

/-! ### The clients of a lab -/

namespace ClientState

theorem instant_observe : Attempt.Instant observe := by
  refine .bind (.lift fun _ => trivial) fun seen => .bind ?_ fun _ => ?_
  · trivial
  · exact .bind (.lift (.logAll _)) fun _ => trivial

theorem instant_getLayout : Attempt.Instant getLayout := by
  refine .bind (.lift fun _ => trivial) fun memory => ?_
  cases memory with
  | some layout => trivial
  | none =>
    refine .bind instant_observe fun f => ?_
    rcases f.layout with _ | layout
    · trivial
    · exact .bind (.lift fun _ => trivial) fun _ => trivial

theorem instant_getStatus : Attempt.Instant getStatus := by
  refine .bind instant_observe fun f => ?_
  rcases f.report with _ | report <;> trivial

theorem instant_fetch : client.fetch.Instant :=
  .bind instant_getLayout fun _ => .bind instant_getStatus fun _ => trivial

end ClientState

namespace Lab

theorem fetch_client (number : Nat) :
    (client number).fetch = ClientState.client.fetch.focus (clientState number) := by
  rw [client, ManagementClient.fetch, ManagementClient.fetch, Attempt.focus_bind]
  simp only [Attempt.focus_bind]
  rfl

theorem instant_fetch (number : Nat) : (client number).fetch.Instant := by
  rw [fetch_client]
  exact Call.Instant.focus ClientState.instant_fetch (clientState number)

theorem instant_invalidate (number : Nat) : (client number).invalidate.Instant :=
  Call.Instant.focus (c := ClientState.forget) (fun _ => trivial) (clientState number)

theorem plays_footage (number : Nat) (lab : Lab) :
    (client number).Plays ((client number).frames lab) ((client number).footage lab) fun k =>
      ((client number).invalidate.result ((client number).footage lab k)).2 :=
  ManagementClient.plays_footage (instant_invalidate number) (instant_fetch number) lab

end Lab

/-! ### Two readings make a snapshot -/

namespace Fabric
variable {f : Fabric} {l : Layout}

/-- With the management up and a layout in place, a reading leaves a layout and a report. -/
theorem exists_watched (up : f.managementDown = false) (hl : f.layout = some l) :
    ∃ m r, f.watched.managementDown = false ∧ f.watched.layout = some m ∧ f.watched.report = some r := by
  rw [watched_of_layout up hl]
  split
  · rename_i waiting
    obtain ⟨r, reported⟩ := Option.isSome_iff_exists.mp waiting.1
    exact ⟨l, r, up, hl, reported⟩
  · exact ⟨_, _, up, rfl, rfl⟩

end Fabric

/-- A snapshot of a client shows the layout after one reading and the report after another one. -/
theorem ClientState.result_snapshot_watched {d : ClientState} {l : Layout} (up : d.fabric.managementDown = false)
    (hl : d.fabric.layout = some l) : ∃ m r, d.fabric.watched.layout = some m ∧
      d.fabric.watched.watched.report = some r ∧
      Attempt.result client.snapshot d = (.ok ⟨m, r⟩, ⟨d.fabric.watched.watched, some m⟩) := by
  obtain ⟨m, _, up', layout, -⟩ := Fabric.exists_watched up hl
  obtain ⟨_, r, -, -, report⟩ := Fabric.exists_watched up' layout
  refine ⟨m, r, layout, report, ?_⟩
  have first := Fabric.observe_eq_watched up hl
  have second := Fabric.observe_eq_watched up' layout
  rw [ManagementClient.snapshot, Attempt.result_bind, Attempt.result_lift, client]
  simp only [forget, Call.result_modify, Attempt.result_bind, result_getLayout, result_getStatus, first,
    layout, second, report, Attempt.result_pure]

namespace Lab
variable {lab : Lab} {l : Layout} {number : Nat}

theorem result_snapshot_watched (there : number < lab.memories.length)
    (up : lab.fabric.managementDown = false) (hl : lab.fabric.layout = some l) :
    ∃ m r, lab.fabric.watched.layout = some m ∧ lab.fabric.watched.watched.report = some r ∧
      Attempt.result (client number).snapshot lab =
        (.ok ⟨m, r⟩, (clientState number).set ⟨lab.fabric.watched.watched, some m⟩ lab) := by
  obtain ⟨m, r, layout, report, taken⟩ :=
    ClientState.result_snapshot_watched (d := (clientState number).get lab) up hl
  refine ⟨m, r, layout, report, ?_⟩
  have atClient := Call.result_focus (lawful_clientState number) ClientState.client.snapshot.toCall there
  rw [client, ManagementClient.snapshot_focus]
  refine atClient.trans ?_
  rw [Attempt.result] at taken
  rw [taken]
  rfl

/-- **What the snapshots of a client show**, with the management up and a layout in place: each of them
makes two readings. -/
theorem shows_footage (there : number < lab.memories.length) (up : lab.fabric.managementDown = false)
    (hl : lab.fabric.layout = some l) (k : Nat) : ∃ m r,
      (client number).frames lab k = .ok ⟨m, r⟩ ∧
      (Fabric.watched^[2 * k + 1] lab.fabric).layout = some m ∧
      (Fabric.watched^[2 * k + 2] lab.fabric).report = some r := by
  have again := fun n => Function.iterate_succ_apply' Fabric.watched n lab.fabric
  -- What the snapshots before have left is again a lab with the management up and a layout in place.
  have before : ∀ k, ∃ m, ((client number).footage lab k).fabric = Fabric.watched^[2 * k] lab.fabric ∧
      number < ((client number).footage lab k).memories.length ∧
      ((client number).footage lab k).fabric.managementDown = false ∧
      ((client number).footage lab k).fabric.layout = some m := by
    intro k
    induction k with
    | zero => exact ⟨l, rfl, there, up, hl⟩
    | succ k ih =>
      obtain ⟨m, same, there, up, hl⟩ := ih
      obtain ⟨_, _, -, -, taken⟩ := result_snapshot_watched there up hl
      obtain ⟨_, _, up', layout, -⟩ := Fabric.exists_watched up hl
      obtain ⟨m', _, up'', layout', -⟩ := Fabric.exists_watched up' layout
      have next := (client number).footage_succ lab k
      rw [taken] at next
      rw [next]
      refine ⟨m', ?_, (lawful_clientState number).stays _ _ there, up'', layout'⟩
      change ((client number).footage lab k).fabric.watched.watched = _
      rw [same, ← again, ← again]
      rfl
  obtain ⟨_, same, there, up, hl⟩ := before k
  obtain ⟨m, r, layout, report, taken⟩ := result_snapshot_watched there up hl
  rw [same] at layout report
  rw [← again] at layout report
  rw [← again] at report
  exact ⟨m, r, congrArg Prod.fst taken, layout, report⟩

end Lab

/-! ### Readings before and after the look -/

namespace Fabric
variable {f : Fabric} {l : Layout} {n : Nat}

/-- The layout after some readings: as many as the lag has left show the layout in place, and all that
come after them what the detector has found. -/
theorem layout_watched_iterate (up : f.managementDown = false) (hl : f.layout = some l)
    (reported : f.report.isSome = true) (n : Nat) :
    (watched^[n] f).layout = some (if n ≤ f.lagRemaining then l else settle (f.detect l) l) := by
  split
  · rename_i few
    rw [watched_iterate_of_le up hl reported few]
    exact hl
  · rename_i enough
    obtain ⟨k, rfl⟩ : ∃ k, n = k + 1 := ⟨n - 1, by omega⟩
    rw [watched_iterate up hl (by omega)]
    rfl

end Fabric

end Simulation

end FaultLab
