import FaultLab.Proofs.Undoing
import FaultLab.Proofs.PeerBlocking

/-! # What a handle records

A handle edits what it has commanded in four ways (`Commanded.Edit`): it sets a status, adds a peer, removes
one, or clears them all.  Whatever the order of the edits, as long as nobody sets the status of a member that
is cut off:

* the status and the peers tally (`tallies_edited`), so the process that was commanded last and the peers tell
  all there is to know (`Tallies.ext`);
* edits of the peers leave the process alone (`process_edited`);
* a peer is recorded if it was added and nothing freed it since (`Edit.LastAdded`, `mem_peers_edited`).

So statuses and peers do not get into each other's way, and edits of different peers may be made in any order
(`edited_perm`). -/

namespace FaultLab.Commanded

/-- An edit of what was commanded. -/
inductive Edit where
  | setStatus (s : NodeStatus)
  | addPeer (peer : Endpoint)
  | removePeer (peer : Endpoint)
  | clearPeers

namespace Edit

/-- Make an edit. -/
def make : Edit → Commanded → Commanded
  | setStatus s => Commanded.setStatus s
  | addPeer e => Commanded.addPeer e
  | removePeer e => Commanded.removePeer e
  | clearPeers => Commanded.clearPeers

/-- Whether the status that is set, if any, leaves it to the peers to say who is cut off. -/
def Plain : Edit → Prop
  | setStatus s => s ≠ .disconnected
  | _ => True

/-- Whether peers are edited. -/
def isOfPeers : Edit → Bool
  | setStatus _ => false
  | _ => true

/-- The peer that is added or removed. -/
def peer? : Edit → Option Endpoint
  | addPeer e => some e
  | removePeer e => some e
  | _ => none

/-- Whether a peer is no longer recorded because of the edit. -/
def Frees (e : Endpoint) : Edit → Prop
  | removePeer p => p = e
  | clearPeers => True
  | _ => False

/-- Among some edits the peer is added, and no later one frees it. -/
def LastAdded (e : Endpoint) (xs : List Edit) : Prop :=
  ∃ before after, xs = before ++ addPeer e :: after ∧ ∀ x ∈ after, ¬ x.Frees e

variable {c c' : Commanded} {x : Edit} {e : Endpoint} {xs : List Edit}

/-! ### One edit -/

theorem plain_of_isOfPeers (h : x.isOfPeers = true) : x.Plain := by
  cases x with
  | setStatus s => cases h
  | _ => trivial

theorem isOfPeers_of_peer? (h : x.peer? ≠ none) : x.isOfPeers = true := by
  cases x with
  | setStatus s => exact absurd rfl h
  | _ => rfl

theorem tallies_make (plain : x.Plain) (tallies : c.Tallies) : (x.make c).Tallies := by
  cases x with
  | setStatus s => exact .setStatus plain c
  | addPeer e => exact .addPeer e c
  | removePeer e => exact tallies.removePeer e
  | clearPeers => exact .withPeers fun _ => rfl

theorem process_make (h : x.isOfPeers = true) (c : Commanded) :
    (x.make c).status.process = c.status.process := by
  cases x with
  | setStatus s => cases h
  | addPeer e => exact process_addPeer e c
  | removePeer e => exact process_withPeers (c.peers.erase e) c
  | clearPeers => exact process_withPeers .empty c

theorem peers_make (x : Edit) (same : c.peers = c'.peers) : (x.make c).peers = (x.make c').peers := by
  cases x with
  | setStatus s => exact same
  | addPeer e => exact congrArg (EndpointSet.insert e) same
  | removePeer e => exact congrArg (EndpointSet.erase e) same
  | clearPeers => rfl

theorem mem_peers_make : e ∈ (x.make c).peers ↔ x = addPeer e ∨ (e ∈ c.peers ∧ ¬ x.Frees e) := by
  cases x with
  | setStatus s => simp [make, Frees]
  | addPeer p => simp [make, Frees, eq_comm]
  | removePeer p => simp [make, Frees, eq_comm]
  | clearPeers => simp [make, Frees]

theorem lastAdded_cons : LastAdded e (x :: xs) ↔
    (x = addPeer e ∧ ∀ y ∈ xs, ¬ y.Frees e) ∨ LastAdded e xs := by
  constructor
  · rintro ⟨_ | ⟨y, before⟩, after, same, kept⟩
    · cases same
      exact .inl ⟨rfl, kept⟩
    · cases same
      exact .inr ⟨before, after, rfl, kept⟩
  · rintro (⟨rfl, kept⟩ | ⟨before, after, rfl, kept⟩)
    · exact ⟨[], xs, rfl, kept⟩
    · exact ⟨x :: before, after, rfl, kept⟩

end Edit

/-! ### Edits one after the other -/

/-- Make some edits one after the other. -/
def edited (xs : List Edit) (c : Commanded) : Commanded := xs.foldl (fun c x => x.make c) c

variable {c c' : Commanded} {e : Endpoint} {s : NodeStatus} {xs ys zs : List Edit}

theorem tallies_edited (plain : ∀ x ∈ xs, x.Plain) (tallies : c.Tallies) : (edited xs c).Tallies := by
  induction xs generalizing c with
  | nil => exact tallies
  | cons x xs ih =>
    obtain ⟨first, rest⟩ := List.forall_mem_cons.mp plain
    exact ih rest (Edit.tallies_make first tallies)

theorem process_edited (ofPeers : ∀ x ∈ xs, x.isOfPeers = true) (c : Commanded) :
    (edited xs c).status.process = c.status.process := by
  induction xs generalizing c with
  | nil => rfl
  | cons x xs ih =>
    obtain ⟨first, rest⟩ := List.forall_mem_cons.mp ofPeers
    exact (ih rest (x.make c)).trans (Edit.process_make first c)

theorem status_edited (ofPeers : ∀ x ∈ xs, x.isOfPeers = true) (still : c.status.isLive = false) :
    (edited xs c).status = c.status := by
  rw [NodeStatus.eq_iff_process still, process_edited ofPeers]
  exact (NodeStatus.eq_iff_process still).mp rfl

/-- A peer is recorded after some edits if one of them added it, or it was recorded before, and none freed it
since. -/
theorem mem_peers_edited : e ∈ (edited xs c).peers ↔
    Edit.LastAdded e xs ∨ (e ∈ c.peers ∧ ∀ x ∈ xs, ¬ x.Frees e) := by
  induction xs generalizing c with
  | nil => simp [edited, Edit.LastAdded]
  | cons x xs ih =>
    have later : edited (x :: xs) c = edited xs (x.make c) := rfl
    rw [later, ih, Edit.mem_peers_make, Edit.lastAdded_cons, List.forall_mem_cons]
    tauto

/-- The statuses that are set among edits of the peers do not matter to the peers. -/
theorem peers_edited_filter (xs : List Edit) (same : c.peers = c'.peers) :
    (edited xs c).peers = (edited (xs.filter Edit.isOfPeers) c').peers := by
  induction xs generalizing c c' with
  | nil => exact same
  | cons x xs ih =>
    cases x with
    | setStatus s => exact ih same
    | _ => exact ih (Edit.peers_make _ same)

/-! ### Edits of different peers -/

/-- Peers are added and removed, none of them more than once. -/
def OfDistinctPeers (xs : List Edit) : Prop := (∀ x ∈ xs, x.peer? ≠ none) ∧ (xs.map Edit.peer?).Nodup

theorem lastAdded_iff_mem (distinct : OfDistinctPeers xs) : Edit.LastAdded e xs ↔ .addPeer e ∈ xs := by
  induction xs with
  | nil => simp [Edit.LastAdded]
  | cons x xs ih =>
    obtain ⟨some, apart⟩ := distinct
    rw [List.map_cons, List.nodup_cons] at apart
    rw [Edit.lastAdded_cons, ih ⟨(List.forall_mem_cons.mp some).2, apart.2⟩, List.mem_cons, eq_comm]
    refine or_congr_left (and_iff_left_of_imp ?_)
    -- Only its own removal would free a peer, and that would be a second edit of it.
    rintro rfl y hy frees
    have own : y.peer? = Edit.peer? (.addPeer e) := by
      cases y with
      | removePeer p =>
        cases frees
        rfl
      | clearPeers => exact absurd rfl (some _ (List.mem_cons_of_mem _ hy))
      | _ => cases frees
    exact apart.1 (List.mem_map.mpr ⟨y, hy, own⟩)

theorem edited_perm (tallies : c.Tallies) (distinct : OfDistinctPeers ys) (perm : ys.Perm zs) :
    edited ys c = edited zs c := by
  have distinct' : OfDistinctPeers zs :=
    ⟨fun z hz => distinct.1 z (perm.mem_iff.mpr hz), (perm.map Edit.peer?).nodup_iff.mp distinct.2⟩
  have ofPeers : ∀ {xs}, OfDistinctPeers xs → ∀ x ∈ xs, x.isOfPeers = true :=
    fun h x hx => Edit.isOfPeers_of_peer? (h.1 x hx)
  have plain : ∀ {xs}, OfDistinctPeers xs → ∀ x ∈ xs, x.Plain :=
    fun h x hx => Edit.plain_of_isOfPeers (ofPeers h x hx)
  refine Tallies.ext (tallies_edited (plain distinct') tallies) (tallies_edited (plain distinct) tallies) ?_ ?_
  · rw [process_edited (ofPeers distinct), process_edited (ofPeers distinct')]
  · refine EndpointSet.ext fun e => ?_
    rw [mem_peers_edited, mem_peers_edited, lastAdded_iff_mem distinct, lastAdded_iff_mem distinct',
      perm.mem_iff]
    simp only [perm.mem_iff]

theorem tallies_ofStatus (plain : s ≠ .disconnected) : (ofStatus s).Tallies :=
  ⟨fun apart => absurd apart plain, fun _ => rfl⟩

/-- After any edits, a member that is recorded as running has no blocked peer, and one that is recorded as
disconnected has some.  The peers are those that were added last, whatever statuses were set.  From there on,
edits of peers do not change the status of a member that is not live, and it does not matter in which order
different peers are added and removed. -/
theorem status_and_peers_cohere (plain : s ≠ .disconnected) (plains : ∀ x ∈ xs, x.Plain) :
    ((edited xs (ofStatus s)).status = .running → (edited xs (ofStatus s)).peers = .empty) ∧
    ((edited xs (ofStatus s)).status = .disconnected → (edited xs (ofStatus s)).peers ≠ .empty) ∧
    (∀ e, e ∈ (edited xs (ofStatus s)).peers ↔ Edit.LastAdded e xs) ∧
    (∀ s' xs', xs'.filter Edit.isOfPeers = xs.filter Edit.isOfPeers →
      (edited xs' (ofStatus s')).peers = (edited xs (ofStatus s)).peers) ∧
    (∀ ys : List Edit, (∀ y ∈ ys, y.isOfPeers = true) → (edited xs (ofStatus s)).status.isLive = false →
      (edited ys (edited xs (ofStatus s))).status = (edited xs (ofStatus s)).status) ∧
    ∀ ys zs, OfDistinctPeers ys → ys.Perm zs →
      edited ys (edited xs (ofStatus s)) = edited zs (edited xs (ofStatus s)) := by
  have tallies := tallies_edited plains (tallies_ofStatus plain)
  refine ⟨tallies.together, tallies.apart, fun e => ?_, fun s' xs' same => ?_,
    fun ys ofPeers still => status_edited ofPeers still, fun ys zs => edited_perm tallies⟩
  · rw [mem_peers_edited]
    exact or_iff_left fun before => EndpointSet.not_mem_empty e before.1
  · have bare : ∀ s s', (ofStatus s).peers = (ofStatus s').peers := fun _ _ => rfl
    rw [peers_edited_filter xs' (bare s' s), peers_edited_filter xs (bare s s), same]

/-- Edits that leave a member cut off from one peer that was added again and from one that was not known. -/
def cuttingOff : List Edit :=
  [.addPeer ⟨"10.0.0.2:9000"⟩, .setStatus .running, .removePeer ⟨"10.0.0.3:9000"⟩, .setStatus .paused,
    .clearPeers, .addPeer ⟨"10.0.0.3:9000"⟩, .addPeer ⟨"10.0.0.2:9000"⟩, .setStatus .running]

theorem status_and_peers_cohere_cuttingOff :
    NodeStatus.stopped ≠ .disconnected ∧ (∀ x ∈ cuttingOff, x.Plain) ∧
    (edited cuttingOff (ofStatus .stopped)).status = .disconnected ∧
    (edited cuttingOff (ofStatus .stopped)).peers ≠ .empty ∧
    ⟨"10.0.0.3:9000"⟩ ∈ (edited cuttingOff (ofStatus .stopped)).peers ∧
    edited [.removePeer ⟨"10.0.0.2:9000"⟩, .addPeer ⟨"10.0.0.4:9000"⟩, .removePeer ⟨"10.0.0.3:9000"⟩]
        (edited cuttingOff (ofStatus .stopped)) =
      edited [.removePeer ⟨"10.0.0.3:9000"⟩, .removePeer ⟨"10.0.0.2:9000"⟩, .addPeer ⟨"10.0.0.4:9000"⟩]
        (edited cuttingOff (ofStatus .stopped)) := by
  have plain : NodeStatus.stopped ≠ .disconnected := by decide
  have plains : ∀ x ∈ cuttingOff, x.Plain := by simp [cuttingOff, Edit.Plain]
  obtain ⟨-, apart, recorded, -, -, anyOrder⟩ := status_and_peers_cohere plain plains
  have status : (edited cuttingOff (ofStatus .stopped)).status = .disconnected := by decide +kernel
  refine ⟨plain, plains, status, apart status, (recorded _).mpr ?_, anyOrder _ _ ⟨?_, ?_⟩ ?_⟩
  · exact ⟨cuttingOff.take 5, cuttingOff.drop 6, rfl, by simp [cuttingOff, Edit.Frees]⟩
  · simp [Edit.peer?]
  · simp [Edit.peer?]
  · exact @List.perm_append_comm _ [_, _] [_]

end FaultLab.Commanded
