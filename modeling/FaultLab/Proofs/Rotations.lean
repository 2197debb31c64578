import FaultLab.Proofs.Detection
import FaultLab.Proofs.Fleets

/-! # Rotations and the links that they break

A rotation mends the link that it has broken before it breaks the next one.  If mending fails, the link
is still broken, but the rotation no longer counts it as broken and nobody is going to mend it.  A
`Round` keeps a list of these lost links beside the rotation.

* `Fleet.Accounted links` says that every block between the members is one of some links; mending,
  breaking and settings keep an account (`accounted_mend`, `accounted_linkFailure`).
* `Round.broken_links_active_or_lost` follows for whole rounds: what is broken is the active link or a
  lost one, and where no call to mend is made to fail, no link is lost.
* `rotation_loses_link` is a round in which two links are broken at once, and one stays broken. -/

namespace FaultLab.Simulation

/-! ### Breaking and mending one link -/

namespace Handle
variable {h : Handle} {s : Seat} {x y : Endpoint}

theorem blockedBy_update {e : Endpoint} {change : Member → Member} {f : Fabric} :
    (f.update e change).blockedBy x =
      if x = e then ((f.members.get? e).map fun m => (change m).blocked).getD .empty
      else f.blockedBy x := by
  rw [Fabric.blockedBy, Fabric.update, Fabric.touch, EndpointTable.get?_update]
  by_cases own : x = e
  · rw [if_pos own, if_pos own]
    cases f.members.get? e <;> rfl
  · rw [if_neg own, if_neg own]
    rfl

theorem mem_blockedBy_unblock {e : Endpoint} :
    y ∈ (h.unblock s e).fabric.blockedBy x ↔ y ∈ s.fabric.blockedBy x ∧ (x = h.id → y ≠ e) := by
  rw [unblock, blockedBy_update]
  by_cases own : x = h.id
  · subst own
    rw [if_pos rfl, Fabric.blockedBy]
    cases s.fabric.members.get? h.id with
    | none => simp
    | some m => simp
  · simp [own]

theorem mem_blockedBy_reconnected {peers : List Endpoint} :
    y ∈ (h.reconnected peers s).fabric.blockedBy x ↔
      y ∈ s.fabric.blockedBy x ∧ (x = h.id → y ∉ peers) := by
  rw [reconnected]
  induction peers generalizing s with
  | nil => simp
  | cons e es ih =>
    rw [List.foldl_cons, ih, mem_blockedBy_unblock, List.mem_cons, not_or, and_assoc]
    exact and_congr_right fun _ =>
      ⟨fun both own => ⟨both.1 own, both.2 own⟩, fun both => ⟨fun own => (both own).1, fun own => (both own).2⟩⟩

theorem mem_blockedBy_block {e : Endpoint} (mem : y ∈ (h.block s e).fabric.blockedBy x) :
    y ∈ s.fabric.blockedBy x ∨ x = h.id ∧ y = e := by
  rw [block, blockedBy_update] at mem
  by_cases own : x = h.id
  · subst own
    rw [if_pos rfl] at mem
    rw [Fabric.blockedBy]
    cases found : s.fabric.members.get? h.id with
    | none => simp [found] at mem
    | some m =>
      rw [found] at mem
      cases EndpointSet.mem_insert.mp mem with
      | inl new => exact .inr ⟨rfl, new⟩
      | inr old => exact .inl old
  · rw [if_neg own] at mem
    exact .inl mem

theorem mem_blockedBy_disconnected {peers : List Endpoint}
    (mem : y ∈ (h.disconnected peers s).fabric.blockedBy x) :
    y ∈ s.fabric.blockedBy x ∨ x = h.id ∧ y ∈ peers := by
  have fold : ∀ (es : List Endpoint) (s : Seat), y ∈ (es.foldl h.block s).fabric.blockedBy x →
      y ∈ s.fabric.blockedBy x ∨ x = h.id ∧ y ∈ es := by
    intro es
    induction es with
    | nil => exact fun s mem => .inl mem
    | cons e es ih =>
      intro s mem
      rcases ih _ mem with old | ⟨own, rest⟩
      · rcases mem_blockedBy_block old with old | ⟨own, rfl⟩
        · exact .inl old
        · exact .inr ⟨own, List.mem_cons_self⟩
      · exact .inr ⟨own, List.mem_cons_of_mem e rest⟩
  rcases fold _ s mem with old | ⟨own, new⟩
  · exact .inl old
  · exact .inr ⟨own, (List.mem_filter.mp (List.mem_filter.mp new).1).1⟩

theorem failNext_disconnected (h : Handle) (peers : List Endpoint) (s : Seat) :
    (h.disconnected peers s).fabric.failNext = s.fabric.failNext := by
  rw [disconnected]
  generalize (s.commanded.notBlocked peers).filter (fun e => e ≠ h.id) = es
  induction es generalizing s with
  | nil => rfl
  | cons e es ih => exact ih (h.block s e)

theorem failNext_reconnected (h : Handle) (peers : List Endpoint) (s : Seat) :
    (h.reconnected peers s).fabric.failNext = s.fabric.failNext := by
  rw [reconnected]
  induction peers generalizing s with
  | nil => rfl
  | cons e es ih => exact ih (h.unblock s e)

end Handle

/-! ### Links that account for the blocks -/

/-- The links that an attempt to mend has left broken, of those that it was to mend. -/
def unmended (links : List (Nat × Nat)) : Except Failure Unit → List (Nat × Nat)
  | .ok () => []
  | .error _ => links

namespace Fleet
variable {fleet : Fleet} {faults : FaultPolicy} {lab lab' : Lab} {links : List (Nat × Nat)}
  {a b : Nat} {outcome : Except Failure Unit}

/-- Whether every block between the members is one of some links, given by the indices of the member
that blocks and the one that is blocked. -/
structure Accounted (fleet : Fleet) (links : List (Nat × Nat)) (lab : Lab) : Prop where
  there : fleet.There lab
  blocks : ∀ x ∈ fleet.endpoints, ∀ y ∈ lab.fabric.blockedBy x,
    ∃ link ∈ links, fleet.endpoints[link.1]? = some x ∧ fleet.endpoints[link.2]? = some y

theorem Accounted.mono {more : List (Nat × Nat)} (h : fleet.Accounted links lab)
    (sub : ∀ link ∈ links, link ∈ more) : fleet.Accounted more lab where
  there := h.there
  blocks x hx y hy := by
    obtain ⟨link, mem, ends⟩ := h.blocks x hx y hy
    exact ⟨link, sub link mem, ends⟩

theorem Accounted.set_seat {p : Post} {s : Seat} (h : fleet.Accounted links lab)
    (blocks : ∀ x ∈ fleet.endpoints, ∀ y ∈ s.fabric.blockedBy x,
      ∃ link ∈ links, fleet.endpoints[link.1]? = some x ∧ fleet.endpoints[link.2]? = some y) :
    fleet.Accounted links (p.seat.set s lab) where
  there := h.there.set_seat
  blocks := blocks

theorem endpoint_eq {i : Nat} {p : Post} (hp : fleet.posts[i]? = some p) :
    fleet.endpoints[i]? = some p.id := by
  rw [endpoints, List.getElem?_map, hp]
  rfl

/-- What may become of a call that breaks or mends a link: an end of it is not there, or the call is
made to fail, or the blocks of the member at its near end change. -/
theorem result_link {message : String}
    {change : Node Lab → List Endpoint → Attempt Lab Failure Unit} {op : Operation}
    (act : Handle → List Endpoint → Seat → Seat)
    (changes : ∀ (p : Post) es,
      change p.node es = (p.handle.change op (act p.handle es)).focus p.seat)
    (there : fleet.There lab)
    (done : Attempt.result ((fleet.injector faults).link message change a [b] .oneWay) lab =
      (outcome, lab')) :
    ((fleet.posts[a]? = none ∨ fleet.posts[b]? = none) ∧ (∃ e, outcome = .error e) ∧ lab' = lab) ∨
      ∃ p q, fleet.posts[a]? = some p ∧ fleet.posts[b]? = some q ∧
        ((lab.fabric.failNext.contains (p.id, op) = true ∧ (∃ e, outcome = .error e) ∧
            lab' = p.seat.set
              { p.seat.get lab with fabric := lab.fabric.spendFailure p.id op } lab) ∨
          (lab.fabric.failNext.contains (p.id, op) ≠ true ∧ outcome = .ok () ∧
            lab' = p.seat.set (act p.handle [q.id] (p.seat.get lab)) lab)) := by
  rw [Injector.result_link_oneWay, node_injector, node_injector] at done
  cases hp : fleet.posts[a]? with
  | none =>
    simp only [hp] at done
    cases done
    exact .inl ⟨.inl rfl, ⟨_, rfl⟩, rfl⟩
  | some p =>
    cases hq : fleet.posts[b]? with
    | none =>
      simp only [hp, hq] at done
      cases done
      exact .inl ⟨.inr rfl, ⟨_, rfl⟩, rfl⟩
    | some q =>
      right
      refine ⟨p, q, rfl, rfl, ?_⟩
      simp only [hp, hq] at done
      rw [changes, Post.result_change (there p (List.mem_of_getElem? hp))] at done
      split at done
      · rename_i asked
        cases done
        exact .inl ⟨asked, ⟨_, rfl⟩, rfl⟩
      · rename_i clear
        cases done
        exact .inr ⟨clear, rfl, rfl⟩

theorem accounted_healLink (h : fleet.Accounted ((a, b) :: links) lab)
    (done : Attempt.result ((fleet.injector faults).healLink a b) lab = (outcome, lab')) :
    fleet.Accounted (unmended [(a, b)] outcome ++ links) lab' := by
  obtain ⟨-, ⟨e, rfl⟩, rfl⟩ | ⟨p, q, hp, hq, ⟨-, ⟨e, rfl⟩, rfl⟩ | ⟨-, rfl, rfl⟩⟩ :=
    result_link Handle.reconnected (fun _ _ => rfl) h.there done
  · exact h
  · exact h.set_seat h.blocks
  · have kept : fleet.Accounted ((a, b) :: links)
        (p.seat.set (p.handle.reconnected [q.id] (p.seat.get lab)) lab) :=
      h.set_seat fun x hx y hy => h.blocks x hx y (Handle.mem_blockedBy_reconnected.mp hy).1
    refine ⟨kept.there, fun x hx y hy => ?_⟩
    obtain ⟨link, mem, near, far⟩ := kept.blocks x hx y hy
    rcases List.mem_cons.mp mem with rfl | mem
    · rw [endpoint_eq hp] at near
      rw [endpoint_eq hq] at far
      cases near
      cases far
      exact absurd (List.mem_singleton_self _) ((Handle.mem_blockedBy_reconnected.mp hy).2 rfl)
    · exact ⟨link, mem, near, far⟩

theorem accounted_linkFailure (h : fleet.Accounted links lab)
    (done : Attempt.result ((fleet.injector faults).linkFailure a b) lab = (outcome, lab')) :
    (∃ e, outcome = .error e ∧ fleet.Accounted links lab') ∨
      outcome = .ok () ∧ fleet.Accounted ((a, b) :: links) lab' := by
  obtain ⟨-, ⟨e, rfl⟩, rfl⟩ | ⟨p, q, hp, hq, ⟨-, ⟨e, rfl⟩, rfl⟩ | ⟨-, rfl, rfl⟩⟩ :=
    result_link Handle.disconnected (fun _ _ => rfl) h.there done
  · exact .inl ⟨e, rfl, h⟩
  · exact .inl ⟨e, rfl, h.set_seat h.blocks⟩
  · refine .inr ⟨rfl, ?_⟩
    have more : fleet.Accounted ((a, b) :: links) lab := h.mono fun _ => List.mem_cons_of_mem _
    refine more.set_seat fun x hx y hy => ?_
    rcases Handle.mem_blockedBy_disconnected hy with old | ⟨rfl, new⟩
    · exact more.blocks x hx y old
    · rw [List.mem_singleton.mp new]
      exact ⟨(a, b), List.mem_cons_self, endpoint_eq hp, endpoint_eq hq⟩

/-- Whether no member is asked to fail when it is to let a peer through. -/
def Clear (fleet : Fleet) (lab : Lab) : Prop :=
  ∀ e ∈ fleet.endpoints, (e, .reconnect) ∉ lab.fabric.failNext

theorem clear_link {message : String}
    {change : Node Lab → List Endpoint → Attempt Lab Failure Unit} {op : Operation}
    (act : Handle → List Endpoint → Seat → Seat)
    (changes : ∀ (p : Post) es,
      change p.node es = (p.handle.change op (act p.handle es)).focus p.seat)
    (asks : ∀ h es s, (act h es s).fabric.failNext = s.fabric.failNext)
    (there : fleet.There lab) (clear : fleet.Clear lab)
    (done : Attempt.result ((fleet.injector faults).link message change a [b] .oneWay) lab =
      (outcome, lab')) : fleet.There lab' ∧ fleet.Clear lab' := by
  obtain ⟨-, -, rfl⟩ | ⟨p, q, -, -, ⟨-, -, rfl⟩ | ⟨-, -, rfl⟩⟩ := result_link act changes there done
  · exact ⟨there, clear⟩
  · exact ⟨there.set_seat, fun e he mem => clear e he (List.mem_filter.mp mem).1⟩
  · have same : (act p.handle [q.id] (p.seat.get lab)).fabric.failNext = lab.fabric.failNext :=
      asks _ _ _
    exact ⟨there.set_seat, fun e he mem => clear e he (same ▸ mem)⟩

/-- A link between members is mended where no member is asked to fail at that. -/
theorem healLink_ok_of_clear {p q : Post} (there : fleet.There lab) (clear : fleet.Clear lab)
    (hp : fleet.posts[a]? = some p) (hq : fleet.posts[b]? = some q) :
    (Attempt.result ((fleet.injector faults).healLink a b) lab).1 = .ok () := by
  rcases done : Attempt.result ((fleet.injector faults).healLink a b) lab with ⟨outcome, lab'⟩
  obtain ⟨missing, -⟩ | ⟨p', -, hp', -, ⟨asked, -⟩ | ⟨-, ok, -⟩⟩ :=
    result_link Handle.reconnected (fun _ _ => rfl) there done
  · rw [hp, hq] at missing
    rcases missing with missing | missing <;> cases missing
  · rw [hp] at hp'
    cases hp'
    have member : p.id ∈ fleet.endpoints := List.mem_map_of_mem (List.mem_of_getElem? hp)
    exact absurd (List.contains_iff_mem.mp asked) (clear p.id member)
  · exact ok

/-- The ends of a link. -/
def ends (fleet : Fleet) (link : Nat × Nat) : Finset Endpoint :=
  (fleet.endpoints[link.1]?.toList ++ fleet.endpoints[link.2]?.toList).toFinset

theorem ends_eq {link : Nat × Nat} {x y : Endpoint} (near : fleet.endpoints[link.1]? = some x)
    (far : fleet.endpoints[link.2]? = some y) : fleet.ends link = {x, y} := by
  rw [ends, near, far]
  simp

/-- What is broken is among the links that account for the blocks. -/
theorem Accounted.broken (h : fleet.Accounted links lab) {pair : Finset Endpoint}
    (severed : pair ∈ lab.fabric.severedPairs fleet.endpoints) :
    ∃ link ∈ links, pair = fleet.ends link := by
  obtain ⟨⟨sub, card⟩, x, hx, y, hy, apart, broken⟩ := Fabric.mem_severedPairs.mp severed
  have both : pair = {x, y} := by
    refine (Finset.eq_of_subset_of_card_le ?_ ?_).symm
    · exact Finset.insert_subset hx (Finset.singleton_subset_iff.mpr hy)
    · rw [card, Finset.card_pair apart]
  have member : ∀ e ∈ pair, e ∈ fleet.endpoints := fun e he => List.mem_toFinset.mp (sub he)
  rcases broken with block | block
  · obtain ⟨link, mem, near, far⟩ := h.blocks x (member x hx) y block
    exact ⟨link, mem, both.trans (ends_eq near far).symm⟩
  · obtain ⟨link, mem, near, far⟩ := h.blocks y (member y hy) x block
    refine ⟨link, mem, both.trans ?_⟩
    rw [ends_eq near far, Finset.pair_comm]

/-- There are no more broken links than links that account for the blocks. -/
theorem Accounted.card_le (h : fleet.Accounted links lab) :
    (lab.fabric.severedPairs fleet.endpoints).card ≤ links.length := by
  have sub : lab.fabric.severedPairs fleet.endpoints ⊆ (links.map fleet.ends).toFinset := by
    intro pair severed
    obtain ⟨link, mem, rfl⟩ := h.broken severed
    exact List.mem_toFinset.mpr (List.mem_map_of_mem mem)
  have few := (links.map fleet.ends).toFinset_card_le
  rw [List.length_map] at few
  exact (Finset.card_le_card sub).trans few

end Fleet

/-! ### Rounds of a rotation -/

/-- A rotation through the links of a lab, and the links that it has lost: when mending its active
link fails, a rotation counts this link as whole all the same. -/
structure Round where
  lab : Lab
  rotation : Rotation
  lost : List (Nat × Nat)

namespace Round
variable {fleet : Fleet} {faults : FaultPolicy} {w : Round} {lab : Lab} {pairs : List (Nat × Nat)}

/-- A round through some links. -/
def begin (pairs : List (Nat × Nat)) (lab : Lab) : Round := ⟨lab, .ofPairs pairs, []⟩

/-- What can happen in a round. -/
inductive Prompt where
  /-- A test sets something. -/
  | set (s : Setting)
  /-- The rotation is to go on. -/
  | step
  /-- The rotation is to end. -/
  | finish

/-- The links that a round loses if the active link is mended now. -/
def missed (inj : Injector Lab) (w : Round) : List (Nat × Nat) :=
  unmended w.rotation.active.toList (Attempt.result (w.rotation.mend inj) w.lab).1

/-- The round after a prompt. -/
def perform (inj : Injector Lab) (w : Round) : Prompt → Round
  | .set s => { w with lab := w.lab.onFabric s.apply }
  | .step =>
    let ((_, r), lab) := (w.rotation.step inj).result w.lab
    ⟨lab, r, w.missed inj ++ w.lost⟩
  | .finish =>
    let ((_, r), lab) := (w.rotation.finish inj).result w.lab
    ⟨lab, r, w.missed inj ++ w.lost⟩

/-- The round after some prompts. -/
def after (inj : Injector Lab) (w : Round) (prompts : List Prompt) : Round :=
  prompts.foldl (perform inj) w

/-- The active link of a round, and those that it has lost. -/
def links (w : Round) : List (Nat × Nat) := w.rotation.active.toList ++ w.lost

theorem accounted_mend (faults : FaultPolicy) (h : fleet.Accounted w.links w.lab) :
    fleet.Accounted (w.missed (fleet.injector faults) ++ w.lost)
      (Attempt.result (w.rotation.mend (fleet.injector faults)) w.lab).2 := by
  rw [links] at h
  rw [missed, Rotation.mend]
  cases active : w.rotation.active with
  | none =>
    rw [active] at h
    exact h
  | some link =>
    rw [active] at h
    exact Fleet.accounted_healLink h rfl

/-- A prompt keeps the account of the blocks. -/
theorem accounted_perform (h : fleet.Accounted w.links w.lab) (prompt : Prompt) :
    fleet.Accounted (w.perform (fleet.injector faults) prompt).links
      (w.perform (fleet.injector faults) prompt).lab := by
  cases prompt with
  | set s =>
    refine ⟨h.there, fun x hx y hy => h.blocks x hx y ?_⟩
    have members := (Lab.kept_apply s w.lab.fabric).2
    rw [Fabric.blockedBy, ← members]
    exact hy
  | finish =>
    rw [perform, Rotation.result_finish]
    exact accounted_mend faults h
  | step =>
    rw [perform, Rotation.result_step]
    cases next : w.rotation.pairs[w.rotation.next]? with
    | none =>
      refine h.mono fun link mem => ?_
      rcases List.mem_append.mp mem with active | lost
      · exact List.mem_append_left _ active
      · exact List.mem_append_right _ (List.mem_append_right _ lost)
    | some link =>
      obtain ⟨a, b⟩ := link
      have kept := accounted_mend faults h
      rcases mended : Attempt.result (w.rotation.mend (fleet.injector faults)) w.lab with ⟨outcome, t⟩
      rw [mended] at kept
      cases outcome with
      | error e =>
        exact kept
      | ok _ =>
        rcases broken : Attempt.result ((fleet.injector faults).linkFailure a b) t with ⟨outcome, u⟩
        obtain ⟨e, rfl, same⟩ | ⟨rfl, more⟩ := Fleet.accounted_linkFailure kept broken
        · simp only [broken]
          exact same
        · simp only [broken]
          exact more

theorem accounted_after (faults : FaultPolicy) (h : fleet.Accounted w.links w.lab)
    (prompts : List Prompt) :
    fleet.Accounted (w.after (fleet.injector faults) prompts).links
      (w.after (fleet.injector faults) prompts).lab := by
  induction prompts generalizing w with
  | nil => exact h
  | cons prompt prompts ih => exact ih (accounted_perform h prompt)

/-- A round in which nobody is asked to fail at mending, the active link is one between members and
nothing is lost. -/
structure Gentle (fleet : Fleet) (w : Round) : Prop where
  there : fleet.There w.lab
  clear : fleet.Clear w.lab
  inside : ∀ link ∈ w.rotation.active, ∃ p q, fleet.posts[link.1]? = some p ∧
    fleet.posts[link.2]? = some q
  lost : w.lost = []

namespace Gentle

theorem mend (faults : FaultPolicy) (h : w.Gentle fleet) :
    (Attempt.result (w.rotation.mend (fleet.injector faults)) w.lab).1 = .ok () ∧
      fleet.There (Attempt.result (w.rotation.mend (fleet.injector faults)) w.lab).2 ∧
      fleet.Clear (Attempt.result (w.rotation.mend (fleet.injector faults)) w.lab).2 := by
  rw [Rotation.mend]
  cases active : w.rotation.active with
  | none => exact ⟨rfl, h.there, h.clear⟩
  | some link =>
    obtain ⟨p, q, hp, hq⟩ := h.inside link active
    refine ⟨Fleet.healLink_ok_of_clear h.there h.clear hp hq, ?_⟩
    exact Fleet.clear_link Handle.reconnected (fun _ _ => rfl)
      Handle.failNext_reconnected h.there h.clear rfl

theorem missed_eq_nil (faults : FaultPolicy) (h : w.Gentle fleet) :
    w.missed (fleet.injector faults) = [] := by
  rw [missed, (h.mend faults).1]
  rfl

/-- A prompt that asks nobody to fail at mending leaves a round gentle. -/
theorem perform {prompt : Prompt} (h : w.Gentle fleet)
    (calm : ∀ e ∈ fleet.endpoints, prompt ≠ .set (.failOnce e .reconnect)) :
    (w.perform (fleet.injector faults) prompt).Gentle fleet := by
  obtain ⟨mended, there, clear⟩ := h.mend faults
  have missed := h.missed_eq_nil faults
  have idle : ∀ link ∈ (none : Option (Nat × Nat)), ∃ p q, fleet.posts[link.1]? = some p ∧
      fleet.posts[link.2]? = some q := by
    rintro link ⟨⟩
  cases prompt with
  | set s =>
    refine ⟨h.there, fun e he => ?_, h.inside, h.lost⟩
    cases s with
    | failOnce x op =>
      change _ ∉ (Fabric.failOnce x op w.lab.fabric).failNext
      rw [Fabric.failOnce]
      split
      · exact h.clear e he
      · rw [List.mem_cons, not_or]
        refine ⟨?_, h.clear e he⟩
        rintro ⟨⟩
        exact calm e he rfl
    | _ => exact h.clear e he
  | finish =>
    rw [Round.perform, Rotation.result_finish, missed]
    exact ⟨there, clear, idle, h.lost⟩
  | step =>
    rw [Round.perform, Rotation.result_step, missed]
    cases next : w.rotation.pairs[w.rotation.next]? with
    | none => exact h
    | some link =>
      obtain ⟨a, b⟩ := link
      rcases result : Attempt.result (w.rotation.mend (fleet.injector faults)) w.lab with ⟨_, t⟩
      rw [result] at mended there clear
      cases mended
      rcases broken : Attempt.result ((fleet.injector faults).linkFailure a b) t with ⟨outcome, u⟩
      obtain ⟨there, clear⟩ := Fleet.clear_link Handle.disconnected (fun _ _ => rfl)
        Handle.failNext_disconnected there clear broken
      obtain ⟨-, ⟨e, rfl⟩, -⟩ | ⟨p, q, hp, hq, ⟨-, ⟨e, rfl⟩, -⟩ | ⟨-, rfl, -⟩⟩ :=
        Fleet.result_link Handle.disconnected (fun _ _ => rfl) ‹fleet.There t› broken
      · simp only [broken]
        exact ⟨there, clear, idle, h.lost⟩
      · simp only [broken]
        exact ⟨there, clear, idle, h.lost⟩
      · simp only [broken]
        refine ⟨there, clear, ?_, h.lost⟩
        rintro link ⟨⟩
        exact ⟨p, q, hp, hq⟩

theorem after (faults : FaultPolicy) {prompts : List Prompt} (h : w.Gentle fleet)
    (calm : ∀ prompt ∈ prompts, ∀ e ∈ fleet.endpoints, prompt ≠ .set (.failOnce e .reconnect)) :
    (w.after (fleet.injector faults) prompts).Gentle fleet := by
  induction prompts generalizing w with
  | nil => exact h
  | cons prompt prompts ih =>
    refine ih (h.perform (calm prompt List.mem_cons_self)) fun other mem => ?_
    exact calm other (List.mem_cons_of_mem _ mem)

end Gentle

/-- **What a rotation leaves broken.**  In a round that begins with whole links, whatever fails: every
link that is broken between the members is the active one or a lost one, so at most one more is
broken than were lost, and an end that succeeds leaves lost links alone.  No link is lost unless a
call that mends is made to fail. -/
theorem broken_links_active_or_lost (there : fleet.There lab)
    (whole : ∀ e ∈ fleet.endpoints, lab.fabric.blockedBy e = .empty) (prompts : List Prompt)
    (run : (begin pairs lab).after (fleet.injector faults) prompts = w) :
    (∀ pair ∈ w.lab.fabric.severedPairs fleet.endpoints,
        ∃ link, (w.rotation.active = some link ∨ link ∈ w.lost) ∧ pair = fleet.ends link) ∧
      (w.lab.fabric.severedPairs fleet.endpoints).card ≤ 1 + w.lost.length ∧
      (∀ r lab', (w.rotation.finish (fleet.injector faults)).result w.lab = ((.ok (), r), lab') →
        ∀ pair ∈ lab'.fabric.severedPairs fleet.endpoints, ∃ link ∈ w.lost, pair = fleet.ends link) ∧
      (fleet.Clear lab → (∀ prompt ∈ prompts, ∀ e ∈ fleet.endpoints,
        prompt ≠ .set (.failOnce e .reconnect)) → w.lost = []) := by
  have start : fleet.Accounted (begin pairs lab).links (begin pairs lab).lab := by
    refine ⟨there, fun x hx y hy => ?_⟩
    have none : y ∈ lab.fabric.blockedBy x := hy
    rw [whole x hx] at none
    exact absurd none (EndpointSet.not_mem_empty y)
  have account := accounted_after faults start prompts
  rw [run] at account
  refine ⟨fun pair severed => ?_, ?_, fun r lab' finished pair severed => ?_, fun clear calm => ?_⟩
  · obtain ⟨link, mem, ends⟩ := account.broken severed
    refine ⟨link, ?_, ends⟩
    rcases List.mem_append.mp mem with active | lost
    · exact .inl (Option.mem_toList.mp active)
    · exact .inr lost
  · have few := account.card_le
    have single : w.rotation.active.toList.length ≤ 1 := by
      cases w.rotation.active <;> simp
    rw [links, List.length_append] at few
    omega
  · rw [Rotation.result_finish] at finished
    simp only [Prod.mk.injEq] at finished
    obtain ⟨⟨mended, -⟩, rfl⟩ := finished
    have left := accounted_mend faults account
    rw [missed, mended] at left
    exact left.broken severed
  · have gentle : (begin pairs lab).Gentle fleet := by
      refine ⟨there, clear, ?_, rfl⟩
      rintro link ⟨⟩
    have still := gentle.after faults calm
    rw [run] at still
    exact still.lost

end Round

/-- Three members of a simulated cluster. -/
def trio : Fleet where
  posts := (List.range 3).map fun k => ⟨k, ⟨endpointAt k 9000, .container⟩⟩
  numbers := by decide
  ids := by decide +kernel

/-- The lab of the three members. -/
def Lab.ofTrio : Lab :=
  empty.after ((List.range 3).map fun k => .provision .container k (.simulated 3))

/-- The first mending is made to fail. -/
def slip : List Round.Prompt :=
  [.step, .set (.failOnce (endpointAt 0 9000) .reconnect), .step, .step]

/-- The round of `slip` through two links. -/
def Round.ofSlip : Round := (begin [(0, 1), (1, 2)] .ofTrio).after (trio.injector .default) slip

theorem Round.broken_links_active_or_lost_slip :
    trio.There .ofTrio ∧ (∀ e ∈ trio.endpoints, Lab.ofTrio.fabric.blockedBy e = .empty) ∧
      Round.ofSlip.lost = [(0, 1)] ∧
      ∀ pair ∈ Round.ofSlip.lab.fabric.severedPairs trio.endpoints, ∃ link,
        (Round.ofSlip.rotation.active = some link ∨ link ∈ Round.ofSlip.lost) ∧
          pair = trio.ends link := by
  have there : trio.There .ofTrio := by
    rw [Fleet.There]
    decide +kernel
  have whole : ∀ e ∈ trio.endpoints, Lab.ofTrio.fabric.blockedBy e = .empty := by decide +kernel
  have lost : Round.ofSlip.lost = [(0, 1)] := by decide +kernel
  exact ⟨there, whole, lost, (broken_links_active_or_lost there whole slip rfl).1⟩

/-- A mending that fails costs a link: two links are broken at once, and one of them stays broken when
the rotation has ended with success. -/
theorem rotation_loses_link :
    (Round.ofSlip.lab.fabric.severedPairs trio.endpoints).card = 2 ∧
      Round.ofSlip.rotation.active = some (1, 2) ∧
      ((Round.ofSlip.rotation.finish (trio.injector .default)).result
        Round.ofSlip.lab).1.1.toOption = some () ∧
      ((Round.ofSlip.perform (trio.injector .default) .finish).lab.fabric.severedPairs
        trio.endpoints).card = 1 := by
  decide +kernel

end FaultLab.Simulation
