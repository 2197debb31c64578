import FaultLab.Proofs.Undoing
import Mathlib.Data.List.Rotate
import Mathlib.Data.Sym.Sym2

/-! # The circuit of a rotation

A rotation whose calls do not fail goes through its links in order, and around.

* `Round.Walks` is the invariant of a round after some steps: the rotation is to go on with the link
  whose turn it is, and what is broken beyond what was broken before is the active link.  Each prompt
  keeps it (`Walks.step`, `Walks.finish`, `Walks.set`), and so does a round (`Walks.after`), which also
  knows all answers by then.
* The answers to as many steps as there are links are the links, rotated (`answers_eq_rotate`).  In a
  ring every link is there once, and every member is at the end of two (`countP_ring_link`,
  `countP_ring_end`).
* `Round.walks_in_circles` puts it together. -/

namespace FaultLab

/-! ### Links of a ring -/

theorem countP_eq_length {α : Type} {P : α → Bool} {as : List α} (es : List α) (nodup : as.Nodup)
    (nodup' : es.Nodup) (sub : ∀ a ∈ es, a ∈ as) (same : ∀ a ∈ as, P a = true ↔ a ∈ es) :
    as.countP P = es.length := by
  rw [List.countP_eq_length_filter]
  apply List.Perm.length_eq
  rw [List.perm_ext_iff_of_nodup (nodup.filter P) nodup']
  intro a
  rw [List.mem_filter]
  exact ⟨fun both => (same a both.1).mp both.2, fun mem => ⟨sub a mem, (same a (sub a mem)).mpr mem⟩⟩

theorem succ_mod {i n : Nat} (h : i < n) : (i + 1) % n = if i + 1 = n then 0 else i + 1 := by
  split
  · rename_i last
    rw [last, Nat.mod_self]
  · apply Nat.mod_eq_of_lt
    omega

namespace Rotation

theorem pairs_ring {n : Nat} (many : 3 ≤ n) :
    (ring n).pairs = (List.range n).map fun i => (i, (i + 1) % n) := by
  have notFew : ¬ n < 2 := by omega
  have notTwo : n ≠ 2 := by omega
  simp [ring, ofPairs, notFew, notTwo]

theorem length_pairs_ring {n : Nat} (many : 3 ≤ n) : (ring n).pairs.length = n := by
  rw [pairs_ring many, List.length_map, List.length_range]

theorem countP_ring_link {n i : Nat} (many : 3 ≤ n) (inside : i < n) :
    (ring n).pairs.countP (fun link => s(link.1, link.2) = s(i, (i + 1) % n)) = 1 := by
  rw [pairs_ring many, List.countP_map]
  refine countP_eq_length [i] List.nodup_range (List.nodup_singleton i) ?_ ?_
  · intro j mem
    rw [List.mem_singleton.mp mem]
    exact List.mem_range.mpr inside
  · intro j mem
    have there : j < n := List.mem_range.mp mem
    rw [List.mem_singleton, Function.comp, decide_eq_true_eq, Sym2.eq_iff, succ_mod there,
      succ_mod inside]
    constructor
    · rintro (⟨same, -⟩ | ⟨turned, back⟩)
      · exact same
      · -- A link and its reverse are both there in a ring of two only.
        exfalso
        by_cases last : i + 1 = n
        · rw [if_pos last] at turned
          split at back <;> omega
        · rw [if_neg last] at turned
          split at back <;> omega
    · rintro rfl
      exact .inl ⟨rfl, rfl⟩

theorem countP_ring_end {n i : Nat} (many : 3 ≤ n) (inside : i < n) :
    (ring n).pairs.countP (fun link => i = link.1 ∨ i = link.2) = 2 := by
  rw [pairs_ring many, List.countP_map]
  -- The member before this one.
  obtain ⟨p, before⟩ : ∃ p, p = if i = 0 then n - 1 else i - 1 := ⟨_, rfl⟩
  have bound : p < n := by
    split at before <;> omega
  have other : p ≠ i := by
    split at before <;> omega
  refine countP_eq_length [i, p] List.nodup_range ?_ ?_ ?_
  · simp [other.symm]
  · intro j mem
    rw [List.mem_range]
    rcases List.mem_pair.mp mem with rfl | rfl
    · exact inside
    · exact bound
  · intro j mem
    have there : j < n := List.mem_range.mp mem
    rw [List.mem_pair, Function.comp, decide_eq_true_eq, succ_mod there]
    split at before <;> split <;> omega

end Rotation

namespace Simulation

namespace Fleet
variable {fleet : Fleet} {lab : Lab} {inj : Injector Lab} {link : Nat × Nat}

/-! ### Breaking and mending one link, exactly -/

/-- Whether a link leads from one endpoint to another. -/
def Link (fleet : Fleet) (link : Nat × Nat) (x y : Endpoint) : Prop :=
  fleet.endpoints[link.1]? = some x ∧ fleet.endpoints[link.2]? = some y

/-- Whether no member is asked to fail when it is to block a peer or to let one through. -/
def Willing (fleet : Fleet) (lab : Lab) : Prop := ∀ e ∈ fleet.endpoints,
  (e, .disconnect) ∉ lab.fabric.failNext ∧ (e, .reconnect) ∉ lab.fabric.failNext

/-- Whether a link is one between two members. -/
def Joins (fleet : Fleet) (link : Nat × Nat) : Prop :=
  link.1 ≠ link.2 ∧ link.1 < fleet.posts.length ∧ link.2 < fleet.posts.length

theorem joins_ring {n : Nat} (many : 3 ≤ n) (inside : n ≤ fleet.posts.length) :
    ∀ link ∈ (Rotation.ring n).pairs, fleet.Joins link := by
  intro link mem
  rw [Rotation.pairs_ring many] at mem
  obtain ⟨i, among, rfl⟩ := List.mem_map.mp mem
  have bound : i < n := List.mem_range.mp among
  unfold Joins
  simp only [succ_mod bound]
  split <;> omega

theorem Spares.willing {lab' : Lab} (spares : fleet.Spares lab lab') (willing : fleet.Willing lab) :
    fleet.Willing lab' := by
  unfold Willing
  rw [spares.stirs.fabric.rest]
  exact willing

theorem Joins.between_iff (joins : fleet.Joins link) {x y : Endpoint} :
    fleet.Between link.1 [link.2] .oneWay x y ↔ fleet.Link link x y := by
  simp only [Between, Asked, Leads, Link, List.mem_singleton, exists_eq_left, reduceCtorEq, false_and,
    or_false]
  refine and_iff_right_of_imp ?_
  rintro ⟨near, far⟩ rfl
  have bound : link.1 < fleet.endpoints.length := by
    rw [endpoints, List.length_map]
    exact joins.2.1
  exact joins.1 ((List.getElem?_inj bound fleet.ids).mp (near.trans far.symm))

section link
variable (agree : fleet.Agree lab) (nodes : inj.nodes = fleet.nodes) (joins : fleet.Joins link)
  (willing : fleet.Willing lab)
include nodes joins

theorem Joins.inside : ∀ j ∈ [link.1, link.2], j < inj.nodes.length := by
  intro j mem
  rw [nodes, Fleet.nodes, List.length_map]
  rcases List.mem_pair.mp mem with rfl | rfl
  · exact joins.2.1
  · exact joins.2.2

include agree willing

theorem linkFailure_exact : ∃ cut, (inj.linkFailure link.1 link.2).result lab = (.ok (), cut) ∧
    fleet.Spares lab cut ∧ ∀ x y, cut.fabric.bars x y ↔ lab.fabric.bars x y ∨ fleet.Link link x y := by
  obtain ⟨cut, done, spares, bars⟩ := disconnect_exact agree nodes (joins.inside nodes)
    (fun e he => (willing e he).1) .oneWay
  refine ⟨cut, done, spares, fun x y => ?_⟩
  rw [bars, joins.between_iff]

theorem healLink_exact : ∃ mended, (inj.healLink link.1 link.2).result lab = (.ok (), mended) ∧
    fleet.Spares lab mended ∧
      ∀ x y, mended.fabric.bars x y ↔ lab.fabric.bars x y ∧ ¬ fleet.Link link x y := by
  obtain ⟨mended, done, spares, bars⟩ := reconnect_exact agree nodes (joins.inside nodes)
    (fun e he => (willing e he).2) .oneWay
  refine ⟨mended, done, spares, fun x y => ?_⟩
  rw [bars, joins.between_iff]

end link

end Fleet

/-! ### Rounds that nothing disturbs -/

namespace Round
variable {fleet : Fleet} {inj : Injector Lab} {w : Round} {pairs : List (Nat × Nat)} {k : Nat}
  {bars : Endpoint → Endpoint → Prop} {prompts : List Prompt}

namespace Prompt

/-- Whether a prompt tells the rotation to go on. -/
def isStep : Prompt → Bool
  | step => true
  | _ => false

/-- Whether a prompt asks no member to fail when it is to block a peer or to let one through. -/
def Quiet (fleet : Fleet) : Prompt → Prop
  | set (.failOnce e op) => e ∈ fleet.endpoints → op ≠ .disconnect ∧ op ≠ .reconnect
  | _ => True

end Prompt

/-- How often a rotation is told to go on. -/
def steps (prompts : List Prompt) : Nat := prompts.countP Prompt.isStep

/-- What a rotation answers each time that it is told to go on. -/
def answers (inj : Injector Lab) (w : Round) :
    List Prompt → List (Except Failure (Option (Nat × Nat)))
  | [] => []
  | .step :: prompts =>
    ((w.rotation.step inj).result w.lab).1.1 :: answers inj (w.perform inj .step) prompts
  | prompt :: prompts => answers inj (w.perform inj prompt) prompts

/-- A round that has gone some steps through some links: it goes on with the link whose turn it is, and
beyond some other blocks there are those of the active link. -/
structure Walks (fleet : Fleet) (pairs : List (Nat × Nat)) (bars : Endpoint → Endpoint → Prop) (k : Nat)
    (w : Round) : Prop where
  agree : fleet.Agree w.lab
  willing : fleet.Willing w.lab
  links : w.rotation.pairs = pairs
  next : w.rotation.next = k % pairs.length
  active : ∀ link ∈ w.rotation.active, link ∈ pairs
  blocks : ∀ x y, w.lab.fabric.bars x y ↔ bars x y ∨ ∃ link ∈ w.rotation.active, fleet.Link link x y

namespace Walks

/-- A round walks whatever it has lost. -/
theorem congr {w' : Round} (h : w.Walks fleet pairs bars k) (lab : w'.lab = w.lab)
    (rotation : w'.rotation = w.rotation) : w'.Walks fleet pairs bars k := by
  obtain ⟨left, _, _⟩ := w
  obtain ⟨left', _, _⟩ := w'
  cases lab
  cases rotation
  exact ⟨h.agree, h.willing, h.links, h.next, h.active, h.blocks⟩

section
variable (nodes : inj.nodes = fleet.nodes) (joins : ∀ link ∈ pairs, fleet.Joins link)
  (whole : ∀ x ∈ fleet.endpoints, ∀ y ∈ fleet.endpoints, ¬ bars x y)
include nodes joins whole

/-- Once its active link is mended, a round leaves nothing broken. -/
theorem mend (h : w.Walks fleet pairs bars k) :
    ∃ mended, (w.rotation.mend inj).result w.lab = (.ok (), mended) ∧ fleet.Agree mended ∧
      fleet.Willing mended ∧ ∀ x y, mended.fabric.bars x y ↔ bars x y := by
  rw [Rotation.mend]
  cases active : w.rotation.active with
  | none =>
    refine ⟨w.lab, rfl, h.agree, h.willing, fun x y => ?_⟩
    rw [h.blocks, active]
    simp
  | some link =>
    have mem := h.active link active
    obtain ⟨mended, done, spares, moved⟩ := Fleet.healLink_exact h.agree nodes (joins link mem) h.willing
    refine ⟨mended, done, spares.agree, spares.willing h.willing, fun x y => ?_⟩
    rw [moved, h.blocks, active]
    constructor
    · rintro ⟨old | ⟨link', here, broken⟩, through⟩
      · exact old
      · cases here
        exact absurd broken through
    · intro old
      refine ⟨.inl old, fun broken => ?_⟩
      exact whole x (List.mem_of_getElem? broken.1) y (List.mem_of_getElem? broken.2) old

/-- A step breaks the link whose turn it is, and no other remains broken. -/
theorem step (h : w.Walks fleet pairs bars k) (filled : pairs ≠ []) :
    ∃ link lab', pairs[k % pairs.length]? = some link ∧
      (w.rotation.step inj).result w.lab =
        ((.ok (some link), ⟨pairs, (k + 1) % pairs.length, some link⟩), lab') ∧
      (w.perform inj .step).lab = lab' ∧
      (w.perform inj .step).rotation = ⟨pairs, (k + 1) % pairs.length, some link⟩ ∧
      (w.perform inj .step).Walks fleet pairs bars (k + 1) := by
  have bound : k % pairs.length < pairs.length := Nat.mod_lt k (List.length_pos_iff.mpr filled)
  obtain ⟨link, here⟩ : ∃ link, pairs[k % pairs.length]? = some link :=
    ⟨_, List.getElem?_eq_getElem bound⟩
  have mem := List.mem_of_getElem? here
  obtain ⟨mended, mends, agree, willing, left⟩ := h.mend nodes joins whole
  obtain ⟨cut, breaks, spares, moved⟩ := Fleet.linkFailure_exact agree nodes (joins link mem) willing
  have stepped : (w.rotation.step inj).result w.lab =
      ((.ok (some link), ⟨pairs, (k + 1) % pairs.length, some link⟩), cut) := by
    rw [Rotation.result_step, h.links, h.next, here]
    simp only [mends, breaks, Nat.mod_add_mod]
  have lab : (w.perform inj .step).lab = cut := by
    rw [perform, stepped]
  have rotation : (w.perform inj .step).rotation = ⟨pairs, (k + 1) % pairs.length, some link⟩ := by
    rw [perform, stepped]
  refine ⟨link, cut, here, stepped, lab, rotation, ?_⟩
  refine Walks.congr (w := ⟨cut, ⟨pairs, (k + 1) % pairs.length, some link⟩, []⟩) ?_ lab rotation
  refine ⟨spares.agree, spares.willing willing, rfl, rfl, ?_, fun x y => ?_⟩
  · rintro _ ⟨⟩
    exact mem
  · change cut.fabric.bars x y ↔ _
    rw [moved, left]
    simp

/-- An end leaves nothing broken, and the rotation may go on where it was. -/
theorem finish (h : w.Walks fleet pairs bars k) :
    ∃ mended, (w.rotation.finish inj).result w.lab =
        ((.ok (), { w.rotation with active := none }), mended) ∧
      (∀ x y, mended.fabric.bars x y ↔ bars x y) ∧
      (w.perform inj .finish).Walks fleet pairs bars k := by
  obtain ⟨mended, mends, agree, willing, left⟩ := h.mend nodes joins whole
  have finished : (w.rotation.finish inj).result w.lab =
      ((.ok (), { w.rotation with active := none }), mended) := by
    rw [Rotation.result_finish, mends]
  refine ⟨mended, finished, left, ?_⟩
  refine Walks.congr (w := ⟨mended, { w.rotation with active := none }, []⟩) ?_ ?_ ?_
  · refine ⟨agree, willing, h.links, h.next, ?_, fun x y => ?_⟩
    · rintro _ ⟨⟩
    · change mended.fabric.bars x y ↔ _
      rw [left]
      simp
  · rw [perform, finished]
  · rw [perform, finished]

omit nodes joins whole in
/-- A setting that disturbs no link changes nothing of this. -/
theorem set {s : Setting} (h : w.Walks fleet pairs bars k) (quiet : (Prompt.set s).Quiet fleet) :
    (w.perform inj (.set s)).Walks fleet pairs bars k := by
  have members := (Lab.kept_apply s w.lab.fabric).2
  refine ⟨fun p hp => ?_, fun e he => ?_, h.links, h.next, h.active, fun x y => ?_⟩
  · exact (h.agree p hp).of_sameGround (fun _ _ _ => Agrees.resets) rfl (.of_members members)
  · have calm := h.willing e he
    cases s with
    | failOnce x op =>
      change _ ∉ (Fabric.failOnce x op w.lab.fabric).failNext ∧
        _ ∉ (Fabric.failOnce x op w.lab.fabric).failNext
      unfold Fabric.failOnce
      split
      · exact calm
      · simp only [List.mem_cons, Prod.mk.injEq, not_or]
        refine ⟨⟨?_, calm.1⟩, ?_, calm.2⟩
        · rintro ⟨rfl, rfl⟩
          exact (quiet he).1 rfl
        · rintro ⟨rfl, rfl⟩
          exact (quiet he).2 rfl
    | _ => exact calm
  · have same : (w.perform inj (.set s)).lab.fabric.bars x y ↔ w.lab.fabric.bars x y := by
      change y ∈ (s.apply w.lab.fabric).blockedBy x ↔ y ∈ w.lab.fabric.blockedBy x
      rw [Fabric.blockedBy, members]
      rfl
    rw [same]
    exact h.blocks x y

/-- A round goes one link further with each step, whatever else happens. -/
theorem after (h : w.Walks fleet pairs bars k) (filled : pairs ≠ [])
    (quiet : ∀ prompt ∈ prompts, prompt.Quiet fleet) :
    (w.after inj prompts).Walks fleet pairs bars (k + steps prompts) ∧
      w.answers inj prompts =
        (List.range (steps prompts)).map fun j => .ok pairs[(k + j) % pairs.length]? := by
  induction prompts generalizing w k with
  | nil => exact ⟨h, rfl⟩
  | cons prompt prompts ih =>
    have later : ∀ prompt ∈ prompts, prompt.Quiet fleet := fun other mem =>
      quiet other (List.mem_cons_of_mem prompt mem)
    cases prompt with
    | set s => exact ih (h.set (quiet _ List.mem_cons_self)) later
    | finish =>
      obtain ⟨-, -, -, walks⟩ := h.finish nodes joins whole
      exact ih walks later
    | step =>
      obtain ⟨link, lab', here, stepped, -, -, walks⟩ := h.step nodes joins whole filled
      obtain ⟨walks', rest⟩ := ih walks later
      have more : steps (.step :: prompts) = steps prompts + 1 :=
        List.countP_cons_of_pos rfl
      have further : k + 1 + steps prompts = k + (steps prompts + 1) := by omega
      rw [further] at walks'
      rw [more]
      refine ⟨walks', ?_⟩
      have first : pairs[(k + 0) % pairs.length]? = some link := here
      rw [answers, stepped, rest, List.range_succ_eq_map, List.map_cons, List.map_map, first]
      refine congrArg _ (List.map_congr_left fun j _ => ?_)
      have next : k + 1 + j = k + (j + 1) := by omega
      rw [Function.comp, next]

end

end Walks

theorem walks_begin {lab : Lab} (agree : fleet.Agree lab) (willing : fleet.Willing lab)
    (pairs : List (Nat × Nat)) : (begin pairs lab).Walks fleet pairs lab.fabric.bars 0 := by
  refine ⟨agree, willing, rfl, (Nat.zero_mod _).symm, ?_, fun x y => ?_⟩
  · rintro _ ⟨⟩
  · change lab.fabric.bars x y ↔ _
    simp [begin, Rotation.ofPairs]

/-- As many steps as there are links answer all of them, from the one whose turn it is. -/
theorem answers_eq_rotate (k : Nat) (links : List (Nat × Nat)) :
    ((List.range links.length).map fun j => (.ok links[(k + j) % links.length]? :
      Except Failure (Option (Nat × Nat)))) = (links.rotate k).map fun link => .ok (some link) := by
  apply List.ext_getElem
  · simp
  · intro j _ inside
    rw [List.length_map, List.length_rotate] at inside
    have bound : (j + k) % links.length < links.length := Nat.mod_lt _ (Nat.zero_lt_of_lt inside)
    rw [List.getElem_map, List.getElem_map, List.getElem_range, List.getElem_rotate, Nat.add_comm k j,
      List.getElem?_eq_getElem bound]

/-- **A rotation walks its links in order, and around.**  On members that were left to their handles and
block none of each other, whatever state they are in, where no call is asked to fail:

* a rotation through some links breaks the one whose turn it is each time that it is told to go on, and
  then this link alone is broken; if it is told to end, none is broken, and it goes on afterwards with the
  next one;
* as many consecutive steps through a ring as it has members break every link between two neighbours
  once, and each member is at the end of two of these links.

A rotation without links does nothing. -/
theorem walks_in_circles {posts : List Post} {fleet : Fleet} {inj : Injector Lab} {lab : Lab}
    (tended : Lab.Tended posts lab) (ours : ∀ p ∈ fleet.posts, p ∈ posts)
    (nodes : inj.nodes = fleet.nodes)
    (whole : ∀ x ∈ fleet.endpoints, ∀ y ∈ fleet.endpoints, y ∉ lab.fabric.blockedBy x)
    (willing : fleet.Willing lab) :
    (∀ pairs : List (Nat × Nat), pairs ≠ [] → (∀ link ∈ pairs, fleet.Joins link) →
      ∀ prompts : List Prompt, (∀ prompt ∈ prompts, prompt.Quiet fleet) →
      ∀ w, (begin pairs lab).after inj prompts = w → ∃ link r broken ended,
        pairs[steps prompts % pairs.length]? = some link ∧
        (w.rotation.step inj).result w.lab = ((.ok (some link), r), broken) ∧
        (∀ x ∈ fleet.endpoints, ∀ y ∈ fleet.endpoints,
          y ∈ broken.fabric.blockedBy x ↔ fleet.Link link x y) ∧
        (r.finish inj).result broken = ((.ok (), { r with active := none }), ended) ∧
        ∀ x ∈ fleet.endpoints, ∀ y ∈ fleet.endpoints, y ∉ ended.fabric.blockedBy x) ∧
    (∀ n, 3 ≤ n → n ≤ inj.nodes.length → ∀ earlier during : List Prompt,
      (∀ prompt ∈ earlier ++ during, prompt.Quiet fleet) → steps during = n → ∃ links : List (Nat × Nat),
        (after inj ⟨lab, .ring n, []⟩ earlier).answers inj during =
          links.map (fun link => .ok (some link)) ∧
        (∀ i < n, links.countP (fun link => s(link.1, link.2) = s(i, (i + 1) % n)) = 1) ∧
        ∀ i < n, links.countP (fun link => i = link.1 ∨ i = link.2) = 2) ∧
    ∀ (r : Rotation) (lab : Lab), r.pairs = [] → (r.step inj).run lab = ⟨(.ok none, r), lab, 0, []⟩ := by
  have agree : fleet.Agree lab := fun p hp => tended.agree.2.2 p (ours p hp)
  refine ⟨fun pairs filled joins prompts quiet w run => ?_, fun n many inside earlier during quiet all => ?_,
    fun r lab none => ?_⟩
  · have walks := ((walks_begin agree willing pairs).after nodes joins whole filled quiet).1
    rw [run, Nat.zero_add] at walks
    obtain ⟨link, broken, here, stepped, left, rotation, walks'⟩ := walks.step nodes joins whole filled
    obtain ⟨ended, finished, bars, -⟩ := walks'.finish nodes joins whole
    rw [left, rotation] at finished
    refine ⟨link, _, broken, ended, here, stepped, fun x hx y hy => ?_, finished, fun x hx y hy => ?_⟩
    · have blocks := walks'.blocks x y
      rw [left, rotation] at blocks
      refine blocks.trans ?_
      simp only [Option.mem_def, Option.some.injEq, exists_eq_left']
      exact or_iff_right (whole x hx y hy)
    · exact fun blocked => whole x hx y hy ((bars x y).mp blocked)
  · rw [nodes, Fleet.nodes, List.length_map] at inside
    have size := Rotation.length_pairs_ring many
    have filled : (Rotation.ring n).pairs ≠ [] := by
      apply List.ne_nil_of_length_pos
      omega
    have joins := fleet.joins_ring many inside
    obtain ⟨walks, -⟩ := (walks_begin agree willing (Rotation.ring n).pairs).after nodes joins whole filled
      fun prompt mem => quiet prompt (List.mem_append_left during mem)
    obtain ⟨-, answered⟩ := walks.after nodes joins whole filled
      fun prompt mem => quiet prompt (List.mem_append_right earlier mem)
    refine ⟨(Rotation.ring n).pairs.rotate (0 + steps earlier), ?_, fun i bound => ?_, fun i bound => ?_⟩
    · rw [all] at answered
      rw [← answers_eq_rotate, size]
      rw [size] at answered
      exact answered
    · rw [(List.rotate_perm _ _).countP_eq]
      exact Rotation.countP_ring_link many bound
    · rw [(List.rotate_perm _ _).countP_eq]
      exact Rotation.countP_ring_end many bound
  · rw [Rotation.step, none]
    rfl

open Lab (drillFleet)

/-- Three machines, the second of which is paused. -/
def numbed : Lab := (((drillFleet.injector .default).make (.inject .pause 1)).result Lab.machines).2

/-- A walk through three links, one of them there twice, is ended after its first step and goes on; the
fourth step comes back to the first link.  In a ring, three steps break three links. -/
theorem walks_in_circles_numbed : Lab.Tended drillFleet.posts numbed ∧ drillFleet.Willing numbed ∧
    (∀ x ∈ drillFleet.endpoints, ∀ y ∈ drillFleet.endpoints, y ∉ numbed.fabric.blockedBy x) ∧
    (∃ w r broken, (begin [(0, 1), (1, 2), (0, 1)] numbed).after (drillFleet.injector .default)
        [.step, .finish, .set (.latency (endpointAt 0 9000) 5), .step, .step] = w ∧
      (w.rotation.step (drillFleet.injector .default)).result w.lab = ((.ok (some (0, 1)), r), broken) ∧
      endpointAt 1 9000 ∈ broken.fabric.blockedBy (endpointAt 0 9000)) ∧
    (∃ links : List (Nat × Nat),
      (after (drillFleet.injector .default) ⟨numbed, .ring 3, []⟩ [.step]).answers
        (drillFleet.injector .default) [.step, .finish, .step, .step] =
          links.map (fun link => .ok (some link)) ∧
      links.countP (fun link => s(link.1, link.2) = s(2, 0)) = 1 ∧
      links.countP (fun link => 1 = link.1 ∨ 1 = link.2) = 2) ∧
    ((Rotation.ring 1).step (drillFleet.injector .default)).run numbed =
      ⟨(.ok none, .ring 1), numbed, 0, []⟩ := by
  have tended : Lab.Tended drillFleet.posts numbed := by
    have machines : Lab.Tended ([] ++ recruits .machine 9000 0 0 3) Lab.machines :=
      Lab.Tended.empty.muster 0 drillFleet.ids
    exact machines.injection _ (fun _ mem => mem) (.inject .pause 1)
  have willing : drillFleet.Willing numbed := by
    unfold Fleet.Willing
    decide +kernel
  have none : ∀ x ∈ drillFleet.endpoints, numbed.fabric.blockedBy x = .empty := by decide +kernel
  have whole : ∀ x ∈ drillFleet.endpoints, ∀ y ∈ drillFleet.endpoints,
      y ∉ numbed.fabric.blockedBy x := by
    intro x hx y _
    rw [none x hx]
    exact EndpointSet.not_mem_empty y
  have nodes : (drillFleet.injector .default).nodes = drillFleet.nodes := rfl
  obtain ⟨walks, circles, idle⟩ := walks_in_circles tended (fun _ => id) nodes whole willing
  refine ⟨tended, willing, whole, ?_, ?_, idle _ numbed rfl⟩
  · obtain ⟨link, r, broken, -, here, stepped, blocks, -⟩ := walks [(0, 1), (1, 2), (0, 1)] (by simp)
      (by unfold Fleet.Joins; decide)
      [.step, .finish, .set (.latency (endpointAt 0 9000) 5), .step, .step]
      (by simp [Prompt.Quiet]) _ rfl
    cases here
    have first : drillFleet.endpoints[0]? = some (endpointAt 0 9000) := rfl
    have second : drillFleet.endpoints[1]? = some (endpointAt 1 9000) := rfl
    refine ⟨_, r, broken, rfl, stepped, ?_⟩
    exact (blocks _ (List.mem_of_getElem? first) _ (List.mem_of_getElem? second)).mpr ⟨first, second⟩
  · obtain ⟨links, answered, neighbours, ends⟩ := circles 3 (Nat.le_refl 3) (Nat.le_refl 3) [.step]
      [.step, .finish, .step, .step] (by simp [Prompt.Quiet]) rfl
    exact ⟨links, answered, neighbours 2 (by decide), ends 1 (by decide)⟩

end Round

end Simulation

end FaultLab
