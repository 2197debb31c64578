import FaultLab.Proofs.Detection
import Mathlib.Data.List.Perm.Basic

/-! # What the detector does not depend on

A round of the detector counts the broken links of each member in the order in which the members stand,
and takes out the worst one.  Neither matters: the ends of broken links are the same up to their order
(`brokenEnds_perm`), ranking counts them alone, and the rank is a total order, so there is one worst
(`worst?_eq_some_iff`).  Whether a link is broken does not say who of the two blocks the other
(`Fabric.brokenEnds_congr`).

By induction over the rounds, members that stand in another order, and whose links are broken between
the same two, are cut in the same order (`Fabric.cut_congr`), and the detector finds the same set
(`Fabric.detect_ignores_order_and_direction`).

With the order out of the way, a member may be counted first: it ends as many broken links as there are
others that it is severed from (`Fabric.count_brokenEnds`).  Where one member has part in all of them,
it is the only one that is found (`Fabric.detect_eq_hub`). -/

namespace FaultLab.Simulation

/-! ### The worst of some members -/

section ranking
variable {ends ends' es es' : List Endpoint} {a b c e : Endpoint}

theorem outranks_iff : outranks ends a b = true ↔
    ends.count b < ends.count a ∨ ends.count a = ends.count b ∧ b < a := by
  simp [outranks, @eq_comm _ (ends.count a)]

theorem outranks_trans (h : outranks ends a b = true) (k : outranks ends b c = true) :
    outranks ends a c = true := by
  rw [outranks_iff] at h k ⊢
  rcases h with more | ⟨same, larger⟩
  · rcases k with more' | ⟨same', -⟩
    · exact .inl (more'.trans more)
    · exact .inl (same' ▸ more)
  · rcases k with more' | ⟨same', larger'⟩
    · exact .inl (same ▸ more')
    · exact .inr ⟨same.trans same', Endpoint.lt_trans larger' larger⟩

theorem outranks_total (differ : a ≠ b) :
    outranks ends a b = true ∨ outranks ends b a = true := by
  rw [outranks_iff, outranks_iff]
  rcases Nat.lt_trichotomy (ends.count a) (ends.count b) with less | same | more
  · exact .inr (.inl less)
  · by_cases larger : b < a
    · exact .inl (.inr ⟨same, larger⟩)
    · refine .inr (.inr ⟨same.symm, ?_⟩)
      by_contra smaller
      exact differ (Endpoint.eq_of_not_lt smaller larger)
  · exact .inl (.inl more)

theorem outranks_asymm (h : outranks ends a b = true) : ¬ outranks ends b a = true := by
  rw [outranks_iff] at h ⊢
  rintro (more | ⟨same, larger⟩)
  · rcases h with less | ⟨same, -⟩
    · exact Nat.lt_asymm less more
    · exact Nat.ne_of_gt more same.symm
  · rcases h with less | ⟨-, smaller⟩
    · exact Nat.ne_of_gt less same.symm
    · exact Endpoint.lt_asymm larger smaller

theorem outranks_of_worst? (h : worst? ends es = some e) :
    ∀ x ∈ es, x ≠ e → outranks ends e x = true := by
  induction es generalizing e with
  | nil => cases h
  | cons a rest ih =>
    intro x hx other
    rw [worst?] at h
    cases worst : worst? ends rest with
    | none =>
      rw [worst?_eq_none_iff] at worst
      rw [worst] at h hx
      cases h
      exact absurd (List.mem_singleton.mp hx) other
    | some b =>
      rw [worst] at h
      by_cases rank : outranks ends a b = true
      · simp only [rank, if_true, Option.some.injEq] at h
        subst h
        have later := (List.mem_cons.mp hx).resolve_left other
        by_cases same : x = b
        · rw [same]
          exact rank
        · exact outranks_trans rank (ih worst x later same)
      · simp only [rank, if_false, Option.some.injEq, Bool.false_eq_true] at h
        subst h
        rcases List.mem_cons.mp hx with rfl | later
        · exact (outranks_total other).resolve_left rank
        · exact ih worst x later other

/-- **There is one worst member**, wherever it stands. -/
theorem worst?_eq_some_iff : worst? ends es = some e ↔
    e ∈ es ∧ ∀ x ∈ es, x ≠ e → outranks ends e x = true := by
  refine ⟨fun h => ⟨worst?_mem h, outranks_of_worst? h⟩, fun ⟨mem, first⟩ => ?_⟩
  cases worst : worst? ends es with
  | none =>
    rw [worst?_eq_none_iff] at worst
    rw [worst] at mem
    cases mem
  | some w =>
    by_contra differ
    have differ : w ≠ e := fun same => differ (congrArg some same)
    exact outranks_asymm (first w (worst?_mem worst) differ)
      (outranks_of_worst? worst e mem differ.symm)

/-- Only who is there matters, and how many broken links each one ends. -/
theorem worst?_congr (ends_eq : ends.Perm ends') (same : ∀ x, x ∈ es ↔ x ∈ es') :
    worst? ends es = worst? ends' es' := by
  have rank : outranks ends = outranks ends' := by
    funext a b
    rw [outranks, outranks, ends_eq.count_eq, ends_eq.count_eq]
  refine Option.ext fun e => ?_
  rw [worst?_eq_some_iff, worst?_eq_some_iff, rank, same]
  refine and_congr_right fun _ => ⟨fun first x hx => ?_, fun first x hx => ?_⟩
  · exact first x ((same x).mpr hx)
  · exact first x ((same x).mp hx)

end ranking

/-! ### The order of the members -/

section order
variable {seen seen' : List Vantage}

/-- In whatever order the members stand, the same links are broken. -/
theorem brokenEnds_perm (h : seen.Perm seen') : (brokenEnds seen).Perm (brokenEnds seen') := by
  induction h with
  | nil => exact .nil
  | cons a rest ih => exact ((rest.filter _).flatMap_right _).append ih
  | swap a b rest =>
    -- The first two swap the ends of the link between them, and each has its links to the rest.
    rw [brokenEnds, brokenEnds, brokenEnds, brokenEnds, List.filter_cons, List.filter_cons,
      Vantage.broken_comm b a]
    generalize brokenEnds rest = among
    by_cases broken : a.broken b = true
    · rw [if_pos broken, if_pos broken, List.flatMap_cons, List.flatMap_cons, List.append_assoc,
        List.append_assoc]
      refine (List.Perm.swap a.endpoint b.endpoint []).append ?_
      rw [← List.append_assoc, ← List.append_assoc]
      exact List.perm_append_comm.append_right among
    · rw [if_neg broken, if_neg broken, ← List.append_assoc, ← List.append_assoc]
      exact List.perm_append_comm.append_right among
  | trans _ _ ih ih' => exact ih.trans ih'

theorem worstOf_congr (ends : (brokenEnds seen).Perm (brokenEnds seen'))
    (there : (seen.map Vantage.endpoint).Perm (seen'.map Vantage.endpoint)) :
    worstOf seen = worstOf seen' := by
  refine worst?_congr ends fun x => ?_
  rw [suspects, suspects, List.mem_filter, List.mem_filter, there.mem_iff, List.contains_iff_mem,
    List.contains_iff_mem, ends.mem_iff]

end order

namespace Fabric

variable {f g : Fabric} {l m : Layout} {es es' : List Endpoint} {e w : Endpoint}

/-! ### The direction of a block -/

/-- What the detector sees of a member that is up. -/
def vantage (f : Fabric) (e : Endpoint) : Vantage := ⟨e, f.blockedBy e⟩

theorem vantages_eq : f.vantages l = (f.upServers l).map f.vantage := rfl

theorem map_endpoint_map_vantage : (es.map f.vantage).map Vantage.endpoint = es := by
  rw [List.map_map]
  exact List.map_id _

theorem without_map_vantage :
    without e (es.map f.vantage) = (es.filter fun x => x ≠ e).map f.vantage := List.filter_map

theorem broken_vantage (a b : Endpoint) :
    (f.vantage a).broken (f.vantage b) = decide (f.Severed a b) := by
  rw [Bool.eq_iff_iff, decide_eq_true_eq]
  exact broken_iff_severed rfl rfl

theorem exists_severed_of_broken (h : ∃ a ∈ es.map f.vantage, ∃ b ∈ es.map f.vantage,
    a.endpoint = e ∧ b.endpoint ≠ e ∧ a.broken b = true) :
    e ∈ es ∧ ∃ b ∈ es, b ≠ e ∧ f.Severed e b := by
  obtain ⟨_, seen_a, _, seen_b, rfl, differ, broken⟩ := h
  obtain ⟨a, there_a, rfl⟩ := List.mem_map.mp seen_a
  obtain ⟨b, there_b, rfl⟩ := List.mem_map.mp seen_b
  rw [broken_vantage, decide_eq_true_eq] at broken
  exact ⟨there_a, b, there_b, differ, broken⟩

theorem exists_severed_of_mem_brokenEnds (distinct : es.Nodup) (h : e ∈ brokenEnds (es.map f.vantage)) :
    e ∈ es ∧ ∃ b ∈ es, b ≠ e ∧ f.Severed e b :=
  exists_severed_of_broken
    (exists_broken_of_mem_brokenEnds (map_endpoint_map_vantage.symm ▸ distinct) h)

theorem exists_severed_of_mem_cut (distinct : es.Nodup) (h : e ∈ cut (es.map f.vantage)) :
    e ∈ es ∧ ∃ b ∈ es, b ≠ e ∧ f.Severed e b :=
  exists_severed_of_broken (exists_broken_of_mem_cut (map_endpoint_map_vantage.symm ▸ distinct) h)

/-- The broken links of the first of some members, and those between the others. -/
theorem brokenEnds_cons_vantage (a : Endpoint) :
    brokenEnds ((a :: es).map f.vantage) =
      (es.filter fun b => f.Severed a b).flatMap (fun b => [a, b]) ++
        brokenEnds (es.map f.vantage) := by
  rw [List.map_cons, brokenEnds, List.filter_map, List.flatMap_map]
  congr 2
  exact List.filter_congr fun b _ => broken_vantage a b

theorem brokenEnds_congr (same : es.Pairwise fun a b => (f.Severed a b ↔ g.Severed a b)) :
    brokenEnds (es.map f.vantage) = brokenEnds (es.map g.vantage) := by
  induction es with
  | nil => rfl
  | cons a rest ih =>
    rw [List.pairwise_cons] at same
    rw [brokenEnds_cons_vantage, brokenEnds_cons_vantage, ih same.2]
    congr 2
    exact List.filter_congr fun b hb => decide_eq_decide.mpr (same.1 b hb)

theorem worstOf_vantage_congr (perm : es.Perm es')
    (same : es.Pairwise fun a b => (f.Severed a b ↔ g.Severed a b)) :
    worstOf (es.map f.vantage) = worstOf (es'.map g.vantage) := by
  refine worstOf_congr ?_ ?_
  · rw [brokenEnds_congr same]
    exact brokenEnds_perm (perm.map _)
  · rw [map_endpoint_map_vantage, map_endpoint_map_vantage]
    exact perm

/-- Round by round the same members are cut. -/
theorem cut_congr (perm : es.Perm es')
    (same : es.Pairwise fun a b => (f.Severed a b ↔ g.Severed a b)) :
    cut (es.map f.vantage) = cut (es'.map g.vantage) := by
  generalize seen_eq : es.map f.vantage = seen
  induction seen using cut.induct generalizing es es' with
  | case1 seen none_worst =>
    have worst := worstOf_vantage_congr perm same
    rw [seen_eq, none_worst] at worst
    rw [cut, none_worst, cut, ← worst]
  | case2 seen w is_worst ih =>
    have worst := worstOf_vantage_congr perm same
    rw [seen_eq, is_worst] at worst
    have rest := ih (perm.filter fun x => x ≠ w) (same.filter fun x => x ≠ w)
      (by rw [← seen_eq, without_map_vantage])
    rw [← without_map_vantage] at rest
    rw [cut, is_worst, cut, ← worst]
    exact congrArg (w :: ·) rest

/-- **The detector depends neither on the order of the servers nor on the direction of a block.**  Where
two layouts have the same servers in any order, and in two fabrics the same of them are up and a block
stands between the same two, whoever put it up, the detector finds the same set. -/
theorem detect_ignores_order_and_direction (perm : l.servers.Perm m.servers)
    (up : ∀ e ∈ l.servers, f.isUp e = g.isUp e)
    (same : l.servers.Pairwise fun a b => (f.Severed a b ↔ g.Severed a b)) :
    f.detect l = g.detect m := by
  have up_eq : f.upServers l = l.servers.filter g.isUp := List.filter_congr up
  have up_perm : (f.upServers l).Perm (g.upServers m) := by
    rw [up_eq]
    exact perm.filter _
  have cut_eq : cut (f.vantages l) = cut (g.vantages m) :=
    cut_congr up_perm (same.filter _)
  refine EndpointSet.ext fun e => ?_
  rw [mem_detect, mem_detect, cut_eq, perm.mem_iff]
  refine or_congr_left (and_congr_right fun there => ?_)
  rw [up e (perm.mem_iff.mpr there)]

/-- The members of `scattered`, where the second blocks the first in its turn. -/
def scatteredBack : Fabric :=
  (scattered.update ⟨"a:1"⟩ fun m => { m with blocked := .empty }).update ⟨"b:1"⟩ fun m =>
    { m with blocked := m.blocked.insert ⟨"a:1"⟩ }

theorem detect_scattered_back :
    [(⟨"a:1"⟩ : Endpoint), ⟨"b:1"⟩, ⟨"c:1"⟩].Perm [⟨"c:1"⟩, ⟨"b:1"⟩, ⟨"a:1"⟩] ∧
      scattered.blockedBy ⟨"a:1"⟩ ≠ scatteredBack.blockedBy ⟨"a:1"⟩ ∧
      scattered.detect (.initial [⟨"a:1"⟩, ⟨"b:1"⟩, ⟨"c:1"⟩] (.ofNat 7)) =
        scatteredBack.detect (.initial [⟨"c:1"⟩, ⟨"b:1"⟩, ⟨"a:1"⟩] (.ofNat 7)) := by
  have perm : [(⟨"a:1"⟩ : Endpoint), ⟨"b:1"⟩, ⟨"c:1"⟩].Perm [⟨"c:1"⟩, ⟨"b:1"⟩, ⟨"a:1"⟩] := by
    decide
  refine ⟨perm, by decide +kernel, ?_⟩
  exact detect_ignores_order_and_direction perm (by decide +kernel) (by decide +kernel)

end Fabric

/-! ### One member that all broken links have in common -/

/-- A member that has part in every broken link, and in two of them at least, unless it is the larger
one of the two that its only one joins. -/
structure Hub (apart : Endpoint → Endpoint → Prop) (es : List Endpoint) (w : Endpoint) : Prop where
  there : w ∈ es
  only : ∀ a ∈ es, ∀ b ∈ es, a ≠ b → apart a b → a = w ∨ b = w
  severs : ∃ a ∈ es, a ≠ w ∧ apart w a
  worst : ∀ a ∈ es, a ≠ w → apart w a → a < w ∨ ∃ b ∈ es, b ≠ w ∧ b ≠ a ∧ apart w b

/-- Who is a hub depends on the members alone and on which links between them are broken. -/
theorem Hub.congr {apart apart' : Endpoint → Endpoint → Prop} {es es' : List Endpoint} {w : Endpoint}
    (hub : Hub apart es w) (members : ∀ x, x ∈ es ↔ x ∈ es')
    (same : ∀ a ∈ es, ∀ b ∈ es, (apart a b ↔ apart' a b)) : Hub apart' es' w where
  there := (members w).mp hub.there
  only a ha b hb differ severed := by
    have ha := (members a).mpr ha
    have hb := (members b).mpr hb
    exact hub.only a ha b hb differ ((same a ha b hb).mpr severed)
  severs := by
    obtain ⟨a, ha, other, severed⟩ := hub.severs
    exact ⟨a, (members a).mp ha, other, (same w hub.there a ha).mp severed⟩
  worst a ha other severed := by
    have ha := (members a).mpr ha
    rcases hub.worst a ha other ((same w hub.there a ha).mpr severed) with less | ⟨b, hb, rest, differ, more⟩
    · exact .inl less
    · exact .inr ⟨b, (members b).mp hb, rest, differ, (same w hub.there b hb).mp more⟩

namespace Fabric

variable {f g : Fabric} {l m : Layout} {es es' : List Endpoint} {e w : Endpoint}

/-- Among different members, one ends as many broken links as there are others that it is severed from. -/
theorem count_brokenEnds (distinct : es.Nodup) (there : e ∈ es) :
    (brokenEnds (es.map f.vantage)).count e =
      (es.filter fun b => f.Severed e b ∧ b ≠ e).length := by
  -- The count is free of the order, so `e` may stand first, and then no link of it is counted later.
  have front : es.Perm (e :: es.filter fun b => b ≠ e) := by
    have others_eq : es.erase e = es.filter fun b => b ≠ e := by
      rw [distinct.erase_eq_filter]
      exact List.filter_congr fun b _ => Bool.eq_iff_iff.mpr (by simp)
    rw [← others_eq]
    exact List.perm_cons_erase there
  have later : e ∉ brokenEnds ((es.filter fun b => b ≠ e).map f.vantage) := by
    intro ends
    have among := (exists_severed_of_mem_brokenEnds (distinct.filter _) ends).1
    exact of_decide_eq_true (List.mem_filter.mp among).2 rfl
  have once : ∀ b ∈ es.filter (fun b => f.Severed e b && decide (b ≠ e)),
      (List.count e ∘ fun b => [e, b]) b = 1 := by
    intro b mem
    have other : b ≠ e := of_decide_eq_true (Bool.and_eq_true_iff.mp (List.mem_filter.mp mem).2).2
    simp [other]
  rw [(brokenEnds_perm (front.map f.vantage)).count_eq, brokenEnds_cons_vantage, List.count_append,
    List.count_eq_zero.mpr later, List.filter_filter, List.count_flatMap, List.map_congr_left once,
    List.map_const', List.sum_replicate]
  simp

theorem severed_comm {a b : Endpoint} : f.Severed a b ↔ f.Severed b a := Or.comm

theorem length_le_count_brokenEnds (distinct : es.Nodup) (there : e ∈ es) (others : List Endpoint)
    (different : others.Nodup) (severed : ∀ b ∈ others, b ∈ es ∧ b ≠ e ∧ f.Severed e b) :
    others.length ≤ (brokenEnds (es.map f.vantage)).count e := by
  rw [count_brokenEnds distinct there]
  refine (different.subperm fun b mem => ?_).length_le
  obtain ⟨there_b, other, cut_off⟩ := severed b mem
  exact List.mem_filter.mpr ⟨there_b, decide_eq_true ⟨cut_off, other⟩⟩

/-- Beside the hub, every member ends one broken link at most. -/
theorem count_le_one_of_hub (hub : Hub f.Severed es w) (distinct : es.Nodup) (there : e ∈ es)
    (other : e ≠ w) :
    (brokenEnds (es.map f.vantage)).count e ≤ 1 := by
  rw [count_brokenEnds distinct there]
  have among : (es.filter fun b => f.Severed e b ∧ b ≠ e) ⊆ [w] := by
    intro b mem
    obtain ⟨there_b, severed⟩ := List.mem_filter.mp mem
    obtain ⟨severed, differ⟩ := of_decide_eq_true severed
    rcases hub.only e there b there_b differ.symm severed with same | same
    · exact absurd same other
    · exact List.mem_singleton.mpr same
  exact ((distinct.filter _).subperm among).length_le

/-- Whoever else ends a broken link is outranked by the hub. -/
theorem outranks_of_hub (hub : Hub f.Severed es w) (distinct : es.Nodup) (there : e ∈ es) (other : e ≠ w)
    (suspect : e ∈ brokenEnds (es.map f.vantage)) :
    outranks (brokenEnds (es.map f.vantage)) w e = true := by
  have few := count_le_one_of_hub hub distinct there other
  have severed : f.Severed w e := by
    obtain ⟨-, b, there_b, differ, severed⟩ := exists_severed_of_mem_brokenEnds distinct suspect
    rcases hub.only e there b there_b differ.symm severed with same | rfl
    · exact absurd same other
    · exact severed_comm.mp severed
  rw [outranks_iff]
  rcases hub.worst e there other severed with larger | ⟨b, there_b, other_b, differ, severed_b⟩
  · have one : 1 ≤ (brokenEnds (es.map f.vantage)).count w :=
      length_le_count_brokenEnds distinct hub.there [e] (List.nodup_singleton e) (by simp_all)
    rcases Nat.lt_or_eq_of_le (few.trans one) with fewer | same
    · exact .inl fewer
    · exact .inr ⟨same.symm, larger⟩
  · have two : 2 ≤ (brokenEnds (es.map f.vantage)).count w :=
      length_le_count_brokenEnds distinct hub.there [e, b] (by simp [differ.symm]) (by simp_all)
    exact .inl (few.trans_lt two)

theorem worstOf_eq_hub (hub : Hub f.Severed es w) (distinct : es.Nodup) :
    worstOf (es.map f.vantage) = some w := by
  rw [worstOf, worst?_eq_some_iff, suspects, map_endpoint_map_vantage]
  refine ⟨?_, fun e mem other => ?_⟩
  · obtain ⟨a, there_a, other, severed⟩ := hub.severs
    have broken : (f.vantage w).broken (f.vantage a) = true := by
      rw [broken_vantage]
      exact decide_eq_true severed
    have ends := mem_brokenEnds_of_broken (List.mem_map_of_mem hub.there)
      (List.mem_map_of_mem there_a) other.symm broken
    exact List.mem_filter.mpr ⟨hub.there, List.contains_iff_mem.mpr ends⟩
  · obtain ⟨there, ends⟩ := List.mem_filter.mp mem
    exact outranks_of_hub hub distinct there other (List.contains_iff_mem.mp ends)

theorem cut_without_hub (hub : Hub f.Severed es w) (distinct : es.Nodup) :
    cut (without w (es.map f.vantage)) = [] := by
  rw [without_map_vantage, List.eq_nil_iff_forall_not_mem]
  intro e mem
  obtain ⟨among_e, b, among_b, differ, severed⟩ := exists_severed_of_mem_cut (distinct.filter _) mem
  obtain ⟨there_e, other_e⟩ := List.mem_filter.mp among_e
  obtain ⟨there_b, other_b⟩ := List.mem_filter.mp among_b
  rcases hub.only e there_e b there_b differ.symm severed with rfl | rfl
  · exact of_decide_eq_true other_e rfl
  · exact of_decide_eq_true other_b rfl

/-- Of servers that are up, the hub is the only one that is found. -/
theorem detect_eq_hub (hub : Hub f.Severed l.servers w) (distinct : l.servers.Nodup)
    (up : ∀ e ∈ l.servers, f.isUp e = true) : f.detect l = .ofList [w] := by
  have all_up : f.upServers l = l.servers := List.filter_eq_self.mpr up
  have none_down : l.servers.filter (fun e => !f.isUp e) = [] := by
    rw [List.filter_eq_nil_iff]
    intro e mem
    rw [up e mem]
    decide
  rw [detect, none_down, vantages_eq, all_up, cut, worstOf_eq_hub hub distinct]
  exact congrArg (fun es => EndpointSet.ofList (w :: es)) (cut_without_hub hub distinct)

end Fabric

end FaultLab.Simulation
