import FaultLab.Simulation.Fabric
import Mathlib.Data.Finset.Powerset

/-! # What the failure detector finds

The detector of a fabric takes the servers that are not up, and cuts the rest until no link between
two of them is broken (`Simulation.cut`).  Three facts about the cutting carry everything else:

* a member that is cut ends a broken link (`exists_broken_of_mem_cut`);
* between members that are not cut no link is broken (`not_broken_of_not_mem_cut`);
* every member that is cut takes a broken link with it, so there are at least as many broken links
  as cut members (`length_cut_le_card_severedPairs`).

`Fabric.Finds f l u` says what a set `u` of servers has to be as a finding about the layout `l`, and
`finds_detect` that the detector finds such a set.  What a quorum means is
`hasQuorum_detect_iff`. -/

namespace FaultLab.Simulation

/-! ### Broken links between members that are seen -/

section cutting
variable {seen : List Vantage} {e : Endpoint}

theorem Vantage.broken_comm (a b : Vantage) : a.broken b = b.broken a := Bool.or_comm _ _

/-- The ends of broken links are ends of links between two different members. -/
theorem exists_broken_of_mem_brokenEnds (distinct : (seen.map Vantage.endpoint).Nodup)
    (h : e ∈ brokenEnds seen) :
    ∃ a ∈ seen, ∃ b ∈ seen, a.endpoint = e ∧ b.endpoint ≠ e ∧ a.broken b = true := by
  induction seen with
  | nil => cases h
  | cons a rest ih =>
    rw [List.map_cons, List.nodup_cons] at distinct
    rw [brokenEnds, List.mem_append] at h
    rcases h with h | h
    · obtain ⟨b, hb, he⟩ := List.mem_flatMap.mp h
      obtain ⟨hb, broken⟩ := List.mem_filter.mp hb
      have hne : b.endpoint ≠ a.endpoint := by
        intro heq
        exact distinct.1 (heq ▸ List.mem_map_of_mem hb)
      rcases List.mem_pair.mp he with rfl | rfl
      · exact ⟨a, List.mem_cons_self, b, List.mem_cons_of_mem _ hb, rfl, hne, broken⟩
      · refine ⟨b, List.mem_cons_of_mem _ hb, a, List.mem_cons_self, rfl, hne.symm, ?_⟩
        rw [Vantage.broken_comm]
        exact broken
    · obtain ⟨b, hb, c, hc, hbc⟩ := ih distinct.2 h
      exact ⟨b, List.mem_cons_of_mem _ hb, c, List.mem_cons_of_mem _ hc, hbc⟩

theorem mem_brokenEnds_of_broken {a b : Vantage} (ha : a ∈ seen) (hb : b ∈ seen)
    (hne : a.endpoint ≠ b.endpoint) (broken : a.broken b = true) :
    a.endpoint ∈ brokenEnds seen := by
  induction seen with
  | nil => cases ha
  | cons c rest ih =>
    rw [brokenEnds, List.mem_append, List.mem_flatMap]
    rcases List.mem_cons.mp ha with rfl | ha'
    · rcases List.mem_cons.mp hb with rfl | hb'
      · exact absurd rfl hne
      · exact .inl ⟨b, List.mem_filter.mpr ⟨hb', broken⟩, by simp⟩
    · rcases List.mem_cons.mp hb with rfl | hb'
      · rw [Vantage.broken_comm] at broken
        exact .inl ⟨a, List.mem_filter.mpr ⟨ha', broken⟩, by simp⟩
      · exact .inr (ih ha' hb')

theorem worst?_eq_none_iff {ends es : List Endpoint} : worst? ends es = none ↔ es = [] := by
  cases es with
  | nil => simp [worst?]
  | cons a rest =>
    rw [worst?]
    cases worst? ends rest with
    | none => simp
    | some b =>
      by_cases h : outranks ends a b = true
      · simp [h]
      · simp [h]

/-- There is a worst member exactly if a link is broken. -/
theorem brokenEnds_eq_nil_of_worstOf (distinct : (seen.map Vantage.endpoint).Nodup)
    (h : worstOf seen = none) : brokenEnds seen = [] := by
  rw [worstOf, worst?_eq_none_iff, suspects] at h
  rw [List.eq_nil_iff_forall_not_mem]
  intro e he
  obtain ⟨a, ha, _, _, rfl, _⟩ := exists_broken_of_mem_brokenEnds distinct he
  have := List.filter_eq_nil_iff.mp h a.endpoint (List.mem_map_of_mem ha)
  exact this (List.contains_iff_mem.mpr he)

theorem mem_brokenEnds_of_worstOf (h : worstOf seen = some e) : e ∈ brokenEnds seen := by
  have := worst?_mem h
  rw [suspects, List.mem_filter] at this
  exact List.contains_iff_mem.mp this.2

/-! ### The members that are cut -/

theorem mem_without {v : Vantage} : v ∈ without e seen ↔ v ∈ seen ∧ v.endpoint ≠ e := by
  simp [without]

theorem nodup_without (distinct : (seen.map Vantage.endpoint).Nodup) :
    ((without e seen).map Vantage.endpoint).Nodup :=
  distinct.sublist (List.filter_sublist.map _)

theorem exists_mem_of_mem_cut (h : e ∈ cut seen) : ∃ v ∈ seen, v.endpoint = e := by
  induction seen using cut.induct with
  | case1 seen hw =>
    rw [cut, hw] at h
    cases h
  | case2 seen w hw ih =>
    rw [cut, hw] at h
    rcases List.mem_cons.mp h with rfl | h
    · exact worstOf_mem hw
    · obtain ⟨v, hv, he⟩ := ih h
      exact ⟨v, (mem_without.mp hv).1, he⟩

theorem nodup_cut : (cut seen).Nodup := by
  induction seen using cut.induct with
  | case1 seen hw =>
    rw [cut, hw]
    exact List.nodup_nil
  | case2 seen w hw ih =>
    rw [cut, hw]
    refine List.nodup_cons.mpr ⟨?_, ih⟩
    intro h
    obtain ⟨v, hv, he⟩ := exists_mem_of_mem_cut h
    exact (mem_without.mp hv).2 he

/-- A member that is cut ends a broken link. -/
theorem exists_broken_of_mem_cut (distinct : (seen.map Vantage.endpoint).Nodup)
    (h : e ∈ cut seen) :
    ∃ a ∈ seen, ∃ b ∈ seen, a.endpoint = e ∧ b.endpoint ≠ e ∧ a.broken b = true := by
  induction seen using cut.induct with
  | case1 seen hw =>
    rw [cut, hw] at h
    cases h
  | case2 seen w hw ih =>
    rw [cut, hw] at h
    rcases List.mem_cons.mp h with rfl | h
    · exact exists_broken_of_mem_brokenEnds distinct (mem_brokenEnds_of_worstOf hw)
    · obtain ⟨a, ha, b, hb, hab⟩ := ih (nodup_without distinct) h
      exact ⟨a, (mem_without.mp ha).1, b, (mem_without.mp hb).1, hab⟩

theorem not_broken_of_not_mem_cut (distinct : (seen.map Vantage.endpoint).Nodup) {a b : Vantage}
    (ha : a ∈ seen) (hb : b ∈ seen) (hne : a.endpoint ≠ b.endpoint)
    (hca : a.endpoint ∉ cut seen) (hcb : b.endpoint ∉ cut seen) : a.broken b = false := by
  induction seen using cut.induct with
  | case1 seen hw =>
    rw [← Bool.not_eq_true]
    intro broken
    have := mem_brokenEnds_of_broken ha hb hne broken
    rw [brokenEnds_eq_nil_of_worstOf distinct hw] at this
    cases this
  | case2 seen w hw ih =>
    rw [cut, hw, List.mem_cons, not_or] at hca hcb
    exact ih (nodup_without distinct) (mem_without.mpr ⟨ha, hca.1⟩)
      (mem_without.mpr ⟨hb, hcb.1⟩) hca.2 hcb.2

end cutting

/-! ### Counting broken links -/

namespace Fabric

variable {f : Fabric} {l : Layout} {e : Endpoint}

/-- Whether one of two members blocks the other. -/
def Severed (f : Fabric) (a b : Endpoint) : Prop := b ∈ f.blockedBy a ∨ a ∈ f.blockedBy b

instance (f : Fabric) (a b : Endpoint) : Decidable (f.Severed a b) :=
  inferInstanceAs (Decidable (_ ∨ _))

/-- The sets of two of some members one of which blocks the other. -/
def severedPairs (f : Fabric) (es : List Endpoint) : Finset (Finset Endpoint) :=
  {p ∈ es.toFinset.powersetCard 2 | ∃ a ∈ p, ∃ b ∈ p, a ≠ b ∧ f.Severed a b}

theorem mem_severedPairs {es : List Endpoint} {p : Finset Endpoint} :
    p ∈ f.severedPairs es ↔
      (p ⊆ es.toFinset ∧ p.card = 2) ∧ ∃ a ∈ p, ∃ b ∈ p, a ≠ b ∧ f.Severed a b := by
  rw [severedPairs, Finset.mem_filter, Finset.mem_powersetCard]

/-- Without an end of a broken link there are fewer of them. -/
theorem card_severedPairs_filter_lt {es : List Endpoint} {a b : Endpoint} (ha : a ∈ es)
    (hb : b ∈ es) (hne : a ≠ b) (severed : f.Severed a b) :
    (f.severedPairs (es.filter fun x => x ≠ a)).card < (f.severedPairs es).card := by
  apply Finset.card_lt_card
  rw [Finset.ssubset_iff_of_subset]
  · refine ⟨{a, b}, ?_, ?_⟩
    · rw [mem_severedPairs]
      refine ⟨⟨?_, Finset.card_pair hne⟩, a, by simp, b, by simp, hne, severed⟩
      intro x hx
      rcases Finset.mem_insert.mp hx with rfl | hx
      · exact List.mem_toFinset.mpr ha
      · rw [Finset.mem_singleton.mp hx]
        exact List.mem_toFinset.mpr hb
    · intro h
      have := (mem_severedPairs.mp h).1.1 (Finset.mem_insert_self a {b})
      simp at this
  · intro p hp
    obtain ⟨⟨hsub, hcard⟩, hpair⟩ := mem_severedPairs.mp hp
    refine mem_severedPairs.mpr ⟨⟨?_, hcard⟩, hpair⟩
    intro x hx
    have := List.mem_toFinset.mp (hsub hx)
    exact List.mem_toFinset.mpr (List.mem_filter.mp this).1

theorem broken_iff_severed {a b : Vantage} (ha : a.blocked = f.blockedBy a.endpoint)
    (hb : b.blocked = f.blockedBy b.endpoint) :
    a.broken b = true ↔ f.Severed a.endpoint b.endpoint := by
  rw [Vantage.broken, ha, hb, Bool.or_eq_true, EndpointSet.contains_iff,
    EndpointSet.contains_iff, Severed]

/-- Each member that is cut takes a broken link with it. -/
theorem length_cut_le_card_severedPairs {seen : List Vantage}
    (distinct : (seen.map Vantage.endpoint).Nodup)
    (truthful : ∀ v ∈ seen, v.blocked = f.blockedBy v.endpoint) :
    (cut seen).length ≤ (f.severedPairs (seen.map Vantage.endpoint)).card := by
  induction seen using cut.induct with
  | case1 seen hw =>
    rw [cut, hw]
    exact Nat.zero_le _
  | case2 seen w hw ih =>
    rw [cut, hw, List.length_cons]
    obtain ⟨a, ha, b, hb, rfl, hne, broken⟩ :=
      exists_broken_of_mem_brokenEnds distinct (mem_brokenEnds_of_worstOf hw)
    have severed := (broken_iff_severed (truthful a ha) (truthful b hb)).mp broken
    have fewer := card_severedPairs_filter_lt (List.mem_map_of_mem ha) (List.mem_map_of_mem hb)
      hne.symm severed
    have rest := ih (nodup_without distinct) fun v hv => truthful v (mem_without.mp hv).1
    have same : (without a.endpoint seen).map Vantage.endpoint =
        (seen.map Vantage.endpoint).filter fun x => x ≠ a.endpoint := by
      rw [without, List.filter_map]
      rfl
    rw [same] at rest
    omega

/-! ### The detector -/

/-- The servers of a layout that are up. -/
def upServers (f : Fabric) (l : Layout) : List Endpoint := l.servers.filter f.isUp

theorem mem_upServers : e ∈ f.upServers l ↔ e ∈ l.servers ∧ f.isUp e = true := List.mem_filter

theorem map_endpoint_vantages : (f.vantages l).map Vantage.endpoint = f.upServers l := by
  rw [vantages, List.map_map]
  exact List.map_id _

theorem mem_vantages {v : Vantage} :
    v ∈ f.vantages l ↔ v.endpoint ∈ f.upServers l ∧ v.blocked = f.blockedBy v.endpoint := by
  rw [vantages, List.mem_map]
  constructor
  · rintro ⟨e, he, rfl⟩
    exact ⟨he, rfl⟩
  · rintro ⟨he, hb⟩
    exact ⟨v.endpoint, he, by rw [← hb]⟩

theorem nodup_upServers (distinct : l.servers.Nodup) : (f.upServers l).Nodup :=
  distinct.sublist List.filter_sublist

theorem nodup_endpoint_vantages (distinct : l.servers.Nodup) :
    ((f.vantages l).map Vantage.endpoint).Nodup := by
  rw [map_endpoint_vantages]
  exact nodup_upServers distinct

theorem mem_detect :
    e ∈ f.detect l ↔ (e ∈ l.servers ∧ f.isUp e = false) ∨ e ∈ cut (f.vantages l) := by
  rw [detect, EndpointSet.mem_ofList, List.mem_append, List.mem_filter]
  simp

theorem mem_servers_of_mem_detect (h : e ∈ f.detect l) : e ∈ l.servers := by
  rcases mem_detect.mp h with h | h
  · exact h.1
  · obtain ⟨v, hv, rfl⟩ := exists_mem_of_mem_cut h
    exact (mem_upServers.mp (mem_vantages.mp hv).1).1

theorem isUp_of_not_mem_detect (he : e ∈ l.servers) (h : e ∉ f.detect l) : f.isUp e = true := by
  rw [← Bool.not_eq_false]
  intro down
  exact h (mem_detect.mpr (.inl ⟨he, down⟩))

/-- Of the servers that are up, the detector finds those that are cut. -/
theorem mem_detect_iff_mem_cut (up : f.isUp e = true) :
    e ∈ f.detect l ↔ e ∈ cut (f.vantages l) := by
  rw [mem_detect, up]
  simp

theorem not_severed_of_not_mem_detect (distinct : l.servers.Nodup) {a b : Endpoint}
    (ha : a ∈ l.servers) (hb : b ∈ l.servers) (hda : a ∉ f.detect l) (hdb : b ∉ f.detect l)
    (hne : a ≠ b) : ¬ f.Severed a b := by
  have upA := isUp_of_not_mem_detect ha hda
  have upB := isUp_of_not_mem_detect hb hdb
  have seenA : (⟨a, f.blockedBy a⟩ : Vantage) ∈ f.vantages l :=
    mem_vantages.mpr ⟨mem_upServers.mpr ⟨ha, upA⟩, rfl⟩
  have seenB : (⟨b, f.blockedBy b⟩ : Vantage) ∈ f.vantages l :=
    mem_vantages.mpr ⟨mem_upServers.mpr ⟨hb, upB⟩, rfl⟩
  rw [mem_detect_iff_mem_cut upA] at hda
  rw [mem_detect_iff_mem_cut upB] at hdb
  have := not_broken_of_not_mem_cut (nodup_endpoint_vantages distinct) seenA seenB hne hda hdb
  rw [← Bool.not_eq_true, broken_iff_severed rfl rfl] at this
  exact this

/-- A server that is up is found only if a block stands between it and another one. -/
theorem exists_severed_of_mem_detect (distinct : l.servers.Nodup) (h : e ∈ f.detect l)
    (up : f.isUp e = true) : ∃ b ∈ l.servers, f.isUp b = true ∧ b ≠ e ∧ f.Severed e b := by
  rw [mem_detect_iff_mem_cut up] at h
  obtain ⟨a, ha, b, hb, rfl, hne, broken⟩ :=
    exists_broken_of_mem_cut (nodup_endpoint_vantages distinct) h
  obtain ⟨hbs, upB⟩ := mem_upServers.mp (mem_vantages.mp hb).1
  refine ⟨b.endpoint, hbs, upB, hne, ?_⟩
  exact (broken_iff_severed (mem_vantages.mp ha).2 (mem_vantages.mp hb).2).mp broken

theorem length_filter_detect_le (distinct : l.servers.Nodup) :
    ((f.upServers l).filter (f.detect l).contains).length ≤
      (f.severedPairs (f.upServers l)).card := by
  have sub : (f.upServers l).filter (f.detect l).contains ⊆ cut (f.vantages l) := by
    intro e he
    obtain ⟨hu, hd⟩ := List.mem_filter.mp he
    exact (mem_detect_iff_mem_cut (mem_upServers.mp hu).2).mp (EndpointSet.contains_iff.mp hd)
  have short := ((nodup_upServers distinct).sublist List.filter_sublist).subperm sub
  have bound := length_cut_le_card_severedPairs (nodup_endpoint_vantages (f := f) distinct)
    fun v hv => (mem_vantages.mp hv).2
  rw [map_endpoint_vantages] at bound
  exact short.length_le.trans bound

/-! ### Quorums -/

/-- The servers that the detector leaves. -/
def remaining (f : Fabric) (l : Layout) : List Endpoint :=
  l.servers.filter fun e => !(f.detect l).contains e

theorem mem_remaining : e ∈ f.remaining l ↔ e ∈ l.servers ∧ e ∉ f.detect l := by
  rw [remaining, List.mem_filter, Bool.not_eq_true', ← Bool.not_eq_true, EndpointSet.contains_iff]

/-- The servers that are found and those that remain are all servers. -/
theorem size_detect_add_length_remaining (distinct : l.servers.Nodup) :
    (f.detect l).size + (f.remaining l).length = l.servers.length := by
  have found : (l.servers.filter (f.detect l).contains).Perm (f.detect l).toList := by
    rw [List.perm_ext_iff_of_nodup (distinct.sublist List.filter_sublist) (f.detect l).nodup]
    intro e
    rw [List.mem_filter, EndpointSet.contains_iff, ← EndpointSet.mem_iff]
    exact ⟨And.right, fun h => ⟨mem_servers_of_mem_detect h, h⟩⟩
  rw [EndpointSet.size, ← found.length_eq, remaining]
  exact (List.length_eq_length_filter_add _).symm

/-- A quorum is left exactly if enough servers remain. -/
theorem hasQuorum_detect_iff (distinct : l.servers.Nodup) :
    hasQuorum l (f.detect l) = true ↔ l.quorum ≤ (f.remaining l).length := by
  have := size_detect_add_length_remaining (f := f) distinct
  rw [hasQuorum, decide_eq_true_eq]
  omega

/-- Some members that are up and do not block each other. -/
structure Connected (f : Fabric) (es : List Endpoint) : Prop where
  distinct : es.Nodup
  up : ∀ e ∈ es, f.isUp e = true
  clear : ∀ a ∈ es, ∀ b ∈ es, a ≠ b → ¬ f.Severed a b

theorem connected_remaining (distinct : l.servers.Nodup) : f.Connected (f.remaining l) where
  distinct := distinct.sublist List.filter_sublist
  up e he := by
    obtain ⟨hs, hd⟩ := mem_remaining.mp he
    exact isUp_of_not_mem_detect hs hd
  clear a ha b hb hne := by
    obtain ⟨hsa, hda⟩ := mem_remaining.mp ha
    obtain ⟨hsb, hdb⟩ := mem_remaining.mp hb
    exact not_severed_of_not_mem_detect distinct hsa hsb hda hdb hne

/-! ### What a finding has to be -/

/-- What a set `u` of endpoints has to be as a finding about the servers of a layout. -/
structure Finds (f : Fabric) (l : Layout) (u : EndpointSet) : Prop where
  /-- Only servers are found, so what is left of their number is no less than nothing. -/
  server : (∀ e ∈ u, e ∈ l.servers) ∧ u.size ≤ l.servers.length
  /-- Every server that is not up is found. -/
  down : ∀ e ∈ l.servers, f.isUp e = false → e ∈ u
  /-- Two servers that are not found are up, and neither blocks the other. -/
  connected : ∀ a ∈ l.servers, ∀ b ∈ l.servers, a ∉ u → b ∉ u → a ≠ b →
    f.isUp a = true ∧ f.isUp b = true ∧ b ∉ f.blockedBy a ∧ a ∉ f.blockedBy b
  /-- Between a server that is up and found and another one that is up there is a block. -/
  caused : ∀ a ∈ u, f.isUp a = true →
    ∃ b ∈ l.servers, b ≠ a ∧ f.isUp b = true ∧ (b ∈ f.blockedBy a ∨ a ∈ f.blockedBy b)
  /-- No more servers that are up are found than there are pairs of them with a block. -/
  sparing : ((f.upServers l).filter u.contains).length ≤ (f.severedPairs (f.upServers l)).card

/-- **The detector is sound, complete and sparing, and it ends**: it takes one server out in each
round of its loop, and makes at most as many rounds as there are servers that are up. -/
theorem finds_detect (f : Fabric) (l : Layout) (distinct : l.servers.Nodup) :
    f.Finds l (f.detect l) ∧ (cut (f.vantages l)).length ≤ (f.upServers l).length := by
  refine ⟨⟨⟨fun e he => mem_servers_of_mem_detect he, ?_⟩, ?_, ?_, ?_,
    length_filter_detect_le distinct⟩, ?_⟩
  · have := size_detect_add_length_remaining (f := f) distinct
    omega
  · intro e he down
    exact mem_detect.mpr (.inl ⟨he, down⟩)
  · intro a ha b hb hda hdb hne
    have clear := not_severed_of_not_mem_detect distinct ha hb hda hdb hne
    rw [Severed, not_or] at clear
    exact ⟨isUp_of_not_mem_detect ha hda, isUp_of_not_mem_detect hb hdb, clear⟩
  · intro a ha up
    obtain ⟨b, hb, upB, hne, severed⟩ := exists_severed_of_mem_detect distinct ha up
    exact ⟨b, hb, hne, upB, severed⟩
  · refine (nodup_cut.subperm ?_).length_le
    intro e he
    obtain ⟨v, hv, rfl⟩ := exists_mem_of_mem_cut he
    exact (mem_vantages.mp hv).1

/-- Three members; the first blocks the second, and the third is down. -/
def scattered : Fabric :=
  let blocking := (empty.register ⟨"a:1"⟩).update ⟨"a:1"⟩ fun m =>
    { m with blocked := m.blocked.insert ⟨"b:1"⟩ }
  ((blocking.register ⟨"b:1"⟩).register ⟨"c:1"⟩).update ⟨"c:1"⟩ fun m =>
    { m with status := .stopped }

theorem finds_detect_scattered :
    (Layout.initial [⟨"a:1"⟩, ⟨"b:1"⟩, ⟨"c:1"⟩] (.ofNat 7)).servers.Nodup ∧
      scattered.Finds (.initial [⟨"a:1"⟩, ⟨"b:1"⟩, ⟨"c:1"⟩] (.ofNat 7))
        (.ofList [⟨"b:1"⟩, ⟨"c:1"⟩]) := by
  have distinct : (Layout.initial [⟨"a:1"⟩, ⟨"b:1"⟩, ⟨"c:1"⟩] (.ofNat 7)).servers.Nodup := by
    decide
  have found : scattered.detect (.initial [⟨"a:1"⟩, ⟨"b:1"⟩, ⟨"c:1"⟩] (.ofNat 7)) =
      .ofList [⟨"b:1"⟩, ⟨"c:1"⟩] := by decide +kernel
  have finds := (finds_detect scattered _ distinct).1
  rw [found] at finds
  exact ⟨distinct, finds⟩

end Fabric

end FaultLab.Simulation
