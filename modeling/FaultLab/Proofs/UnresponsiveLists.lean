import FaultLab.Layout
import Mathlib.Data.List.Dedup

/-! # Lists of unresponsive servers

`Layout.unresponsiveExactly` compares the set of unresponsive servers with a list: it counts both, and asks
whether everyone on the list is unresponsive.  The count of a list is the count of a set only if nobody stands
on it twice.  So the servers that the list leaves out (`Layout.unlisted`) are weighed against the entries that
repeat others (`Layout.surplus`), and the answer is yes if there are as many of the ones as of the others
(`Layout.unresponsiveExactly_iff`). -/

namespace FaultLab.Layout
variable {l : Layout} {es : List Endpoint}

/-- The unresponsive servers that are not on a list. -/
def unlisted (es : List Endpoint) (l : Layout) : List Endpoint :=
  l.unresponsive.toList.filter fun e => !decide (e ∈ es)

/-- How many entries of a list repeat another one. -/
def surplus (es : List Endpoint) : Nat := es.length - es.dedup.length

theorem length_dedup_add_surplus (es : List Endpoint) : es.dedup.length + surplus es = es.length :=
  Nat.add_sub_cancel' (List.dedup_sublist es).length_le

theorem surplus_eq_zero : surplus es = 0 ↔ es.Nodup := by
  rw [← List.dedup_eq_self]
  have total := length_dedup_add_surplus es
  constructor
  · intro none
    exact (List.dedup_sublist es).eq_of_length (by omega)
  · intro same
    rw [same] at total
    omega

theorem mem_unlisted {e : Endpoint} : e ∈ l.unlisted es ↔ e ∈ l.unresponsive ∧ e ∉ es := by
  simp [unlisted, EndpointSet.mem_iff]

theorem unlisted_eq_nil : l.unlisted es = [] ↔ ∀ e ∈ l.unresponsive, e ∈ es := by
  rw [List.eq_nil_iff_forall_not_mem]
  simp only [mem_unlisted, not_and, not_not]

theorem size_unresponsive (listed : ∀ e ∈ es, e ∈ l.unresponsive) :
    l.unresponsive.size = es.dedup.length + (l.unlisted es).length := by
  have known : (l.unresponsive.toList.filter fun e => decide (e ∈ es)).Perm es.dedup := by
    refine (List.perm_ext_iff_of_nodup (l.unresponsive.nodup.filter _) (List.nodup_dedup es)).mpr fun e => ?_
    rw [List.mem_filter, decide_eq_true_eq, List.mem_dedup]
    exact and_iff_right_of_imp fun he => EndpointSet.mem_iff.mp (listed e he)
  rw [EndpointSet.size, List.length_eq_length_filter_add fun e => decide (e ∈ es), known.length_eq, unlisted]

/-- The answer is yes if all on the list are unresponsive, and it leaves out as many as it repeats. -/
theorem unresponsiveExactly_iff : l.unresponsiveExactly es = true ↔
    (∀ e ∈ es, e ∈ l.unresponsive) ∧ (l.unlisted es).length = surplus es := by
  have counted : l.unresponsiveExactly es = true ↔
      l.unresponsive.size = es.length ∧ ∀ e ∈ es, e ∈ l.unresponsive := by
    simp [unresponsiveExactly, isUnresponsive]
  rw [counted, and_comm]
  refine and_congr_right fun listed => ?_
  rw [size_unresponsive listed, ← length_dedup_add_surplus es, Nat.add_left_cancel_iff]

theorem unresponsive_eq_ofList : l.unresponsive = .ofList es ↔
    (∀ e ∈ es, e ∈ l.unresponsive) ∧ l.unlisted es = [] := by
  rw [unlisted_eq_nil]
  constructor
  · intro same
    rw [same]
    simp
  · rintro ⟨listed, all⟩
    refine EndpointSet.ext fun e => ?_
    rw [EndpointSet.mem_ofList]
    exact ⟨all e, listed e⟩

/-- A list without repetitions, in whatever order, is told to be exactly the unresponsive servers if it has
just these; one with repetitions never when it has.  In general the answer is yes if all on the list are
unresponsive and as many others are as there are entries that repeat one. -/
theorem unresponsiveExactly_but_for_repetitions (l : Layout) (es : List Endpoint) :
    (es.Nodup → (l.unresponsiveExactly es = true ↔ l.unresponsive = .ofList es)) ∧
    (¬ es.Nodup → ¬ (l.unresponsiveExactly es = true ∧ l.unresponsive = .ofList es)) ∧
    (l.unresponsiveExactly es = true ↔
      (∀ e ∈ es, e ∈ l.unresponsive) ∧ (l.unlisted es).length = surplus es) := by
  refine ⟨fun distinct => ?_, fun repeated => ?_, unresponsiveExactly_iff⟩
  · rw [unresponsiveExactly_iff, unresponsive_eq_ofList, surplus_eq_zero.mpr distinct,
      List.length_eq_zero_iff]
  · rintro ⟨yes, same⟩
    have none := (unresponsive_eq_ofList.mp same).2
    have weighed := (unresponsiveExactly_iff.mp yes).2
    rw [none] at weighed
    exact repeated (surplus_eq_zero.mp weighed.symm)

/-- A layout of two servers, of which some are unresponsive. -/
def ofTwo (unresponsive : List Endpoint) : Layout where
  epoch := 0
  servers := [⟨"10.0.0.1:9000"⟩, ⟨"10.0.0.2:9000"⟩]
  sequencers := []
  segments := []
  unresponsive := .ofList unresponsive
  clusterId := default

/-- Two servers that are unresponsive, listed the other way round, and the first of them listed twice. -/
theorem unresponsiveExactly_two_ways :
    let l := ofTwo [⟨"10.0.0.1:9000"⟩, ⟨"10.0.0.2:9000"⟩]
    l.unresponsiveExactly [⟨"10.0.0.2:9000"⟩, ⟨"10.0.0.1:9000"⟩] = true ∧
      l.unresponsive ≠ .ofList [⟨"10.0.0.1:9000"⟩, ⟨"10.0.0.1:9000"⟩] := by
  intro l
  have same : l.unresponsive = .ofList [⟨"10.0.0.2:9000"⟩, ⟨"10.0.0.1:9000"⟩] := by decide +kernel
  have yes : l.unresponsiveExactly [⟨"10.0.0.1:9000"⟩, ⟨"10.0.0.1:9000"⟩] = true := by decide +kernel
  refine ⟨((unresponsiveExactly_but_for_repetitions l _).1 (by decide)).mpr same, fun equal => ?_⟩
  exact (unresponsiveExactly_but_for_repetitions l _).2.1 (by decide) ⟨yes, equal⟩

/-- A list that names one server twice is told to be exactly the unresponsive ones where another one is, and
not to be where no other one is. -/
theorem repeated_entry_hides_unlisted :
    ((ofTwo [⟨"10.0.0.1:9000"⟩, ⟨"10.0.0.2:9000"⟩]).unresponsiveExactly
        [⟨"10.0.0.1:9000"⟩, ⟨"10.0.0.1:9000"⟩] = true ∧
      (ofTwo [⟨"10.0.0.1:9000"⟩, ⟨"10.0.0.2:9000"⟩]).unresponsive ≠
        .ofList [⟨"10.0.0.1:9000"⟩, ⟨"10.0.0.1:9000"⟩]) ∧
    (ofTwo [⟨"10.0.0.1:9000"⟩]).unresponsiveExactly [⟨"10.0.0.1:9000"⟩, ⟨"10.0.0.1:9000"⟩] = false ∧
      (ofTwo [⟨"10.0.0.1:9000"⟩]).unresponsive = .ofList [⟨"10.0.0.1:9000"⟩, ⟨"10.0.0.1:9000"⟩] := by
  decide +kernel

end FaultLab.Layout
