import FaultLab.Endpoint.Set

/-! # Finding the members that are cut off

A detector sees some members that are up, each with the peers it blocks.  A link between two of them
is broken if either blocks the other.  `cut` takes out the member with the most broken links, of
several the one with the largest endpoint, and goes on until no link between those left is
broken. -/

namespace FaultLab.Simulation

/-- A member that is up, and the peers it blocks. -/
structure Vantage where
  endpoint : Endpoint
  blocked : EndpointSet

/-- Whether the link between two members is broken. -/
def Vantage.broken (a b : Vantage) : Bool :=
  a.blocked.contains b.endpoint || b.blocked.contains a.endpoint

/-- The ends of the broken links, each as often as it is one. -/
def brokenEnds : List Vantage → List Endpoint
  | [] => []
  | a :: rest =>
    ((rest.filter a.broken).flatMap fun b => [a.endpoint, b.endpoint]) ++ brokenEnds rest

/-- Whether one endpoint comes before another as the worst: it ends more broken links, or as many
and is larger. -/
def outranks (ends : List Endpoint) (a b : Endpoint) : Bool :=
  let m := ends.count a
  let n := ends.count b
  n < m || (n = m && b < a)

/-- The worst of some endpoints. -/
def worst? (ends : List Endpoint) : List Endpoint → Option Endpoint
  | [] => none
  | a :: rest =>
    match worst? ends rest with
    | none => some a
    | some b => if outranks ends a b then some a else some b

theorem worst?_mem {ends es : List Endpoint} {e : Endpoint} (h : worst? ends es = some e) :
    e ∈ es := by
  induction es generalizing e with
  | nil => simp [worst?] at h
  | cons a rest ih =>
    simp only [worst?] at h
    split at h
    · simp_all
    · rename_i b hb
      split at h
      · simp_all
      · have := ih hb
        simp_all

/-- The endpoints that end some broken link. -/
def suspects (seen : List Vantage) : List Endpoint :=
  let ends := brokenEnds seen
  (seen.map Vantage.endpoint).filter ends.contains

/-- The worst endpoint, if a link is broken. -/
def worstOf (seen : List Vantage) : Option Endpoint := worst? (brokenEnds seen) (suspects seen)

theorem worstOf_mem {seen : List Vantage} {e : Endpoint} (h : worstOf seen = some e) :
    ∃ v ∈ seen, v.endpoint = e := by
  have := worst?_mem h
  simp only [suspects, List.mem_filter, List.mem_map] at this
  exact this.1

/-- The members but one. -/
def without (e : Endpoint) (seen : List Vantage) : List Vantage :=
  seen.filter fun v => v.endpoint ≠ e

theorem length_without_worst {seen : List Vantage} {e : Endpoint} (h : worstOf seen = some e) :
    (without e seen).length < seen.length := by
  obtain ⟨v, hv, rfl⟩ := worstOf_mem h
  rw [without, List.length_filter_lt_length_iff_exists]
  exact ⟨v, hv, by simp⟩

/-- The members to take out until no link is broken, in the order of taking them out. -/
def cut (seen : List Vantage) : List Endpoint :=
  match _h : worstOf seen with
  | none => []
  | some e => e :: cut (without e seen)
termination_by seen.length
decreasing_by exact length_without_worst ‹_›

end FaultLab.Simulation
