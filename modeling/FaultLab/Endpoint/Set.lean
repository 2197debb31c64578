import FaultLab.Endpoint

/-! # Finite sets of endpoints

An `EndpointSet` lists its members in strictly rising order, so two sets are equal exactly when
they have the same members (`EndpointSet.ext`). -/

namespace FaultLab

/-- A finite set of endpoints. -/
structure EndpointSet where
  toList : List Endpoint
  sorted : toList.Pairwise (· < ·)
deriving DecidableEq

namespace EndpointSet

instance : Membership Endpoint EndpointSet := ⟨fun s e => e ∈ s.toList⟩

theorem mem_iff {e : Endpoint} {s : EndpointSet} : e ∈ s ↔ e ∈ s.toList := Iff.rfl

instance (e : Endpoint) (s : EndpointSet) : Decidable (e ∈ s) :=
  inferInstanceAs (Decidable (e ∈ s.toList))

/-- The set without members. -/
def empty : EndpointSet := ⟨[], .nil⟩

instance : Inhabited EndpointSet := ⟨empty⟩

@[simp] theorem not_mem_empty (e : Endpoint) : ¬ e ∈ empty := List.not_mem_nil

/-- Put an endpoint where it belongs in a rising list. -/
def insertSorted (e : Endpoint) : List Endpoint → List Endpoint
  | [] => [e]
  | x :: xs => if e < x then e :: x :: xs else if x < e then x :: insertSorted e xs else x :: xs

theorem mem_insertSorted {e a : Endpoint} {xs : List Endpoint} :
    a ∈ insertSorted e xs ↔ a = e ∨ a ∈ xs := by
  induction xs with
  | nil => simp [insertSorted]
  | cons x xs ih =>
    unfold insertSorted
    split
    · simp
    · split
      · simp only [List.mem_cons, ih]
        constructor
        · rintro (h | h | h) <;> simp [h]
        · rintro (h | h | h) <;> simp [h]
      · rename_i h k
        have : x = e := Endpoint.eq_of_not_lt k h
        subst this
        simp

theorem sorted_insertSorted {e : Endpoint} {xs : List Endpoint} (h : xs.Pairwise (· < ·)) :
    (insertSorted e xs).Pairwise (· < ·) := by
  induction xs with
  | nil => simp [insertSorted]
  | cons x xs ih =>
    have hx := List.pairwise_cons.mp h
    unfold insertSorted
    split
    · rename_i hex
      refine List.pairwise_cons.mpr ⟨?_, h⟩
      intro a ha
      rcases List.mem_cons.mp ha with rfl | ha
      · exact hex
      · exact Endpoint.lt_trans hex (hx.1 a ha)
    · split
      · rename_i hxe
        refine List.pairwise_cons.mpr ⟨?_, ih hx.2⟩
        intro a ha
        rcases mem_insertSorted.mp ha with rfl | ha
        · exact hxe
        · exact hx.1 a ha
      · exact h

/-- Add a member. -/
def insert (e : Endpoint) (s : EndpointSet) : EndpointSet :=
  ⟨insertSorted e s.toList, sorted_insertSorted s.sorted⟩

@[simp] theorem mem_insert {e a : Endpoint} {s : EndpointSet} :
    a ∈ s.insert e ↔ a = e ∨ a ∈ s := mem_insertSorted

/-- Take a member out. -/
def erase (e : Endpoint) (s : EndpointSet) : EndpointSet :=
  ⟨s.toList.filter fun a => a ≠ e, s.sorted.filter _⟩

@[simp] theorem mem_erase {e a : Endpoint} {s : EndpointSet} :
    a ∈ s.erase e ↔ a ∈ s ∧ a ≠ e := by
  simp [mem_iff, erase]

/-- The set of the members of a list. -/
def ofList (es : List Endpoint) : EndpointSet := es.foldr insert empty

@[simp] theorem mem_ofList {a : Endpoint} {es : List Endpoint} : a ∈ ofList es ↔ a ∈ es := by
  induction es with
  | nil => simp [ofList]
  | cons e es ih =>
    have : ofList (e :: es) = (ofList es).insert e := rfl
    simp [this, ih]

/-- The number of members. -/
def size (s : EndpointSet) : Nat := s.toList.length

/-- Whether there is no member. -/
def isEmpty (s : EndpointSet) : Bool := s.toList.isEmpty

@[simp] theorem isEmpty_iff {s : EndpointSet} : s.isEmpty = true ↔ s = empty := by
  obtain ⟨es, sorted⟩ := s
  simp [isEmpty, empty]

/-- Whether an endpoint is a member. -/
def contains (s : EndpointSet) (e : Endpoint) : Bool := decide (e ∈ s)

@[simp] theorem contains_iff {s : EndpointSet} {e : Endpoint} :
    s.contains e = true ↔ e ∈ s := by
  simp [contains]

theorem nodup (s : EndpointSet) : s.toList.Nodup := by
  refine List.Pairwise.imp ?_ s.sorted
  rintro a b h rfl
  exact Endpoint.lt_irrefl a h

theorem eq_of_sorted {xs ys : List Endpoint} (hx : xs.Pairwise (· < ·)) (hy : ys.Pairwise (· < ·))
    (h : ∀ a, a ∈ xs ↔ a ∈ ys) : xs = ys := by
  induction xs generalizing ys with
  | nil =>
    cases ys with
    | nil => rfl
    | cons y ys => exact absurd ((h y).mpr (by simp)) (by simp)
  | cons x xs ih =>
    cases ys with
    | nil => exact absurd ((h x).mp (by simp)) (by simp)
    | cons y ys =>
      have hx' := List.pairwise_cons.mp hx
      have hy' := List.pairwise_cons.mp hy
      have hxy : x = y := by
        rcases List.mem_cons.mp ((h x).mp (by simp)) with e | hm
        · exact e
        · rcases List.mem_cons.mp ((h y).mpr (by simp)) with e | hm'
          · exact e.symm
          · exact absurd (hy'.1 x hm) (Endpoint.lt_asymm (hx'.1 y hm'))
      subst hxy
      congr 1
      refine ih hx'.2 hy'.2 fun a => ?_
      constructor
      · intro ha
        rcases List.mem_cons.mp ((h a).mp (by simp [ha])) with e | hm
        · exact absurd (e ▸ hx'.1 a ha) (Endpoint.lt_irrefl x)
        · exact hm
      · intro ha
        rcases List.mem_cons.mp ((h a).mpr (by simp [ha])) with e | hm
        · exact absurd (e ▸ hy'.1 a ha) (Endpoint.lt_irrefl x)
        · exact hm

theorem ext {s t : EndpointSet} (h : ∀ a, a ∈ s ↔ a ∈ t) : s = t := by
  cases s with
  | mk xs hx =>
    cases t with
    | mk ys hy =>
      have := eq_of_sorted hx hy h
      subst this
      rfl

/-- Read a set from a list of endpoints, in any order and with repetitions. -/
def decode : Decoder EndpointSet := fun d => (Decoder.list Endpoint.decode d).map ofList

/-- The members as a list of texts, in rising order. -/
def encode (s : EndpointSet) : Document := .ofList (s.toList.map Endpoint.encode)

end EndpointSet

end FaultLab
