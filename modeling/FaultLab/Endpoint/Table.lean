import FaultLab.Endpoint

/-! # Tables by endpoint

An `EndpointTable α` gives each of finitely many endpoints an `α`.  Its entries stand in strictly
rising order of their keys, so two tables with the same entries for all keys are equal
(`EndpointTable.ext`). -/

namespace FaultLab

/-- Values for finitely many endpoints. -/
structure EndpointTable (α : Type) where
  entries : List (Endpoint × α)
  sorted : entries.Pairwise fun a b => a.1 < b.1
deriving DecidableEq

namespace EndpointTable

variable {α : Type}

/-- The table without entries. -/
def empty : EndpointTable α := ⟨[], .nil⟩

instance : Inhabited (EndpointTable α) := ⟨empty⟩

/-- Look a key up in a list of entries. -/
def lookup (e : Endpoint) : List (Endpoint × α) → Option α
  | [] => none
  | (k, a) :: es => if k = e then some a else lookup e es

/-- The value of a key. -/
def get? (t : EndpointTable α) (e : Endpoint) : Option α := lookup e t.entries

/-- The keys in rising order. -/
def keys (t : EndpointTable α) : List Endpoint := t.entries.map Prod.fst

/-- Put an entry where it belongs, in place of one with the same key. -/
def insertSorted (e : Endpoint) (a : α) : List (Endpoint × α) → List (Endpoint × α)
  | [] => [(e, a)]
  | (k, b) :: es =>
    if e < k then (e, a) :: (k, b) :: es
    else if k < e then (k, b) :: insertSorted e a es
    else (e, a) :: es

theorem fst_mem_insertSorted {e : Endpoint} {a : α} {es : List (Endpoint × α)}
    {p : Endpoint × α} (h : p ∈ insertSorted e a es) : p.1 = e ∨ p ∈ es := by
  induction es with
  | nil => simp_all [insertSorted]
  | cons q es ih =>
    obtain ⟨k, b⟩ := q
    unfold insertSorted at h
    split at h
    · rcases List.mem_cons.mp h with rfl | h
      · exact .inl rfl
      · exact .inr h
    · split at h
      · rcases List.mem_cons.mp h with rfl | h
        · exact .inr (by simp)
        · rcases ih h with h | h
          · exact .inl h
          · exact .inr (by simp [h])
      · rcases List.mem_cons.mp h with rfl | h
        · exact .inl rfl
        · exact .inr (by simp [h])

theorem sorted_insertSorted {e : Endpoint} {a : α} {es : List (Endpoint × α)}
    (h : es.Pairwise fun x y => x.1 < y.1) :
    (insertSorted e a es).Pairwise fun x y => x.1 < y.1 := by
  induction es with
  | nil => simp [insertSorted]
  | cons q es ih =>
    obtain ⟨k, b⟩ := q
    have hk := List.pairwise_cons.mp h
    unfold insertSorted
    split
    · rename_i hek
      refine List.pairwise_cons.mpr ⟨?_, h⟩
      intro p hp
      rcases List.mem_cons.mp hp with rfl | hp
      · exact hek
      · exact Endpoint.lt_trans hek (hk.1 p hp)
    · split
      · rename_i hke
        refine List.pairwise_cons.mpr ⟨?_, ih hk.2⟩
        intro p hp
        rcases fst_mem_insertSorted hp with h | hp
        · exact h ▸ hke
        · exact hk.1 p hp
      · rename_i hek hke
        have : k = e := Endpoint.eq_of_not_lt hke hek
        subst this
        exact List.pairwise_cons.mpr ⟨fun p hp => hk.1 p hp, hk.2⟩

/-- Give a key a value. -/
def insert (e : Endpoint) (a : α) (t : EndpointTable α) : EndpointTable α :=
  ⟨insertSorted e a t.entries, sorted_insertSorted t.sorted⟩

theorem lookup_eq_none_of_lt {e : Endpoint} {es : List (Endpoint × α)}
    (h : ∀ p ∈ es, e < p.1) : lookup e es = none := by
  induction es with
  | nil => rfl
  | cons p es ih =>
    have hne : p.1 ≠ e := fun heq => Endpoint.lt_irrefl e (heq ▸ h p (by simp))
    simp [lookup, hne, ih fun q hq => h q (by simp [hq])]

theorem lookup_insertSorted {e x : Endpoint} {a : α} {es : List (Endpoint × α)} :
    lookup x (insertSorted e a es) = if x = e then some a else lookup x es := by
  induction es with
  | nil =>
    by_cases h : x = e
    · simp [insertSorted, lookup, h]
    · have h' : e ≠ x := Ne.symm h
      simp [insertSorted, lookup, h, h']
  | cons q es ih =>
    obtain ⟨k, b⟩ := q
    unfold insertSorted
    split
    · by_cases h : x = e
      · simp [lookup, h]
      · have h' : e ≠ x := Ne.symm h
        simp [lookup, h, h']
    · split
      · rename_i hke
        by_cases h : x = e
        · subst h
          have : k ≠ x := fun heq => Endpoint.lt_irrefl x (heq ▸ hke)
          simp [lookup, this, ih]
        · simp [lookup, ih, h]
      · rename_i hek hke
        have hk : k = e := Endpoint.eq_of_not_lt hke hek
        subst hk
        by_cases h : x = k
        · simp [lookup, h]
        · have h' : k ≠ x := Ne.symm h
          simp [lookup, h, h']

@[simp] theorem get?_insert {e x : Endpoint} {a : α} {t : EndpointTable α} :
    (t.insert e a).get? x = if x = e then some a else t.get? x := lookup_insertSorted

@[simp] theorem get?_empty (e : Endpoint) : (empty : EndpointTable α).get? e = none := rfl

/-- The table of a list of entries; of entries with the same key the last one counts. -/
def ofList (es : List (Endpoint × α)) : EndpointTable α :=
  es.foldl (fun t (e, a) => t.insert e a) empty

theorem get?_foldl_insert {e : Endpoint} {value : Endpoint → α} {es : List Endpoint}
    {t : EndpointTable α} :
    ((es.map fun x => (x, value x)).foldl (fun t (x, a) => t.insert x a) t).get? e =
      if e ∈ es then some (value e) else t.get? e := by
  induction es generalizing t with
  | nil => simp
  | cons x es ih =>
    rw [List.map_cons, List.foldl_cons, ih, get?_insert]
    by_cases rest : e ∈ es
    · simp [rest]
    · by_cases here : e = x
      · simp [here]
      · simp [rest, here]

theorem get?_ofList_map {e : Endpoint} {value : Endpoint → α} {es : List Endpoint} :
    (ofList (es.map fun x => (x, value x))).get? e = if e ∈ es then some (value e) else none :=
  get?_foldl_insert

/-- Change the value of a key that is there. -/
def update (e : Endpoint) (f : α → α) (t : EndpointTable α) : EndpointTable α :=
  match t.get? e with
  | some a => t.insert e (f a)
  | none => t

@[simp] theorem get?_update {e x : Endpoint} {f : α → α} {t : EndpointTable α} :
    (t.update e f).get? x = if x = e then (t.get? e).map f else t.get? x := by
  unfold update
  split
  · rename_i a ha
    simp [ha]
  · rename_i hn
    by_cases h : x = e
    · simp [h, hn]
    · simp [h]

/-- Whether a key is there. -/
def contains (t : EndpointTable α) (e : Endpoint) : Bool := (t.get? e).isSome

theorem lookup_eq_some_iff {e : Endpoint} {a : α} {es : List (Endpoint × α)}
    (h : es.Pairwise fun x y => x.1 < y.1) : lookup e es = some a ↔ (e, a) ∈ es := by
  induction es with
  | nil => simp [lookup]
  | cons q es ih =>
    obtain ⟨k, b⟩ := q
    have hk := List.pairwise_cons.mp h
    by_cases hke : k = e
    · subst hke
      have : ∀ c, ¬ (k, c) ∈ es := fun c hc => Endpoint.lt_irrefl k (hk.1 _ hc)
      simp [lookup, this, eq_comm]
    · have h' : e ≠ k := Ne.symm hke
      simp [lookup, hke, h', ih hk.2]

theorem mem_keys {t : EndpointTable α} {e : Endpoint} : e ∈ t.keys ↔ (t.get? e).isSome := by
  rw [keys, List.mem_map, Option.isSome_iff_exists]
  constructor
  · rintro ⟨⟨k, a⟩, mem, rfl⟩
    exact ⟨a, (lookup_eq_some_iff t.sorted).mpr mem⟩
  · rintro ⟨a, found⟩
    exact ⟨(e, a), (lookup_eq_some_iff t.sorted).mp found, rfl⟩

theorem mem_keys_ofList_map {e : Endpoint} {value : Endpoint → α} {es : List Endpoint} :
    e ∈ (ofList (es.map fun x => (x, value x))).keys ↔ e ∈ es := by
  rw [mem_keys, get?_ofList_map]
  by_cases there : e ∈ es
  · simp [there]
  · simp [there]

theorem eq_of_sorted {xs ys : List (Endpoint × α)} (hx : xs.Pairwise fun a b => a.1 < b.1)
    (hy : ys.Pairwise fun a b => a.1 < b.1) (h : ∀ p, p ∈ xs ↔ p ∈ ys) : xs = ys := by
  induction xs generalizing ys with
  | nil =>
    cases ys with
    | nil => rfl
    | cons y ys => exact absurd ((h y).mpr (by simp)) (by simp)
  | cons x xs ih =>
    cases ys with
    | nil => exact absurd ((h x).mp (by simp)) (by simp)
    | cons y ys =>
      have hx' := List.pairwise_cons.mp hx
      have hy' := List.pairwise_cons.mp hy
      have hxy : x = y := by
        rcases List.mem_cons.mp ((h x).mp (by simp)) with e | hm
        · exact e
        · rcases List.mem_cons.mp ((h y).mpr (by simp)) with e | hm'
          · exact e.symm
          · exact absurd (hy'.1 x hm) (Endpoint.lt_asymm (hx'.1 y hm'))
      subst hxy
      congr 1
      refine ih hx'.2 hy'.2 fun a => ?_
      constructor
      · intro ha
        rcases List.mem_cons.mp ((h a).mp (by simp [ha])) with e | hm
        · exact absurd (e ▸ hx'.1 a ha) (Endpoint.lt_irrefl x.1)
        · exact hm
      · intro ha
        rcases List.mem_cons.mp ((h a).mpr (by simp [ha])) with e | hm
        · exact absurd (e ▸ hy'.1 a ha) (Endpoint.lt_irrefl x.1)
        · exact hm

theorem ext {s t : EndpointTable α} (h : ∀ e, s.get? e = t.get? e) : s = t := by
  cases s with
  | mk xs hx =>
    cases t with
    | mk ys hy =>
      have : xs = ys := eq_of_sorted hx hy fun p => by
        obtain ⟨e, a⟩ := p
        rw [← lookup_eq_some_iff hx, ← lookup_eq_some_iff hy]
        exact iff_of_eq (congrArg (· = some a) (h e))
      subst this
      rfl

/-- Read a table whose names are endpoints; of entries with the same name the last one counts. -/
def decode (item : Decoder α) : Decoder (EndpointTable α) := fun d =>
  (Decoder.entries Endpoint.ofText item d).map ofList

/-- The entries in rising order of their names. -/
def encode (item : α → Document) (t : EndpointTable α) : Document :=
  .ofEntries (t.entries.map fun (e, a) => (e.text, item a))

end EndpointTable

end FaultLab
