import FaultLab.Endpoint.Table
import FaultLab.Uuid
import FaultLab.Layout
import FaultLab.Proofs.Outcomes

/-! # Records that are read as they were written

A `RecordReader` takes entries if they are its fields in order and each of its parts accepts its own
(`RecordReader.Takes`).  This goes through the ways to build a reader (`takes_field`, `Takes.map`,
`Takes.seq`), and a table of such entries with distinct names is read to what the reader makes of them
(`Takes.decode`).

The other way round, what a reader has made was made of fields that were read one by one
(`decode_eq_ok`, `make_seq_eq_ok`). -/

namespace FaultLab

namespace RecordReader
variable {α β : Type} {x : RecordReader α} {f : RecordReader (α → β)} {name : String}
  {es es' : List (String × Document)} {a : α} {b : β} {g : α → β}

/-- Whether entries are the fields of a record, one after the other, of which a reader makes a value. -/
structure Takes (x : RecordReader α) (es : List (String × Document)) (a : α) : Prop where
  slots : List.Forall₂ (fun (s : Slot) e => s.name = e.1 ∧ s.check e.2 = .ok ()) x.slots es
  make : ∀ look, (∀ e ∈ es, look e.1 = some e.2) → x.make look = .ok a

section fields
variable {item : Decoder α} {d : Document}

theorem takes_field (name : String) (h : item d = .ok a) : (field name item).Takes [(name, d)] a := by
  constructor
  · have checked : (item d).map (fun _ => ()) = .ok () := by
      rw [h]
      rfl
    exact .cons ⟨rfl, checked⟩ .nil
  · intro look there
    have found : look name = some d := there (name, d) List.mem_cons_self
    simp only [field, found, h]

theorem takes_fieldOr (name : String) (h : item d = .ok a) (value : α) :
    (fieldOr name item value).Takes [(name, d)] a := by
  constructor
  · have checked : (item d).map (fun _ => ()) = .ok () := by
      rw [h]
      rfl
    exact .cons ⟨rfl, checked⟩ .nil
  · intro look there
    have found : look name = some d := there (name, d) List.mem_cons_self
    simp only [fieldOr, found, h]

theorem takes_nullable (name : String) {o : Option α} (h : Decoder.optional item d = .ok o) :
    (nullable name item).Takes [(name, d)] o := by
  constructor
  · have checked : (Decoder.optional item d).map (fun _ => ()) = .ok () := by
      rw [h]
      rfl
    exact .cons ⟨rfl, checked⟩ .nil
  · intro look there
    have found : look name = some d := there (name, d) List.mem_cons_self
    simp only [nullable, found, h]

end fields

theorem Takes.map (h : x.Takes es a) (g : α → β) : (g <$> x).Takes es (g a) := by
  constructor
  · exact h.slots
  · intro look there
    change (x.make look).map g = _
    rw [h.make look there]
    rfl

theorem Takes.seq (hf : f.Takes es g) (hx : x.Takes es' a) : (f <*> x).Takes (es ++ es') (g a) := by
  constructor
  · exact List.rel_append hf.slots hx.slots
  · intro look there
    have first := hf.make look fun e he => there e (List.mem_append_left _ he)
    have second := hx.make look fun e he => there e (List.mem_append_right _ he)
    change (f.make look >>= fun g => x.make look >>= fun a => pure (g a)) = _
    rw [first, second]
    rfl

/-! ### Tables -/

section tables
variable {slots : List Slot} {seen : List String}

/-- Entries with distinct names find the fields they belong to. -/
theorem exists_slot (matched : List.Forall₂ (fun (s : Slot) e => s.name = e.1 ∧ s.check e.2 = .ok ())
    slots es) (distinct : (es.map Prod.fst).Nodup) {e : String × Document} (he : e ∈ es) :
    ∃ s, slots.find? (fun s => s.name = e.1) = some s ∧ s.check e.2 = .ok () := by
  induction matched with
  | nil => cases he
  | @cons s e' slots es pair _ ih =>
    obtain ⟨new, distinct⟩ := List.nodup_cons.mp distinct
    rcases List.mem_cons.mp he with rfl | he
    · exact ⟨s, by simp [pair.1], pair.2⟩
    · have other : s.name ≠ e.1 := by
        intro same
        exact new (List.mem_map.mpr ⟨e, he, (pair.1.symm.trans same).symm⟩)
      obtain ⟨t, found, checked⟩ := ih distinct he
      exact ⟨t, by simp [other, found], checked⟩

theorem scan_eq_ok (known : ∀ e ∈ es, ∃ s, slots.find? (fun s => s.name = e.1) = some s ∧
      s.check e.2 = .ok ()) (distinct : (es.map Prod.fst).Nodup) (new : ∀ e ∈ es, e.1 ∉ seen) :
    scan slots seen (es.map fun (k, d) => (some k, d)) = .ok () := by
  induction es generalizing seen with
  | nil => rfl
  | cons e es ih =>
    obtain ⟨k, d⟩ := e
    obtain ⟨s, found, checked⟩ := known (k, d) List.mem_cons_self
    obtain ⟨once, distinct⟩ := List.nodup_cons.mp distinct
    have first : seen.contains k = false := by simpa using new (k, d) List.mem_cons_self
    have rest : scan slots (k :: seen) (es.map fun (k, d) => (some k, d)) = .ok () := by
      refine ih (fun e he => known e (List.mem_cons_of_mem _ he)) distinct fun e he => ?_
      have other : e.1 ≠ k := fun same => once (List.mem_map.mpr ⟨e, he, same⟩)
      simp [other, new e (List.mem_cons_of_mem _ he)]
    rw [List.map_cons, scan]
    simp only [found, first, checked]
    exact rest

theorem find_eq_some (distinct : (es.map Prod.fst).Nodup) {e : String × Document} (he : e ∈ es) :
    ((es.map fun (k, d) => (some k, d)).find? fun (k, _) => k = some e.1).map Prod.snd = some e.2 := by
  induction es with
  | nil => cases he
  | cons p es ih =>
    obtain ⟨new, distinct⟩ := List.nodup_cons.mp distinct
    rcases List.mem_cons.mp he with rfl | he
    · simp
    · have other : p.1 ≠ e.1 := fun same => new (List.mem_map.mpr ⟨e, he, same.symm⟩)
      have later := ih distinct he
      simpa [other] using later

/-- **A table is read to what its fields make.** -/
theorem Takes.decode (h : x.Takes es a) (distinct : (es.map Prod.fst).Nodup) (name : String)
    (reading : Reading) : x.decode name reading (.ofEntries es) = .ok a := by
  have scanned : scan x.slots [] (es.map fun (k, d) => (some k, d)) = .ok () :=
    scan_eq_ok (fun e he => exists_slot h.slots distinct he) distinct fun _ _ => List.not_mem_nil
  have made := h.make (fun name =>
    ((es.map fun (k, d) => (some k, d)).find? fun (k, _) => k = some name).map Prod.snd)
    fun e he => find_eq_some distinct he
  rw [Document.ofEntries, RecordReader.decode, scanned]
  exact made

end tables

/-! ### What was read -/

section inversion
variable {look : String → Option Document} {d : Document} {reading : Reading} {item : Decoder α}

theorem make_map_eq_ok {g : α → β} (h : (g <$> x).make look = .ok b) :
    ∃ a, x.make look = .ok a ∧ g a = b := map_eq_ok.mp h

theorem make_seq_eq_ok (h : (f <*> x).make look = .ok b) :
    ∃ g a, f.make look = .ok g ∧ x.make look = .ok a ∧ g a = b := by
  obtain ⟨g, first, h⟩ := bind_eq_ok.mp h
  obtain ⟨a, second, h⟩ := bind_eq_ok.mp h
  exact ⟨g, a, first, second, Except.ok.inj h⟩

theorem make_field_eq_ok (h : (field name item).make look = .ok a) : ∃ d, item d = .ok a := by
  unfold field at h
  simp only at h
  split at h
  · rename_i d _
    exact ⟨d, h⟩
  · cases h

theorem make_fieldOr_eq_ok {value : α} (h : (fieldOr name item value).make look = .ok a) :
    a = value ∨ ∃ d, item d = .ok a := by
  unfold fieldOr at h
  simp only at h
  split at h
  · rename_i d _
    exact .inr ⟨d, h⟩
  · cases h
    exact .inl rfl

/-- Whatever becomes of surplus items, the answer is what was made. -/
theorem eq_of_surplus {few : Prop} [Decidable few] {whole : Bool} {value : α} {p q r : Problem}
    (h : (if few then (do Decoder.reached whole; return value)
      else match reading with
        | .direct => .error p
        | .complete => .error q
        | .lenient => return value
        | .deferred => .error r) = .ok a) : value = a := by
  split at h
  · obtain ⟨-, -, h⟩ := bind_eq_ok.mp h
    exact Except.ok.inj h
  · cases reading with
    | lenient => exact Except.ok.inj h
    | _ => cases h

theorem fromItems_eq_ok {items : List Document} {whole : Bool}
    (h : x.fromItems name reading items whole = .ok a) : ∃ look, x.make look = .ok a := by
  unfold fromItems at h
  obtain ⟨-, -, h⟩ := bind_eq_ok.mp h
  simp only at h
  split at h
  · obtain ⟨-, -, h⟩ := bind_eq_ok.mp h
    split at h
    · cases h
    · obtain ⟨-, -, h⟩ := bind_eq_ok.mp h
      obtain ⟨value, made, h⟩ := bind_eq_ok.mp h
      exact ⟨_, eq_of_surplus h ▸ made⟩
  · obtain ⟨value, made, h⟩ := bind_eq_ok.mp h
    exact ⟨_, eq_of_surplus h ▸ made⟩

theorem decode_eq_ok (h : x.decode name reading d = .ok a) : ∃ look, x.make look = .ok a := by
  unfold RecordReader.decode at h
  split at h
  · obtain ⟨-, -, h⟩ := bind_eq_ok.mp h
    obtain ⟨-, -, h⟩ := bind_eq_ok.mp h
    exact ⟨_, h⟩
  · exact fromItems_eq_ok h
  · cases h

end inversion

end RecordReader

end FaultLab
