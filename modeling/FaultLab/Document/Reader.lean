import FaultLab.Document

/-! # Reading documents

A `Decoder α` reads an `α` from a document and stops at the first problem in the order of the text.
Records are read by a `RecordReader`, which knows its fields in the order of their declaration; it
is built from `field`, `fieldOr` and `nullable` with `<*>`.  A record may be written as a table, in
any order and with fields that nobody asks for, or as the list of its fields in order of
declaration.  In a table a missing field is noticed at the end, in the order of declaration. -/

namespace FaultLab

/-- Reads a value from a document. -/
abbrev Decoder (α : Type) := Document → Except Problem α

/-- The ways to come by a document.  They differ in what becomes of items beyond those that are
wanted, and of other things that do not fit. -/
inductive Reading where
  /-- A text that is understood while it is read; what does not fit leaves it ill formed. -/
  | direct
  /-- A value that is there in full before it is understood; what does not fit is named. -/
  | complete
  /-- Settings; items beyond the wanted ones are not looked at. -/
  | lenient
  /-- A part that was taken in until its kind was known; items beyond the wanted ones are counted. -/
  | deferred
deriving DecidableEq

namespace Decoder

variable {α β : Type}

/-- Any integer within bounds; `wanted` names the bounds. -/
def integer (low high : Int) (wanted : String) : Decoder Int
  | .integer n =>
    if low ≤ n ∧ n ≤ high then .ok n else .error (.mismatch (.invalidValue (.integer n) wanted))
  | d => .error (d.unexpected wanted)

/-- An integer of sixteen bits. -/
def u16 : Decoder UInt16 := fun d =>
  (integer 0 0xffff "u16" d).map fun n => UInt16.ofNat n.toNat

/-- An integer of thirty-two bits. -/
def u32 : Decoder UInt32 := fun d =>
  (integer 0 0xffffffff "u32" d).map fun n => UInt32.ofNat n.toNat

/-- An integer of sixty-four bits. -/
def u64 : Decoder UInt64 := fun d =>
  (integer 0 0xffffffffffffffff "u64" d).map fun n => UInt64.ofNat n.toNat

/-- A count of sixty-four bits. -/
def count : Decoder Nat := fun d =>
  (integer 0 0xffffffffffffffff "usize" d).map Int.toNat

/-- A number, which may be written as an integer. -/
def number : Decoder Binary64
  | .float x => .ok x
  | .integer n =>
    .ok (if n < 0 then (Binary64.ofNat n.natAbs).negate else Binary64.ofNat n.natAbs)
  | d => .error (d.unexpected "f64")

/-- A truth value. -/
def bool : Decoder Bool
  | .bool b => .ok b
  | d => .error (d.unexpected "a boolean")

/-- A text. -/
def text : Decoder String
  | .text s => .ok s
  | d => .error (d.unexpected "a string")

/-- `null` or a value. -/
def optional (item : Decoder α) : Decoder (Option α)
  | .null => .ok none
  | d => (item d).map some

/-- Nothing but `null`. -/
def unit : Decoder Unit
  | .null => .ok ()
  | d => .error (d.unexpected "unit")

/-- The end of a list or table has to be reached. -/
def reached (whole : Bool) : Except Problem Unit :=
  if whole then .ok () else .error .illFormed

/-- A list of values. -/
def list (item : Decoder α) : Decoder (List α)
  | .list items whole => do
    let values ← items.mapM item
    reached whole
    return values
  | d => .error (d.unexpected "a sequence")

/-- An entry has to have a name. -/
def named (name : Option String) : Except Problem String :=
  match name with
  | some name => .ok name
  | none => .error .illFormed

/-- The entries of a table with names and values of given kinds. -/
def entries (key : String → Except Problem α) (item : Decoder β) : Decoder (List (α × β))
  | .table entries whole => do
    let pairs ← entries.mapM fun (k, d) => do
      let name ← named k
      let name ← key name
      let value ← item d
      return (name, value)
    reached whole
    return pairs
  | d => .error (d.unexpected "a map")

/-- One of a fixed set of names. -/
def variant (names : List (String × α)) (found : String) : Except Problem α :=
  match names.find? fun (n, _) => n = found with
  | some (_, a) => .ok a
  | none => .error (.mismatch (.unknownVariant found (names.map Prod.fst)))

/-- A name of a fixed set and the `null` that goes with it. -/
def variantEntry (names : List (String × α)) (name : Option String) (content : Document) :
    Except Problem α := do
  let name ← named name
  let value ← variant names name
  unit content
  return value

/-- One of a fixed set of names in a value that is there in full. -/
def choiceInFull (names : List (String × α)) : Decoder α
  | .text s => variant names s
  | .table [(k, d)] _ => variantEntry names k d
  | .table _ _ => .error (.mismatch (.invalidValue .map "map with a single key"))
  | d => .error (d.unexpected "string or map")

/-- One of a fixed set of names, as a text or as a table from that name alone to `null`. -/
def choice (reading : Reading) (names : List (String × α)) : Decoder α := fun d =>
  match reading, d with
  | .complete, d => choiceInFull names d
  | _, .text s => variant names s
  | _, .table ((k, d) :: rest) whole => do
    let value ← variantEntry names k d
    reached (rest.isEmpty && whole)
    return value
  | _, _ => .error .illFormed

mutual

/-- Whether every part of a document has a value, with at most `room` levels of nesting. -/
def legible : Nat → Document → Bool
  | _, .broken => false
  | _, .garbled => false
  | 0, .list _ _ => false
  | 0, .table _ _ => false
  | n + 1, .list items whole => legibleItems n items && whole
  | n + 1, .table entries whole => legibleEntries n entries && whole
  | _, _ => true

/-- Whether all items are legible. -/
def legibleItems : Nat → List Document → Bool
  | _, [] => true
  | n, d :: ds => legible n d && legibleItems n ds

/-- Whether all entries are legible. -/
def legibleEntries : Nat → List (Option String × Document) → Bool
  | _, [] => true
  | n, (k, d) :: ds => k.isSome && legible n d && legibleEntries n ds

end

mutual

/-- Whether the text makes sense to the end of a document that nobody asks for. -/
def skippable : Document → Bool
  | .broken => false
  | .list items whole => skippableItems items && whole
  | .table entries whole => skippableEntries entries && whole
  | _ => true

/-- Whether all items can be skipped. -/
def skippableItems : List Document → Bool
  | [] => true
  | d :: ds => skippable d && skippableItems ds

/-- Whether all entries can be skipped, whatever their names are. -/
def skippableEntries : List (Option String × Document) → Bool
  | [] => true
  | (_, d) :: ds => skippable d && skippableEntries ds

end

/-- Read past a document that nobody asks for. -/
def skip (d : Document) : Except Problem Unit :=
  if skippable d then .ok () else .error .illFormed

end Decoder

/-- A field of a record as its reader sees it. -/
structure Slot where
  name : String
  /-- Whether a record written as a list has to go as far as this field. -/
  listed : Bool
  /-- Looks for the first problem with the field. -/
  check : Document → Except Problem Unit

/-- Reads a record: its fields in order of declaration, and how to make an `α` of their values. -/
structure RecordReader (α : Type) where
  slots : List Slot
  make : (String → Option Document) → Except Problem α

namespace RecordReader

variable {α β : Type}

/-- A field that has to be there. -/
def field (name : String) (item : Decoder α) : RecordReader α where
  slots := [⟨name, true, fun d => (item d).map fun _ => ()⟩]
  make look := match look name with
    | some d => item d
    | none => .error (.mismatch (.missingField name))

/-- A field with a value of its own where it is missing. -/
def fieldOr (name : String) (item : Decoder α) (value : α) : RecordReader α where
  slots := [⟨name, false, fun d => (item d).map fun _ => ()⟩]
  make look := match look name with
    | some d => item d
    | none => .ok value

/-- A field that is `null` where it is missing from a table. -/
def nullable (name : String) (item : Decoder α) : RecordReader (Option α) where
  slots := [⟨name, true, fun d => (Decoder.optional item d).map fun _ => ()⟩]
  make look := match look name with
    | some d => Decoder.optional item d
    | none => .ok none

/-- A record without fields. -/
def empty (a : α) : RecordReader α := ⟨[], fun _ => .ok a⟩

/-- The fields of two records, one after the other. -/
def both (f : RecordReader (α → β)) (x : Unit → RecordReader α) : RecordReader β where
  slots := f.slots ++ (x ()).slots
  make look := do
    let g ← f.make look
    let a ← (x ()).make look
    return g a

instance : Functor RecordReader where
  map f x := ⟨x.slots, fun look => (x.make look).map f⟩

instance : Pure RecordReader := ⟨empty⟩

instance : Seq RecordReader := ⟨both⟩

/-- The number of fields in words. -/
def size (x : RecordReader α) : String :=
  if x.slots.length = 1 then "1 element" else s!"{x.slots.length} elements"

/-- Go through the entries of a table; `seen` are the names of the fields so far. -/
def scan (slots : List Slot) : List String → List (Option String × Document) →
    Except Problem Unit
  | _, [] => .ok ()
  | _, (none, _) :: _ => .error .illFormed
  | seen, (some k, d) :: rest =>
    match slots.find? fun s => s.name = k with
    | none => do
      Decoder.skip d
      scan slots seen rest
    | some s => do
      if seen.contains k then .error (.mismatch (.repeatedField k))
      s.check d
      scan slots (k :: seen) rest

/-- Go through the items of a list, one for each field. -/
def march : List Slot → List Document → Except Problem Unit
  | s :: slots, d :: ds => do
    s.check d
    march slots ds
  | _, _ => .ok ()

/-- The position of the first field from `n` on that a list has to reach. -/
def firstListed : Nat → List Slot → Option Nat
  | _, [] => none
  | n, s :: slots => if s.listed then some n else firstListed (n + 1) slots

/-- Read a record from the entries of a table. -/
def fromEntries (x : RecordReader α) (entries : List (Option String × Document)) :
    Except Problem α := do
  scan x.slots [] entries
  x.make fun name => (entries.find? fun (k, _) => k = some name).map Prod.snd

/-- Read a record called `name` from the items of a list. -/
def fromItems (x : RecordReader α) (name : String) (reading : Reading) (items : List Document)
    (whole : Bool) : Except Problem α := do
  march x.slots items
  if items.length < x.slots.length then
    Decoder.reached whole
    match firstListed items.length (x.slots.drop items.length) with
    | some n =>
      .error (.mismatch (.invalidLength n ("struct " ++ name ++ " with " ++ x.size)))
    | none => .ok ()
  let pairs := (x.slots.map Slot.name).zip items
  let value ← x.make fun name => (pairs.find? fun (k, _) => k = name).map Prod.snd
  if items.length ≤ x.slots.length then
    Decoder.reached whole
    return value
  else match reading with
    | .direct => .error .illFormed
    | .complete => .error (.mismatch (.invalidLength items.length "fewer elements in array"))
    | .lenient => return value
    | .deferred =>
      .error (.mismatch (.invalidLength items.length (x.size ++ " in sequence")))

/-- Read a record called `name` from a table or a list. -/
def decode (x : RecordReader α) (name : String) (reading : Reading) : Decoder α
  | .table entries whole => do
    scan x.slots [] entries
    Decoder.reached whole
    x.make fun name => (entries.find? fun (k, _) => k = some name).map Prod.snd
  | .list items whole => x.fromItems name reading items whole
  | d => .error (d.unexpected ("struct " ++ name))

end RecordReader

end FaultLab
