import FaultLab.Document

/-! # Fields that may be missing

Where a table is read leniently, a field that is missing, or of another kind than the wanted one,
counts as empty: the empty text, zero, false, the empty list. -/

namespace FaultLab.Document

/-- The text that a document is. -/
def asText? : Document → Option String
  | text s => some s
  | _ => none

/-- The natural number that a document is; numbers below zero count as zero. -/
def asNat? : Document → Option Nat
  | integer n => some n.toNat
  | _ => none

/-- The field with a name. -/
def entry (d : Document) (name : String) : Document := (d.find? name).getD .null

/-- Whether there is a field with a name. -/
def has (d : Document) (name : String) : Bool := (d.find? name).isSome

/-- A field that holds a text, if it does. -/
def textAt? (d : Document) (name : String) : Option String := (d.entry name).asText?

/-- A field that holds a text. -/
def textAt (d : Document) (name : String) : String := (d.textAt? name).getD ""

/-- A field that holds a natural number, if it does. -/
def natAt? (d : Document) (name : String) : Option Nat := (d.entry name).asNat?

/-- A field that holds a natural number. -/
def natAt (d : Document) (name : String) : Nat := (d.natAt? name).getD 0

/-- A field that holds an integer. -/
def integerAt (d : Document) (name : String) : Int :=
  match d.entry name with
  | integer n => n
  | _ => 0

/-- A field that holds a truth value. -/
def boolAt (d : Document) (name : String) : Bool :=
  match d.entry name with
  | bool b => b
  | _ => false

/-- A field that holds a list. -/
def itemsAt (d : Document) (name : String) : List Document := (d.entry name).items

/-- A field that holds a list of texts. -/
def textsAt (d : Document) (name : String) : List String :=
  (d.itemsAt name).map fun i => i.asText?.getD ""

/-- A field that holds a list of natural numbers. -/
def natsAt (d : Document) (name : String) : List Nat :=
  (d.itemsAt name).map fun i => i.asNat?.getD 0

end FaultLab.Document
