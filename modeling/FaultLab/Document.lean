import FaultLab.Number.Shortest
import FaultLab.Text.Quoted

/-! # Documents and what can be wrong with them

A `Document` is what a configuration or wire text says, before anyone asks whether it says the
right thing.  It keeps the order of the text, and it keeps how far the text made sense: a list or
table is `whole` when its end was reached, `broken` stands where the text stops making sense, and
`garbled` stands for a token that has an end but no value.  An entry of a table whose name is such a
token has no name.

A `Problem` is the first thing that goes wrong when a document is read in the order of its text.
Either the text is `illFormed`, or it is well formed and says something of the wrong kind, a
`Mismatch`. -/

namespace FaultLab

/-- The content of a structured text. -/
inductive Document where
  | null
  | bool (value : Bool)
  | integer (value : Int)
  | float (value : Binary64)
  | text (value : String)
  | list (items : List Document) (whole : Bool)
  | table (entries : List (Option String × Document)) (whole : Bool)
  | garbled
  | broken

namespace Document

/-- A list that ends where it should. -/
def ofList (items : List Document) : Document := list items true

/-- A table that ends where it should. -/
def ofEntries (entries : List (String × Document)) : Document :=
  table (entries.map fun (k, d) => (some k, d)) true

/-- Whether the text made sense up to the end of this document. -/
def intact : Document → Bool
  | list _ whole => whole
  | table _ whole => whole
  | broken => false
  | _ => true

/-- The entry with a given name, the last one if the name is repeated. -/
def find? (name : String) : Document → Option Document
  | table entries _ => (entries.reverse.find? fun (k, _) => k = some name).map Prod.snd
  | _ => none

/-- The items of a list. -/
def items : Document → List Document
  | list items _ => items
  | _ => []

/-- The entries of a table that have names. -/
def entries : Document → List (String × Document)
  | table entries _ => entries.filterMap fun (k, d) => k.map fun k => (k, d)
  | _ => []

end Document

/-- The kind of value that was found where another was wanted. -/
inductive Shape where
  | null
  | bool (value : Bool)
  | integer (value : Int)
  | float (value : Binary64)
  | text (value : String)
  | sequence
  | map

/-- The shape of a document, if it has a value. -/
def Document.shape? : Document → Option Shape
  | null => some .null
  | bool b => some (.bool b)
  | integer n => some (.integer n)
  | float x => some (.float x)
  | text s => some (.text s)
  | list _ _ => some .sequence
  | table _ _ => some .map
  | garbled => none
  | broken => none

/-- A shape in words, with fractions written as `decimal` says. -/
def Shape.describe (decimal : Binary64 → String) : Shape → String
  | null => "null"
  | bool b => s!"boolean `{b}`"
  | integer n => s!"integer `{n}`"
  | float x => "floating point `" ++ decimal x ++ "`"
  | text s => "string " ++ Text.quote s
  | sequence => "sequence"
  | map => "map"

/-- The ways in which a well-formed document says something of the wrong kind. -/
inductive Mismatch where
  /-- A value of another shape. -/
  | invalidType (found : Shape) (wanted : String)
  /-- A value of the right shape that is out of range. -/
  | invalidValue (found : Shape) (wanted : String)
  /-- A list that ends too early or goes on too long. -/
  | invalidLength (found : Nat) (wanted : String)
  /-- A name that is none of the wanted ones. -/
  | unknownVariant (found : String) (wanted : List String)
  /-- A field that has to be there and is not. -/
  | missingField (name : String)
  /-- A text that is no endpoint. -/
  | invalidEndpoint (text : String)
  /-- A field that is given twice. -/
  | repeatedField (name : String)
  /-- A text that is no identifier of a cluster. -/
  | invalidIdentifier (text : String)

/-- A list of alternatives in words. -/
def alternatives (names : List String) : String :=
  match names.map fun n => "`" ++ n ++ "`" with
  | [] => "there are no variants"
  | [a] => "expected " ++ a
  | [a, b] => "expected " ++ a ++ " or " ++ b
  | many => "expected one of " ++ String.intercalate ", " many

namespace Mismatch

/-- The words for a mismatch; some are known by their kind alone. -/
def message? (decimal : Binary64 → String) : Mismatch → Option String
  | invalidType found wanted =>
    some ("invalid type: " ++ found.describe decimal ++ ", expected " ++ wanted)
  | invalidValue found wanted =>
    some ("invalid value: " ++ found.describe decimal ++ ", expected " ++ wanted)
  | invalidLength found wanted => some s!"invalid length {found}, expected {wanted}"
  | unknownVariant found wanted =>
    some ("unknown variant `" ++ found ++ "`, " ++ alternatives wanted)
  | missingField name => some ("missing field `" ++ name ++ "`")
  | invalidEndpoint text => some ("invalid endpoint " ++ Text.quote text ++ ": expected host:port")
  | repeatedField _ => none
  | invalidIdentifier _ => none

end Mismatch

/-- Why a document cannot be read. -/
inductive Problem where
  /-- The text is not well formed. -/
  | illFormed
  /-- The text is well formed and does not say what it should. -/
  | mismatch (cause : Mismatch)

/-- The problem with a document that is not of the wanted kind. -/
def Document.unexpected (d : Document) (wanted : String) : Problem :=
  match d.shape? with
  | some found => .mismatch (.invalidType found wanted)
  | none => .illFormed

end FaultLab
