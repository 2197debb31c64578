import FaultLab.Document

/-! # Writing JSON text

`Json.write` writes a document without blanks, its entries in their order.  Controls and the two
characters that end or escape a string are escaped; every other character stands for itself. -/

namespace FaultLab.Json

/-- A digit of four that write a control by its number. -/
def nibble (n : Nat) : Char := Nat.digitChar (n % 16)

/-- A character as it stands in a string. -/
def escapeChar (c : Char) : List Char :=
  if c = '"' then ['\\', '"']
  else if c = '\\' then ['\\', '\\']
  else if c = '\x08' then ['\\', 'b']
  else if c = '\x0c' then ['\\', 'f']
  else if c = '\n' then ['\\', 'n']
  else if c = '\r' then ['\\', 'r']
  else if c = '\t' then ['\\', 't']
  else if c.toNat < 0x20 then ['\\', 'u', '0', '0', nibble (c.toNat / 16), nibble c.toNat]
  else [c]

/-- A string between quotes. -/
def writeString (s : String) : List Char := '"' :: s.toList.flatMap escapeChar ++ ['"']

/-- An integer in decimal digits. -/
def writeInteger : Int → List Char
  | .ofNat n => Nat.toDigits 10 n
  | .negSucc n => '-' :: Nat.toDigits 10 (n + 1)

/-- The name of an entry. -/
def writeName (name : Option String) : List Char := writeString (name.getD "")

mutual

/-- The characters of a document. -/
def writeChars : Document → List Char
  | .null => ['n', 'u', 'l', 'l']
  | .bool true => ['t', 'r', 'u', 'e']
  | .bool false => ['f', 'a', 'l', 's', 'e']
  | .integer n => writeInteger n
  | .float x => x.compact.toList
  | .text s => writeString s
  | .list items _ => '[' :: writeItems items
  | .table entries _ => '{' :: writeEntries entries
  | .garbled => []
  | .broken => []

/-- The items of a list and its end. -/
def writeItems : List Document → List Char
  | [] => [']']
  | [d] => writeChars d ++ [']']
  | d :: ds => writeChars d ++ ',' :: writeItems ds

/-- The entries of a table and its end. -/
def writeEntries : List (Option String × Document) → List Char
  | [] => ['}']
  | [(k, d)] => writeName k ++ ':' :: writeChars d ++ ['}']
  | (k, d) :: es => writeName k ++ ':' :: writeChars d ++ ',' :: writeEntries es

end

/-- The text of a document. -/
def write (d : Document) : String := String.ofList (writeChars d)

end FaultLab.Json
