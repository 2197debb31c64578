/-! # Splitting texts

A text may be split at the first, the last or every occurrence of a character.  The parts with the
character between them give the text back. -/

namespace FaultLab.Text

/-- Split at the first occurrence of a character. -/
def splitFirst (c : Char) : List Char → Option (List Char × List Char)
  | [] => none
  | x :: xs =>
    if x = c then some ([], xs)
    else (splitFirst c xs).map fun (front, back) => (x :: front, back)

/-- Split at the last occurrence of a character. -/
def splitLast (c : Char) : List Char → Option (List Char × List Char)
  | [] => none
  | x :: xs =>
    match splitLast c xs with
    | some (front, back) => some (x :: front, back)
    | none => if x = c then some ([], xs) else none

/-- Split at every character with a property. -/
def splitEvery (p : Char → Bool) : List Char → List (List Char)
  | [] => [[]]
  | c :: cs =>
    if p c then [] :: splitEvery p cs
    else match splitEvery p cs with
      | [] => [[c]]
      | first :: rest => (c :: first) :: rest

end FaultLab.Text
