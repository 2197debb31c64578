import FaultLab.Number.Binary64

/-! # Decimal text

`Binary64.parse?` reads a number in decimal digits: an optional sign, digits with an optional point
among, before or after them, and an optional exponent; or the words for infinity and for no number,
in letters of either case. -/

namespace FaultLab.Binary64

/-- An optional sign. -/
def splitSign : List Char → Bool × List Char
  | '-' :: r => (true, r)
  | '+' :: r => (false, r)
  | r => (false, r)

/-- The value of decimal digits. -/
def digitsValue (ds : List Char) : Nat := ds.foldl (fun n c => n * 10 + (c.toNat - 48)) 0

/-- The value of an optional exponent, which has to be all that is left. -/
def exponentOf? : List Char → Option Int
  | [] => some 0
  | c :: r =>
    let (down, ds) := splitSign r
    if (c = 'e' ∨ c = 'E') ∧ !ds.isEmpty ∧ ds.all Char.isDigit then
      some (if down then -(digitsValue ds : Int) else digitsValue ds)
    else none

/-- The words for values that have no digits. -/
def word? (negative : Bool) (cs : List Char) : Option Binary64 :=
  match String.ofList (cs.map Char.toLower) with
  | "inf" => some (infinite negative)
  | "infinity" => some (infinite negative)
  | "nan" => some nan
  | _ => none

/-- The value nearest to a decimal text without its sign. -/
def unsigned? (negative : Bool) (cs : List Char) : Option Binary64 := do
  let whole := cs.takeWhile Char.isDigit
  let (places, rest) := match cs.dropWhile Char.isDigit with
    | '.' :: r => (r.takeWhile Char.isDigit, r.dropWhile Char.isDigit)
    | r => ([], r)
  let e ← exponentOf? rest
  if whole.isEmpty ∧ places.isEmpty then none
  else some (ofDecimal negative (digitsValue (whole ++ places)) (e - places.length))

/-- Read a decimal text. -/
def parse? (text : String) : Option Binary64 :=
  let (negative, cs) := splitSign text.toList
  (word? negative cs).or (unsigned? negative cs)

end FaultLab.Binary64
