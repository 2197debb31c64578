import FaultLab.Number.Binary64

/-! # The shortest decimal of a binary number

`shortest` gives the decimal with the fewest digits among those that read back as the same binary
number, and of these the one nearest to it.  Two layouts write such a decimal: `Binary64.plain`
never uses an exponent, and `Binary64.compact` writes one where the plain form would be long. -/

namespace FaultLab.Binary64

/-- The decimal `digits * 10 ^ exponent`. -/
structure Decimal where
  digits : Nat
  exponent : Int

/-- Drop zeros at the end of the digits, at most `fuel` of them. -/
def Decimal.strip : Nat → Decimal → Decimal
  | 0, x => x
  | n + 1, x =>
    if x.digits ≠ 0 ∧ x.digits % 10 = 0 then strip n ⟨x.digits / 10, x.exponent + 1⟩ else x

/-- The fraction `num / den` divided by `10 ^ k`. -/
def tenth (num den : Nat) (k : Int) : Nat × Nat :=
  match k with
  | .ofNat n => (num, den * Nat.pow 10 n)
  | .negSucc n => (num * Nat.pow 10 (n + 1), den)

/-- The exponent of the leading decimal digit of `num / den`, from a guess that is off by one at
most. -/
def leading (num den : Nat) : Int :=
  let bits : Int := (Nat.log2 num : Int) - (Nat.log2 den : Int)
  let guess := Int.fdiv (bits * 30103) 100000
  let below := let (n, d) := tenth num den guess; n < d
  let above := let (n, d) := tenth num den (guess + 1); d ≤ n
  if below then guess - 1 else if above then guess + 1 else guess

/-- The shortest decimal that reads back as `mantissa * 2 ^ exponent`. -/
def shortest (mantissa : Nat) (exponent : Int) : Decimal :=
  if mantissa = 0 then ⟨0, 0⟩
  else
    -- everything in quarters of the last place
    let (unit, den) := scale 1 1 (exponent - 2)
    let value := 4 * mantissa * unit
    let high := (4 * mantissa + 2) * unit
    -- the lower neighbour of a power of two is nearer
    let narrow := mantissa = Nat.pow 2 52 ∧ -1074 < exponent
    let low := (4 * mantissa - if narrow then 1 else 2) * unit
    let closed := mantissa % 2 = 0
    let top := leading value den
    let fits (d : Nat) (k : Int) : Bool :=
      -- compare d * 10 ^ k with the ends of the interval
      let (l, lden) := tenth low den k
      let (h, hden) := tenth high den k
      if closed then l ≤ d * lden && d * hden ≤ h else l < d * lden && d * hden < h
    let attempt (n : Nat) : Option Decimal :=
      let k := top - (n : Int)
      let (v, vden) := tenth value den k
      let d := v / vden
      let r := v % vden
      match fits d k, fits (d + 1) k with
      | true, true => some ⟨if vden < 2 * r || (2 * r = vden && d % 2 = 1) then d + 1 else d, k⟩
      | true, false => some ⟨d, k⟩
      | false, true => some ⟨d + 1, k⟩
      | false, false => none
    match (List.range 17).findSome? attempt with
    | some x => x.strip 20
    | none => ⟨value / den, 0⟩

/-- The digits of a decimal with the point where it belongs and no exponent. -/
def Decimal.plain (x : Decimal) : List Char :=
  let ds := Nat.toDigits 10 x.digits
  match x.exponent with
  | .ofNat n => if x.digits = 0 then ds else ds ++ List.replicate n '0'
  | .negSucc n =>
    let places := n + 1
    if places < ds.length then
      ds.take (ds.length - places) ++ '.' :: ds.drop (ds.length - places)
    else '0' :: '.' :: List.replicate (places - ds.length) '0' ++ ds

/-- A sign in front of a size. -/
def signed (negative : Bool) (size : List Char) : List Char :=
  if negative then '-' :: size else size

/-- The shortest decimal of a value, never with an exponent. -/
def plain : Binary64 → String
  | finite s m e => String.ofList (signed s (shortest m e).plain)
  | infinite s => String.ofList (signed s ['i', 'n', 'f'])
  | nan => "NaN"

/-- The plain form, with a decimal place even for a whole number. -/
def plainWithPoint : Binary64 → String
  | finite s m e =>
    let text := (shortest m e).plain
    String.ofList (signed s (if text.contains '.' then text else text ++ ['.', '0']))
  | x => x.plain

/-- A decimal with one digit before the point and an exponent. -/
def Decimal.scientific (x : Decimal) : List Char :=
  let ds := Nat.toDigits 10 x.digits
  let e : Int := x.exponent + (ds.length - 1 : Nat)
  let mark := if e < 0 then '-' else '+'
  let body := match ds with
    | d :: r :: rs => d :: '.' :: r :: rs
    | short => short
  body ++ 'e' :: mark :: Nat.toDigits 10 e.natAbs

/-- The shortest decimal of a value, with a decimal place even for a whole number, and with an
exponent below `0.00001` and from `10 ^ 16` on. -/
def compact : Binary64 → String
  | finite s m e =>
    let x := shortest m e
    let size : Int := x.exponent + (Nat.toDigits 10 x.digits).length
    let text :=
      if m ≠ 0 ∧ (size < -4 ∨ 16 < size) then x.scientific
      else if x.plain.contains '.' then x.plain else x.plain ++ ['.', '0']
    String.ofList (signed s text)
  | x => x.plain

end FaultLab.Binary64
