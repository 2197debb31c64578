/-! # Binary floating point

A `Binary64` is a number `± mantissa * 2 ^ exponent` with a mantissa below `2 ^ 53` and an exponent
of at least `-1074`, or an infinity, or no number at all.  All arithmetic is done on exact fractions
of naturals and rounded once, to the nearest value and in a tie to the one with an even mantissa;
that rounding is `Binary64.nearest`. -/

namespace FaultLab

/-- A number of 64 bits in binary floating point. -/
inductive Binary64 where
  | finite (negative : Bool) (mantissa : Nat) (exponent : Int)
  | infinite (negative : Bool)
  | nan
deriving DecidableEq

namespace Binary64

/-- Zero with a sign. -/
def zero (negative : Bool) : Binary64 := finite negative 0 (-1074)

/-- `num / den` rounded to a natural number, to the even one in a tie. -/
def divideToEven (num den : Nat) : Nat :=
  let q := num / den
  let r := num % den
  if den < 2 * r || (2 * r = den && q % 2 = 1) then q + 1 else q

/-- The fraction `num / den` times `2 ^ e`, as a numerator and a denominator. -/
def scale (num den : Nat) (e : Int) : Nat × Nat :=
  match e with
  | .ofNat n => (num * Nat.pow 2 n, den)
  | .negSucc n => (num, den * Nat.pow 2 (n + 1))

/-- The exponent at which `num / den` has a mantissa of 53 bits, or the least exponent there is. -/
def exponentOf (num den : Nat) : Int :=
  let guess : Int := (Nat.log2 num : Int) - (Nat.log2 den : Int) - 52
  let (n, d) := scale num den (-guess)
  let exact := if n < d * Nat.pow 2 52 then guess - 1 else guess
  max exact (-1074)

/-- The value nearest to `num / den` with the given sign. -/
def nearest (negative : Bool) (num den : Nat) : Binary64 :=
  if num = 0 ∨ den = 0 then zero negative
  else
    let e := exponentOf num den
    let (n, d) := scale num den (-e)
    let m := divideToEven n d
    let (m, e) := if m = Nat.pow 2 53 then (Nat.pow 2 52, e + 1) else (m, e)
    if 971 < e then infinite negative else finite negative m e

/-- The size of a finite value as a fraction. -/
def fraction (mantissa : Nat) (exponent : Int) : Nat × Nat := scale mantissa 1 exponent

/-- The value nearest to a natural number. -/
def ofNat (n : Nat) : Binary64 := nearest false n 1

/-- Change the sign. -/
def negate : Binary64 → Binary64
  | finite s m e => finite (!s) m e
  | infinite s => infinite (!s)
  | nan => nan

/-- The product of two values. -/
def mul : Binary64 → Binary64 → Binary64
  | finite s m e, finite t n f =>
    let (a, b) := fraction m e
    let (c, d) := fraction n f
    nearest (s != t) (a * c) (b * d)
  | infinite s, finite t n _ => if n = 0 then nan else infinite (s != t)
  | finite s m _, infinite t => if m = 0 then nan else infinite (s != t)
  | infinite s, infinite t => infinite (s != t)
  | _, _ => nan

/-- The quotient of two values; the divisor is a number other than zero. -/
def div : Binary64 → Binary64 → Binary64
  | finite s m e, finite t n f =>
    let (a, b) := fraction m e
    let (c, d) := fraction n f
    nearest (s != t) (a * d) (b * c)
  | infinite s, finite t _ _ => infinite (s != t)
  | finite s _ _, infinite t => zero (s != t)
  | _, _ => nan

/-- The whole part of a finite value that is not negative. -/
def floor? : Binary64 → Option Nat
  | finite s m e =>
    let (a, b) := fraction m e
    if s && m ≠ 0 then none else some (a / b)
  | _ => none

/-- Whether a value is a number above zero. -/
def isPositive : Binary64 → Bool
  | finite s m _ => !s && m ≠ 0
  | infinite s => !s
  | nan => false

/-- The value nearest to `digits * 10 ^ exponent`. -/
def ofDecimal (negative : Bool) (digits : Nat) (exponent : Int) : Binary64 :=
  let size : Int := (Nat.toDigits 10 digits).length + exponent
  if digits = 0 then zero negative
  else if 400 < size then infinite negative
  else if size < -400 then zero negative
  else match exponent with
    | .ofNat n => nearest negative (digits * Nat.pow 10 n) 1
    | .negSucc n => nearest negative digits (Nat.pow 10 (n + 1))

end Binary64

end FaultLab
