import FaultLab.Document.Reader

/-! # Reading JSON text

`Json.read` turns a text into a `Document` that goes as far as the text makes sense, and says
whether nothing but blanks follows.  `Json.decode` reads a value from it: the first problem wins,
whether it is with the text or with what the text says.

An integer beyond sixty-four bits, and a negative zero, is a fraction.  A fraction is read with the
significand that fits in sixty-four bits, which is rounded and then scaled by a rounded power of
ten, so it may differ from the nearest value in the last place. -/

namespace FaultLab.Json

/-- Whether a character may stand between tokens. -/
def isBlank (c : Char) : Bool := c = ' ' || c = '\n' || c = '\t' || c = '\r'

/-- Leave out blanks in front. -/
def skipBlank (cs : List Char) : List Char := cs.dropWhile isBlank

/-! ### Strings -/

/-- A part of a string: a character, or half of a pair that makes one. -/
inductive Piece where
  | char (c : Char)
  | half (unit : Nat)

/-- The value of a hexadecimal digit. -/
def hexValue (c : Char) : Option Nat :=
  if '0' ≤ c ∧ c ≤ '9' then some (c.toNat - 48)
  else if 'a' ≤ c ∧ c ≤ 'f' then some (c.toNat - 87)
  else if 'A' ≤ c ∧ c ≤ 'F' then some (c.toNat - 55)
  else none

/-- The value of four hexadecimal digits. -/
def hex4 (a b c d : Char) : Option Nat := do
  let a ← hexValue a
  let b ← hexValue b
  let c ← hexValue c
  let d ← hexValue d
  return ((a * 16 + b) * 16 + c) * 16 + d

/-- The piece that a code unit stands for. -/
def Piece.ofUnit (n : Nat) : Piece :=
  if 0xd800 ≤ n ∧ n < 0xe000 then half n else char (Char.ofNat n)

/-- The character that a letter after a backslash stands for. -/
def escape (c : Char) : Option Char :=
  if c = '"' ∨ c = '\\' ∨ c = '/' then some c
  else if c = 'b' then some '\x08'
  else if c = 'f' then some '\x0c'
  else if c = 'n' then some '\n'
  else if c = 'r' then some '\r'
  else if c = 't' then some '\t'
  else none

/-- The pieces of a string up to its closing quote, and what follows the quote. -/
def pieces : List Char → Option (List Piece × List Char)
  | [] => none
  | '"' :: rest => some ([], rest)
  | '\\' :: 'u' :: a :: b :: c :: d :: rest => do
    let n ← hex4 a b c d
    let (ps, r) ← pieces rest
    return (.ofUnit n :: ps, r)
  | '\\' :: e :: rest => do
    let c ← escape e
    let (ps, r) ← pieces rest
    return (.char c :: ps, r)
  | c :: rest =>
    if c.toNat < 0x20 ∨ c = '\\' then none
    else do
      let (ps, r) ← pieces rest
      return (.char c :: ps, r)

/-- The character of a leading and a trailing half. -/
def joinHalves (high low : Nat) : Char :=
  Char.ofNat (0x10000 + (high - 0xd800) * 0x400 + (low - 0xdc00))

/-- The characters of a string, if every half has its other half. -/
def join : List Piece → Option (List Char)
  | [] => some []
  | .char c :: ps => (join ps).map (c :: ·)
  | .half a :: .half b :: ps =>
    if a < 0xdc00 ∧ 0xdc00 ≤ b then (join ps).map (joinHalves a b :: ·) else none
  | .half _ :: _ => none

/-! ### Numbers -/

/-- The largest integer of sixty-four bits. -/
def maxUnsigned : Nat := 0xffffffffffffffff

/-- `significand * 10 ^ exponent` by one multiplication or division at a time; a size without limit
has no value.  The fuel counts the divisions by the largest power of ten. -/
def scaled : Nat → Binary64 → Int → Option Binary64
  | 0, f, _ => some f
  | n + 1, f, e =>
    if e.natAbs ≤ 308 then
      if 0 ≤ e then
        match f.mul (Binary64.ofNat (Nat.pow 10 e.natAbs)) with
        | .infinite _ => none
        | x => some x
      else some (f.div (Binary64.ofNat (Nat.pow 10 e.natAbs)))
    else if f = Binary64.zero false then some f
    else if 0 ≤ e then none
    else scaled n (f.div (Binary64.ofNat (Nat.pow 10 308))) (e + 308)

/-- A fraction from its parts. -/
def fraction (negative : Bool) (significand : Nat) (exponent : Int) : Document :=
  match scaled 5 (Binary64.ofNat significand) exponent with
  | some x => .float (if negative then x.negate else x)
  | none => .garbled

/-- Read digits into a significand until it would leave sixty-four bits; gives the number of
digits that were read, and what follows them. -/
def takeDigits : Nat → Nat → List Char → Nat × Nat × List Char
  | acc, n, c :: rest =>
    if c.isDigit ∧ acc * 10 + (c.toNat - 48) ≤ maxUnsigned then
      takeDigits (acc * 10 + (c.toNat - 48)) (n + 1) rest
    else (acc, n, c :: rest)
  | acc, n, [] => (acc, n, [])

/-- The digits of an exponent as a number that stops growing at the bound of thirty-two bits. -/
def exponentValue (ds : List Char) : Option Int :=
  let grow (acc : Nat) (c : Char) : Nat :=
    if acc ≤ 0x7fffffff then acc * 10 + (c.toNat - 48) else acc
  let n := ds.foldl grow 0
  if n ≤ 0x7fffffff then some (n : Int) else none

/-- Read the exponent, whose letter has been read. -/
def exponent (negative : Bool) (significand : Nat) (start : Int) (cs : List Char) :
    Document × List Char :=
  let (down, cs) := match cs with
    | '-' :: r => (true, r)
    | '+' :: r => (false, r)
    | r => (false, r)
  let ds := cs.takeWhile Char.isDigit
  let rest := cs.dropWhile Char.isDigit
  if ds.isEmpty then (.broken, [])
  else match exponentValue ds with
    | some e => (fraction negative significand (if down then start - e else start + e), rest)
    | none =>
      if significand ≠ 0 ∧ !down then (.garbled, rest)
      else (.float (Binary64.zero negative), rest)

/-- Read an exponent if there is one. -/
def exponent? (negative : Bool) (significand : Nat) (start : Int) (cs : List Char) :
    Document × List Char :=
  match cs with
  | 'e' :: r => exponent negative significand start r
  | 'E' :: r => exponent negative significand start r
  | r => (fraction negative significand start, r)

/-- Read the decimals, whose point has been read. -/
def decimals (negative : Bool) (significand : Nat) (start : Int) (cs : List Char) :
    Document × List Char :=
  if (cs.takeWhile Char.isDigit).isEmpty then (.broken, [])
  else
    let (s, n, rest) := takeDigits significand 0 cs
    exponent? negative s (start - n) (rest.dropWhile Char.isDigit)

/-- Read a number, whose sign has been read. -/
def number (negative : Bool) (cs : List Char) : Document × List Char :=
  let ds := cs.takeWhile Char.isDigit
  if ds.isEmpty ∨ (ds.head? = some '0' ∧ 1 < ds.length) then (.broken, [])
  else
    let (s, n, rest) := takeDigits 0 0 cs
    if n < ds.length then
      -- the integer part is too long
      let dropped : Int := ds.length - n
      match rest.dropWhile Char.isDigit with
      | '.' :: r => decimals negative s dropped r
      | r => exponent? negative s dropped r
    else match rest with
      | '.' :: r => decimals negative s 0 r
      | 'e' :: r => exponent negative s 0 r
      | 'E' :: r => exponent negative s 0 r
      | r =>
        if !negative then (.integer s, r)
        else if s = 0 ∨ 0x8000000000000000 < s then (.float (Binary64.ofNat s).negate, r)
        else (.integer (-(s : Int)), r)

/-! ### Values -/

/-- Read a fixed word, given without its first letter. -/
def word (rest : List Char) (d : Document) (cs : List Char) : Document × List Char :=
  if rest.isPrefixOf cs then (d, cs.drop rest.length) else (.broken, [])

/-- The text of a string, whose opening quote has been read, if it has one. -/
def quoted (cs : List Char) : Option (Option String × List Char) :=
  (pieces cs).map fun (ps, r) => ((join ps).map String.ofList, r)

/-- Read a string, whose opening quote has been read. -/
def string (cs : List Char) : Document × List Char :=
  match quoted cs with
  | none => (.broken, [])
  | some (some text, r) => (.text text, r)
  | some (none, r) => (.garbled, r)

mutual

/-- Read a value. -/
def value : Nat → List Char → Document × List Char
  | 0, _ => (.broken, [])
  | n + 1, cs =>
    match skipBlank cs with
    | '{' :: r =>
      match skipBlank r with
      | '}' :: r => (.table [] true, r)
      | r =>
        let (es, whole, r) := entries n r
        (.table es whole, r)
    | '[' :: r =>
      match skipBlank r with
      | ']' :: r => (.list [] true, r)
      | r =>
        let (ds, whole, r) := items n r
        (.list ds whole, r)
    | '"' :: r => string r
    | '-' :: r => number true r
    | 'n' :: r => word ['u', 'l', 'l'] .null r
    | 't' :: r => word ['r', 'u', 'e'] (.bool true) r
    | 'f' :: r => word ['a', 'l', 's', 'e'] (.bool false) r
    | r => number false r

/-- Read the items of a list from the first one on. -/
def items : Nat → List Char → List Document × Bool × List Char
  | 0, _ => ([], false, [])
  | n + 1, cs =>
    let (d, r) := value n cs
    if d.intact then
      match skipBlank r with
      | ',' :: r =>
        let (ds, whole, r) := items n r
        (d :: ds, whole, r)
      | ']' :: r => ([d], true, r)
      | _ => ([d], false, [])
    else ([d], false, [])

/-- Read the entries of a table from the first one on. -/
def entries : Nat → List Char → List (Option String × Document) × Bool × List Char
  | 0, _ => ([], false, [])
  | n + 1, cs =>
    match skipBlank cs with
    | '"' :: r =>
      match quoted r with
      | some (k, r) =>
        match skipBlank r with
        | ':' :: r =>
          let (d, r) := value n r
          if d.intact then
            match skipBlank r with
            | ',' :: r =>
              let (es, whole, r) := entries n r
              ((k, d) :: es, whole, r)
            | '}' :: r => ([(k, d)], true, r)
            | _ => ([(k, d)], false, [])
          else ([(k, d)], false, [])
        | _ => ([(k, .broken)], false, [])
      | none => ([], false, [])
    | _ => ([], false, [])

end

/-- The document of a text, and whether nothing but blanks follows it. -/
def read (text : String) : Document × Bool :=
  let cs := text.toList
  let (d, r) := value (cs.length + 1) cs
  (d, (skipBlank r).isEmpty)

/-- Read a value from a text. -/
def decode {α : Type} (item : Decoder α) (text : String) : Except Problem α := do
  let (d, clean) := read text
  let a ← item d
  if clean then return a else .error .illFormed

end FaultLab.Json
