import FaultLab.Document

/-! # TOML scalars

Numbers, truth values, dates and times, each read from the characters of one token, and the three
kinds of quoted text.  A date or time has no value of its own in a `Document`; it stands there as
a table with a single entry that holds its canonical text. -/

namespace FaultLab.Toml

/-- Digits with single underscores between them, the underscores left out. -/
def ungroup (isDigit : Char → Bool) : List Char → Option (List Char)
  | [] => none
  | [c] => if isDigit c then some [c] else none
  | c :: '_' :: rest => if isDigit c then (ungroup isDigit rest).map (c :: ·) else none
  | c :: rest => if isDigit c then (ungroup isDigit rest).map (c :: ·) else none

/-- The value of a digit in any base up to sixteen. -/
def digitValue (c : Char) : Nat :=
  if c.isDigit then c.toNat - 48
  else if 'a' ≤ c ∧ c ≤ 'f' then c.toNat - 87
  else c.toNat - 55

/-- Whether a character is a digit of a base. -/
def isDigitOf (base : Nat) (c : Char) : Bool :=
  (c.isDigit || ('a' ≤ c && c ≤ 'f') || ('A' ≤ c && c ≤ 'F')) && digitValue c < base

/-- The number that digits write in a base. -/
def ofDigits (base : Nat) (ds : List Char) : Nat :=
  ds.foldl (fun n c => n * base + digitValue c) 0

/-- An integer of sixty-four bits with a sign. -/
def bounded (n : Int) : Option Document :=
  if -0x8000000000000000 ≤ n ∧ n ≤ 0x7fffffffffffffff then some (.integer n) else none

/-- Split a sign off; the flag says whether the number is negative. -/
def splitSign : List Char → Bool × List Char
  | '-' :: r => (true, r)
  | '+' :: r => (false, r)
  | r => (false, r)

/-- Decimal digits without a zero in front of others. -/
def wholePart (cs : List Char) : Option (List Char) := do
  let ds ← ungroup Char.isDigit cs
  if ds.head? = some '0' ∧ 1 < ds.length then none else some ds

/-- An integer in base two, eight, ten or sixteen. -/
def integer? (cs : List Char) : Option Document :=
  match cs with
  | '0' :: 'x' :: r => do bounded (ofDigits 16 (← ungroup (isDigitOf 16) r))
  | '0' :: 'o' :: r => do bounded (ofDigits 8 (← ungroup (isDigitOf 8) r))
  | '0' :: 'b' :: r => do bounded (ofDigits 2 (← ungroup (isDigitOf 2) r))
  | cs => do
    let (negative, r) := splitSign cs
    let n : Int := ofDigits 10 (← wholePart r)
    bounded (if negative then -n else n)

/-- The exponent of a fraction, if there is one. -/
def exponentPart : List Char → Option Int
  | [] => some 0
  | e :: r =>
    if e = 'e' ∨ e = 'E' then do
      let (negative, ds) := splitSign r
      let n : Int := ofDigits 10 (← ungroup Char.isDigit ds)
      return if negative then -n else n
    else none

/-- Whether a character starts an exponent. -/
def startsExponent (c : Char) : Bool := c = 'e' || c = 'E'

/-- The decimals after the point, if there is one, and the exponent; one of them has to be there. -/
def splitPlaces : List Char → Option (List Char × List Char)
  | [] => none
  | '.' :: r => do
    let ds ← ungroup Char.isDigit (r.takeWhile fun c => !startsExponent c)
    return (ds, r.dropWhile fun c => !startsExponent c)
  | r => some ([], r)

/-- A fraction in decimals, with an exponent, or both; none may be infinite above. -/
def fraction? (cs : List Char) : Option Document := do
  let (negative, r) := splitSign cs
  let front := r.takeWhile fun c => !(c = '.' || startsExponent c)
  let rest := r.dropWhile fun c => !(c = '.' || startsExponent c)
  let whole ← wholePart front
  let (places, tail) ← splitPlaces rest
  let e ← exponentPart tail
  match Binary64.ofDecimal negative (ofDigits 10 (whole ++ places)) (e - places.length) with
  | .infinite false => none
  | x => some (.float x)

/-- The named fractions. -/
def special? (cs : List Char) : Option Document :=
  match splitSign cs with
  | (negative, ['i', 'n', 'f']) => some (.float (.infinite negative))
  | (_, ['n', 'a', 'n']) => some (.float .nan)
  | _ => none

/-! ### Dates and times -/

/-- A number of exactly two digits, within bounds. -/
def twoDigits (low high : Nat) : List Char → Option (Nat × List Char)
  | a :: b :: rest =>
    let n := ofDigits 10 [a, b]
    if a.isDigit ∧ b.isDigit ∧ low ≤ n ∧ n ≤ high then some (n, rest) else none
  | _ => none

/-- A fixed character. -/
def mark (c : Char) : List Char → Option (List Char)
  | d :: rest => if d = c then some rest else none
  | [] => none

/-- The number of days in a month. -/
def daysIn (year month : Nat) : Nat :=
  if month = 2 then
    if year % 4 = 0 ∧ (year % 100 ≠ 0 ∨ year % 400 = 0) then 29 else 28
  else if month = 4 ∨ month = 6 ∨ month = 9 ∨ month = 11 then 30
  else 31

/-- Two digits as text. -/
def pair (n : Nat) : List Char := [Nat.digitChar (n / 10 % 10), Nat.digitChar (n % 10)]

/-- A date, as its text. -/
def date? (cs : List Char) : Option (List Char × List Char) := do
  let ys := cs.take 4
  if ys.length = 4 ∧ ys.all Char.isDigit then
    let r ← mark '-' (cs.drop 4)
    let (month, r) ← twoDigits 1 12 r
    let r ← mark '-' r
    let (day, r) ← twoDigits 1 31 r
    if day ≤ daysIn (ofDigits 10 ys) month then
      return (ys ++ '-' :: pair month ++ '-' :: pair day, r)
    else none
  else none

/-- The decimals of a second, as text; nine places count. -/
def secondDecimals (ds : List Char) : List Char :=
  let kept := ((ds.take 9).reverse.dropWhile (· = '0')).reverse
  if kept.isEmpty then [] else '.' :: kept

/-- A time of day, as its text. -/
def time? (cs : List Char) : Option (List Char × List Char) := do
  let (hour, r) ← twoDigits 0 23 cs
  let r ← mark ':' r
  let (minute, r) ← twoDigits 0 59 r
  let r ← mark ':' r
  let (second, r) ← twoDigits 0 60 r
  let text := pair hour ++ ':' :: pair minute ++ ':' :: pair second
  match r with
  | '.' :: r =>
    let ds := r.takeWhile Char.isDigit
    if ds.isEmpty then none
    else return (text ++ secondDecimals ds, r.dropWhile Char.isDigit)
  | r => return (text, r)

/-- The offset of a time from the common one, as its text; there may be none.  An offset of
zero is written with a plus. -/
def offset? : List Char → Option (List Char)
  | [] => some []
  | ['Z'] => some ['Z']
  | ['z'] => some ['Z']
  | s :: r =>
    if s = '+' ∨ s = '-' then do
      let (hour, r) ← twoDigits 0 23 r
      let r ← mark ':' r
      let (minute, r) ← twoDigits 0 59 r
      let sign := if hour = 0 ∧ minute = 0 then '+' else s
      if r.isEmpty then return sign :: pair hour ++ ':' :: pair minute else none
    else none

/-- A date, a time, or both with an offset. -/
def dateTime? (cs : List Char) : Option (List Char) :=
  match date? cs with
  | some (day, []) => some day
  | some (day, d :: r) =>
    if d = 'T' ∨ d = 't' ∨ d = ' ' then do
      let (clock, r) ← time? r
      let zone ← offset? r
      return day ++ 'T' :: clock ++ zone
    else none
  | none => do
    let (clock, r) ← time? cs
    if r.isEmpty then return clock else none

/-- The name under which the text of a date or time stands in a document. -/
def dateTimeName : String := "$__toml_private_datetime"

/-- The document of a date or time. -/
def dateTime (text : List Char) : Document :=
  .ofEntries [(dateTimeName, .text (String.ofList text))]

/-- The document of a token. -/
def scalar (cs : List Char) : Option Document :=
  match cs with
  | ['t', 'r', 'u', 'e'] => some (.bool true)
  | ['f', 'a', 'l', 's', 'e'] => some (.bool false)
  | cs =>
    match dateTime? cs with
    | some text => some (dateTime text)
    | none => (fraction? cs).or ((special? cs).or (integer? cs))

/-- Whether a character can be part of a token. -/
def isTokenChar (c : Char) : Bool :=
  !(c = ' ' || c = '\t' || c = '\n' || c = '\r' || c = ',' || c = ']' || c = '}' || c = '#')

/-- The characters of the token in front, and what follows it; a blank may join a date and a
time. -/
def token (cs : List Char) : List Char × List Char :=
  let front := cs.takeWhile isTokenChar
  let rest := cs.dropWhile isTokenChar
  match rest with
  | ' ' :: a :: b :: ':' :: r =>
    if (date? front).any (fun p => p.2.isEmpty) ∧ a.isDigit ∧ b.isDigit then
      let more := a :: b :: ':' :: r
      (front ++ ' ' :: more.takeWhile isTokenChar, more.dropWhile isTokenChar)
    else (front, rest)
  | _ => (front, rest)

/-! ### Quoted text -/

/-- Whether a character may stand in a comment, and in quotes as itself. -/
def isShown (c : Char) : Bool := c = '\t' || (0x20 ≤ c.toNat && c.toNat ≠ 0x7f)

/-- The character with the number that hexadecimal digits write. -/
def numbered (ds : List Char) : Option Char :=
  let n := ofDigits 16 ds
  if ds.all (isDigitOf 16) ∧ (n < 0xd800 ∨ (0xdfff < n ∧ n < 0x110000)) then some (Char.ofNat n)
  else none

/-- The character that a letter after a backslash stands for. -/
def escape (c : Char) : Option Char :=
  if c = '"' ∨ c = '\\' then some c
  else if c = 'b' then some '\x08'
  else if c = 'f' then some '\x0c'
  else if c = 'n' then some '\n'
  else if c = 'r' then some '\r'
  else if c = 't' then some '\t'
  else none

/-- The rest of a text between double quotes on one line. -/
def basic : List Char → Option (List Char × List Char)
  | [] => none
  | '"' :: r => some ([], r)
  | '\\' :: 'u' :: a :: b :: c :: d :: r => do
    let x ← numbered [a, b, c, d]
    let (s, r) ← basic r
    return (x :: s, r)
  | '\\' :: 'U' :: a :: b :: c :: d :: e :: f :: g :: h :: r => do
    let x ← numbered [a, b, c, d, e, f, g, h]
    let (s, r) ← basic r
    return (x :: s, r)
  | '\\' :: e :: r => do
    let x ← escape e
    let (s, r) ← basic r
    return (x :: s, r)
  | c :: r =>
    if isShown c ∧ c ≠ '\\' then do
      let (s, r) ← basic r
      return (c :: s, r)
    else none

/-- The rest of a text between single quotes on one line. -/
def literal : List Char → Option (List Char × List Char)
  | [] => none
  | c :: r =>
    if c = '\x27' then some ([], r)
    else if isShown c then do
      let (s, r) ← literal r
      return (c :: s, r)
    else none

/-- The end of a text over several lines, at three quotes or up to two more. -/
def closing (q : Char) : List Char → Option (List Char × List Char)
  | a :: b :: c :: d :: e :: r =>
    if a = q ∧ b = q ∧ c = q then
      if d = q then
        if e = q then some ([q, q], r) else some ([q], e :: r)
      else some ([], d :: e :: r)
    else none
  | [a, b, c, d] =>
    if a = q ∧ b = q ∧ c = q then if d = q then some ([q], []) else some ([], [d]) else none
  | [a, b, c] => if a = q ∧ b = q ∧ c = q then some ([], []) else none
  | _ => none

/-- Leave out blanks and line ends. -/
def skipLines : List Char → Option (List Char)
  | [] => some []
  | ' ' :: r => skipLines r
  | '\t' :: r => skipLines r
  | '\n' :: r => skipLines r
  | '\r' :: '\n' :: r => skipLines r
  | '\r' :: _ => none
  | r => some r

/-- What follows a backslash at the end of a line: the text goes on at the next character that is
no blank. -/
def joinLines (cs : List Char) : Option (List Char) :=
  match cs.dropWhile fun c => c = ' ' || c = '\t' with
  | '\n' :: r => skipLines r
  | '\r' :: '\n' :: r => skipLines r
  | _ => none

/-- The rest of a text over several lines between double quotes. -/
def basicLines : Nat → List Char → Option (List Char × List Char)
  | 0, _ => none
  | n + 1, cs =>
    match closing '"' cs with
    | some end_ => some end_
    | none =>
      match cs with
      | [] => none
      | '\\' :: 'u' :: a :: b :: c :: d :: r => do
        let x ← numbered [a, b, c, d]
        let (s, r) ← basicLines n r
        return (x :: s, r)
      | '\\' :: 'U' :: a :: b :: c :: d :: e :: f :: g :: h :: r => do
        let x ← numbered [a, b, c, d, e, f, g, h]
        let (s, r) ← basicLines n r
        return (x :: s, r)
      | '\\' :: e :: r =>
        match escape e with
        | some x => do
          let (s, r) ← basicLines n r
          return (x :: s, r)
        | none => do
          let r ← joinLines (e :: r)
          basicLines n r
      | '\r' :: '\n' :: r => do
        let (s, r) ← basicLines n r
        return ('\n' :: s, r)
      | c :: r =>
        if (isShown c ∧ c ≠ '\\') ∨ c = '\n' then do
          let (s, r) ← basicLines n r
          return (c :: s, r)
        else none

/-- The rest of a text over several lines between single quotes. -/
def literalLines : List Char → Option (List Char × List Char)
  | cs@(c :: r) =>
    match closing '\x27' cs with
    | some end_ => some end_
    | none =>
      if isShown c ∨ c = '\n' then do
        let (s, r) ← literalLines r
        return (c :: s, r)
      else if c = '\r' ∧ r.head? = some '\n' then literalLines r
      else none
  | [] => none

/-- Leave out a line end right after an opening quote. -/
def afterOpening : List Char → List Char
  | '\n' :: r => r
  | '\r' :: '\n' :: r => r
  | r => r

/-- A text in any kind of quotes. -/
def quoted (cs : List Char) : Option (List Char × List Char) :=
  match cs with
  | '"' :: '"' :: '"' :: r => basicLines (r.length + 1) (afterOpening r)
  | '"' :: r => basic r
  | '\x27' :: '\x27' :: '\x27' :: r => literalLines (afterOpening r)
  | '\x27' :: r => literal r
  | _ => none

end FaultLab.Toml
