/-! # Spans of time

A span is a natural number of nanoseconds.  Clocks in this library start at zero and only ever
move forward, so a point in time is the span since its clock started; a clock shows only those before
its `Span.horizon`.  `Span.display` writes a span in the largest unit that leaves a whole part, with as
many decimals as the span needs. -/

namespace FaultLab.Span

/-- A span of whole seconds. -/
def ofSeconds (n : Nat) : Nat := n * 1000000000

/-- A span of whole milliseconds. -/
def ofMillis (n : Nat) : Nat := n * 1000000

/-- The first point in time that no clock shows: the seconds of a clock have sixty-three bits. -/
def horizon : Nat := ofSeconds (Nat.pow 2 63)

/-- The whole seconds in a span. -/
def seconds (d : Nat) : Nat := d / 1000000000

/-- What a span holds beyond its whole seconds. -/
def subsecond (d : Nat) : Nat := d % 1000000000

/-- The whole milliseconds in a span. -/
def millis (d : Nat) : Nat := d / 1000000

@[simp] theorem millis_ofMillis (n : Nat) : millis (ofMillis n) = n := by
  unfold millis ofMillis; omega

@[simp] theorem seconds_ofSeconds (n : Nat) : seconds (ofSeconds n) = n := by
  unfold seconds ofSeconds; omega

/-- Decimal digits of `n`, with zeros on the left up to `width`. -/
def padded (width n : Nat) : List Char :=
  let digits := Nat.toDigits 10 n
  List.replicate (width - digits.length) '0' ++ digits

/-- The digits after the point of `part / 10 ^ places`, without zeros at the end. -/
def decimals (places part : Nat) : List Char :=
  ((padded places part).reverse.dropWhile (· == '0')).reverse

/-- The span `d` in units of `10 ^ places` nanoseconds, followed by the name of the unit. -/
def inUnit (places : Nat) (name : List Char) (d : Nat) : List Char :=
  let scale := Nat.pow 10 places
  Nat.toDigits 10 (d / scale)
    ++ (if d % scale = 0 then [] else '.' :: decimals places (d % scale)) ++ name

/-- The characters of `display`. -/
def displayChars (d : Nat) : List Char :=
  if 1000000000 ≤ d then inUnit 9 ['s'] d
  else if 1000000 ≤ d then inUnit 6 ['m', 's'] d
  else if 1000 ≤ d then inUnit 3 ['µ', 's'] d
  else inUnit 0 ['n', 's'] d

/-- A span as text: in seconds, milliseconds, microseconds or nanoseconds, whichever is the
largest unit not above the span. -/
def display (d : Nat) : String := String.ofList (displayChars d)

example : display 0 = "0ns" := by decide
example : display 1500 = "1.5µs" := by decide
example : display 90061000000 = "90.061s" := by decide

end FaultLab.Span
