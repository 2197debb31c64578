/-! # Bytes as letters

`encode` writes three bytes as four letters out of sixty-four; one or two bytes at the end are
filled up with equals signs. -/

namespace FaultLab.Text.Base64

/-- The letter for a number below sixty-four. -/
def letter (n : Nat) : Char :=
  if n < 26 then Char.ofNat (65 + n)
  else if n < 52 then Char.ofNat (71 + n)
  else if n < 62 then Char.ofNat (n - 4)
  else if n = 62 then '+'
  else '/'

/-- The letters of some bytes. -/
def letters : List Nat → List Char
  | a :: b :: c :: rest =>
    letter (a / 4) :: letter (a % 4 * 16 + b / 16) :: letter (b % 16 * 4 + c / 64) ::
      letter (c % 64) :: letters rest
  | [a, b] => [letter (a / 4), letter (a % 4 * 16 + b / 16), letter (b % 16 * 4), '=']
  | [a] => [letter (a / 4), letter (a % 4 * 16), '=', '=']
  | [] => []

/-- The letters of the bytes of a text. -/
def encode (s : String) : String :=
  String.ofList (letters (s.toUTF8.toList.map UInt8.toNat))

end FaultLab.Text.Base64
