import FaultLab.Text.Hidden

/-! # Quoted text

`quote` writes a text between double quotes so that every character of it can be seen: quotes and
backslashes are escaped, the usual controls have a letter, and every other hidden character is
written by its number. -/

namespace FaultLab.Text

/-- The hexadecimal digits of a number, in small letters. -/
def hexDigits (n : Nat) : List Char := Nat.toDigits 16 n

/-- A character as it stands inside quotes. -/
def quoteChar (c : Char) : List Char :=
  if c = '"' then ['\\', '"']
  else if c = '\\' then ['\\', '\\']
  else if c = '\n' then ['\\', 'n']
  else if c = '\r' then ['\\', 'r']
  else if c = '\t' then ['\\', 't']
  else if c = '\x00' then ['\\', '0']
  else if isHidden c then ['\\', 'u', '{'] ++ hexDigits c.toNat ++ ['}']
  else [c]

/-- A text between quotes with every character visible. -/
def quote (s : String) : String := String.ofList ('"' :: s.toList.flatMap quoteChar ++ ['"'])

example : quote "a\"b" = "\"a\\\"b\"" := by decide
example : quote "\x7f" = "\"\\u\x7b7f\x7d\"" := by decide

end FaultLab.Text
