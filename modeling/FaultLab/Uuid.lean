import FaultLab.Document.Reader

/-! # Universally unique identifiers

A `Uuid` has 128 bits.  It is written as 32 hexadecimal digits in small letters with hyphens after
the 8th, 12th, 16th and 20th; it is read in that form, without hyphens, in braces, or after
`urn:uuid:`, in letters of either case. -/

namespace FaultLab

/-- An identifier of 128 bits. -/
structure Uuid where
  bits : Nat
  bits_lt : bits < Nat.pow 2 128
deriving DecidableEq

namespace Uuid

/-- The identifier with the low 128 bits of a number. -/
def ofNat (n : Nat) : Uuid := ⟨n % Nat.pow 2 128, Nat.mod_lt _ (by decide)⟩

instance : Inhabited Uuid := ⟨ofNat 0⟩

/-- The identifier that random bits make: four of them give way to the version, which is 4, and two
to the variant. -/
def ofRandom (n : Nat) : Uuid :=
  let low := n % Nat.pow 2 62
  let middle := n / Nat.pow 2 62 % Nat.pow 2 12
  let high := n / Nat.pow 2 74 % Nat.pow 2 48
  ofNat ((((high * 16 + 4) * Nat.pow 2 12 + middle) * 4 + 2) * Nat.pow 2 62 + low)

/-- The version of an identifier. -/
def version (u : Uuid) : Nat := u.bits / Nat.pow 2 76 % 16

/-- The low `n` hexadecimal digits of a number. -/
def hex : Nat → Nat → List Char
  | 0, _ => []
  | n + 1, value => hex n (value / 16) ++ [Nat.digitChar (value % 16)]

/-- The 32 digits of an identifier. -/
def simple (u : Uuid) : List Char := hex 32 u.bits

/-- The digits of an identifier in groups. -/
def hyphenated (u : Uuid) : List Char :=
  let ds := u.simple
  ds.take 8 ++ '-' :: (ds.drop 8).take 4 ++ '-' :: (ds.drop 12).take 4 ++
    '-' :: (ds.drop 16).take 4 ++ '-' :: ds.drop 20

instance : ToString Uuid := ⟨fun u => String.ofList u.hyphenated⟩

/-- The value of a hexadecimal digit. -/
def digit? (c : Char) : Option Nat :=
  if '0' ≤ c ∧ c ≤ '9' then some (c.toNat - 48)
  else if 'a' ≤ c ∧ c ≤ 'f' then some (c.toNat - 87)
  else if 'A' ≤ c ∧ c ≤ 'F' then some (c.toNat - 55)
  else none

/-- The identifier of 32 digits. -/
def ofSimple (cs : List Char) : Option Uuid := do
  let ds ← cs.mapM digit?
  if cs.length = 32 then return ofNat (ds.foldl (fun n d => n * 16 + d) 0) else none

/-- The identifier of digits in groups. -/
def ofHyphenated (cs : List Char) : Option Uuid :=
  if cs.length = 36 ∧ cs[8]? = some '-' ∧ cs[13]? = some '-' ∧ cs[18]? = some '-' ∧
      cs[23]? = some '-' then
    ofSimple (cs.take 8 ++ (cs.drop 9).take 4 ++ (cs.drop 14).take 4 ++ (cs.drop 19).take 4 ++
      cs.drop 24)
  else none

/-- Read an identifier in any of its forms. -/
def parse? (text : String) : Option Uuid :=
  match text.toList with
  | 'u' :: 'r' :: 'n' :: ':' :: 'u' :: 'u' :: 'i' :: 'd' :: ':' :: cs => ofHyphenated cs
  | '{' :: cs => if cs.getLast? = some '}' then ofHyphenated cs.dropLast else none
  | cs => if cs.length = 32 then ofSimple cs else ofHyphenated cs

/-- Read an identifier from a document. -/
def decode : Decoder Uuid
  | .text s =>
    match parse? s with
    | some u => .ok u
    | none => .error (.mismatch (.invalidIdentifier s))
  | d => .error (d.unexpected "a formatted UUID string")

/-- The document of an identifier. -/
def encode (u : Uuid) : Document := .text (String.ofList u.hyphenated)

end Uuid

end FaultLab
