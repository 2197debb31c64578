import FaultLab.Document.Reader
import FaultLab.Text.Split

/-! # Endpoints

An `Endpoint` names a member of a cluster by the text `host:port`.  `Endpoint.parse?` accepts a text
with a last colon that has something before it and, after it, a port: digits with an optional
plus sign in front and a value of sixteen bits.  Endpoints are ordered by the code points of their
text. -/

namespace FaultLab

/-- The name of a member: its host and port. -/
structure Endpoint where
  text : String
deriving DecidableEq

namespace Endpoint

instance : Inhabited Endpoint := ⟨⟨""⟩⟩

instance : ToString Endpoint := ⟨Endpoint.text⟩

instance : LT Endpoint := ⟨fun a b => a.text < b.text⟩

instance (a b : Endpoint) : Decidable (a < b) := inferInstanceAs (Decidable (a.text < b.text))

theorem ext {a b : Endpoint} (h : a.text = b.text) : a = b := by
  cases a; cases b; simp_all

theorem lt_irrefl (a : Endpoint) : ¬ a < a := String.lt_irrefl a.text

theorem lt_trans {a b c : Endpoint} (h : a < b) (k : b < c) : a < c := String.lt_trans h k

theorem lt_asymm {a b : Endpoint} (h : a < b) : ¬ b < a := fun k => lt_irrefl a (lt_trans h k)

theorem eq_of_not_lt {a b : Endpoint} (h : ¬ a < b) (k : ¬ b < a) : a = b :=
  ext (String.le_antisymm (String.not_lt.mp k) (String.not_lt.mp h))

/-! ### Host and port -/

/-- The value of decimal digits. -/
def digitsValue (cs : List Char) : Nat := cs.foldl (fun n c => n * 10 + (c.toNat - 48)) 0

/-- The port that digits write, with an optional plus sign in front. -/
def parsePort? (cs : List Char) : Option UInt16 :=
  let digits := match cs with
    | '+' :: r => r
    | r => r
  if !digits.isEmpty ∧ digits.all Char.isDigit ∧ digitsValue digits < 65536 then
    some (UInt16.ofNat (digitsValue digits))
  else none

/-- Host and port of a well-formed text. -/
def split? (cs : List Char) : Option (List Char × UInt16) := do
  let (host, port) ← Text.splitLast ':' cs
  if host.isEmpty then none else return (host, ← parsePort? port)

/-- Read an endpoint. -/
def parse? (text : String) : Option Endpoint := (split? text.toList).map fun _ => ⟨text⟩

/-- The endpoint of a host and a port. -/
def ofParts (host : String) (port : UInt16) : Endpoint := ⟨s!"{host}:{port.toNat}"⟩

/-- What stands before the last colon; the whole text if there is no colon. -/
def host (e : Endpoint) : String :=
  match Text.splitLast ':' e.text.toList with
  | some (front, _) => String.ofList front
  | none => e.text

/-- The port after the last colon; zero if there is none. -/
def port (e : Endpoint) : UInt16 :=
  match Text.splitLast ':' e.text.toList with
  | some (_, back) => (parsePort? back).getD 0
  | none => 0

/-- An endpoint as values of a program are shown. -/
def inspect (e : Endpoint) : String := s!"NodeId({e.text})"

/-- A list of endpoints as values of a program are shown. -/
def inspectAll (es : List Endpoint) : String :=
  "[" ++ String.intercalate ", " (es.map inspect) ++ "]"

/-- The endpoint of a text, or the problem that there is none. -/
def ofText (text : String) : Except Problem Endpoint :=
  match parse? text with
  | some e => .ok e
  | none => .error (.mismatch (.invalidEndpoint text))

/-- Read an endpoint from a document. -/
def decode : Decoder Endpoint := fun d => do
  let text ← Decoder.text d
  ofText text

/-- The document of an endpoint. -/
def encode (e : Endpoint) : Document := .text e.text

end Endpoint

end FaultLab
