import FaultLab.Http
import FaultLab.Text.Split

/-! # Addresses of resources

A `Url` names a service and a target on it.  In the target, steps to the same or the outer directory
are carried out, what comes after a `#` is left out, and characters that may not stand there are
written as their bytes. -/

namespace FaultLab.Http

/-- A service and a target on it. -/
structure Url where
  service : String
  target : String
deriving DecidableEq

namespace Url

/-- A byte as it stands in a target. -/
def percent (n : Nat) : List Char :=
  ['%', (Nat.digitChar (n / 16)).toUpper, (Nat.digitChar (n % 16)).toUpper]

/-- The bytes of a character. -/
def bytes (c : Char) : List Nat := (String.singleton c).toUTF8.toList.map UInt8.toNat

/-- Whether a character is printable and none of some others. -/
def plainBut (others : List Nat) (c : Char) : Bool :=
  0x20 < c.toNat && c.toNat < 0x7f && !(others.contains c.toNat)

/-- Whether a character may stand in a path: it is printable and none of quote, number sign, angle
brackets, question mark, grave accent and braces. -/
def plainInPath : Char → Bool := plainBut [0x22, 0x23, 0x3c, 0x3e, 0x3f, 0x60, 0x7b, 0x7d]

/-- Whether a character may stand in a query: it is printable and none of quotes, number sign and
angle brackets. -/
def plainInQuery : Char → Bool := plainBut [0x22, 0x23, 0x27, 0x3c, 0x3e]

/-- Characters with those escaped that may not stand as they are. -/
def escape (plain : Char → Bool) (cs : List Char) : List Char :=
  cs.flatMap fun c => if plain c then [c] else (bytes c).flatMap percent

/-- Whether a directory is a number of dots. -/
def isDots (n : Nat) (cs : List Char) : Bool :=
  let rec dots : List Char → Option Nat
    | [] => some 0
    | '.' :: r => (dots r).map (· + 1)
    | '%' :: '2' :: 'e' :: r => (dots r).map (· + 1)
    | '%' :: '2' :: 'E' :: r => (dots r).map (· + 1)
    | _ => none
  dots cs = some n

/-- Carry out the steps of a path; `done` are the directories so far, the last one first. -/
def walk : List (List Char) → List (List Char) → List (List Char)
  | done, [] => done.reverse
  | done, d :: ds =>
    if isDots 2 d then
      if ds.isEmpty then ([] :: done.tail).reverse else walk done.tail ds
    else if isDots 1 d then
      if ds.isEmpty then ([] :: done).reverse else walk done ds
    else walk (escape plainInPath d :: done) ds

/-- The path of a target. -/
def path (cs : List Char) : List Char :=
  match Text.splitEvery (fun c => c = '/' || c = '\\') cs with
  | [] => ['/']
  | [[]] => ['/']
  | [] :: ds => (walk [] ds).flatMap fun d => '/' :: d
  | ds => (walk [] ds).flatMap fun d => '/' :: d

/-- The target that some characters name. -/
def targetOf (cs : List Char) : List Char :=
  let whole := cs.takeWhile fun c => c ≠ '#'
  let front := whole.takeWhile fun c => c ≠ '?'
  match whole.drop front.length with
  | '?' :: query => path front ++ '?' :: escape plainInQuery query
  | _ => path front

/-- The address that a text writes out, if it names a service. -/
def parse? (text : String) : Option Url :=
  let cs := text.toList.filter fun c => c ≠ '\t' && c ≠ '\n' && c ≠ '\r'
  let rest := match cs with
    | 'h' :: 't' :: 't' :: 'p' :: ':' :: '/' :: '/' :: r => some r
    | 'h' :: 't' :: 't' :: 'p' :: 's' :: ':' :: '/' :: '/' :: r => some r
    | _ => none
  rest.bind fun r =>
    let service := r.takeWhile fun c => c ≠ '/' && c ≠ '\\' && c ≠ '?' && c ≠ '#'
    if service.isEmpty then none
    else some ⟨String.ofList service, String.ofList (targetOf (r.drop service.length))⟩

end Url

end FaultLab.Http
