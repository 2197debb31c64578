/-! # The journal of a run

Every part of the library reports what it does as a sequence of `Event`s: a level, a message and
named fields.  A field is `fixed` when the run alone decides its text and `varying` when it also
depends on where and when the run takes place, as addresses of remote services, random
identifiers and the words of a transport do. -/

namespace FaultLab

/-- How much attention an event asks for. -/
inductive Level where
  | debug
  | info
  | warn
  | error
deriving DecidableEq

/-- The name of a level in a journal. -/
def Level.name : Level → String
  | debug => "DEBUG"
  | info => "INFO"
  | warn => "WARN"
  | error => "ERROR"

/-- The text of a field of an event. -/
inductive FieldText where
  | fixed (text : String)
  | varying (text : String)
deriving DecidableEq

/-- One entry of the journal. -/
structure Event where
  level : Level
  message : String
  fields : List (String × FieldText)
deriving DecidableEq

namespace Event

/-- An event for readers who follow every step. -/
def debug (message : String) (fields : List (String × FieldText)) : Event :=
  ⟨.debug, message, fields⟩

/-- An event that marks progress. -/
def info (message : String) (fields : List (String × FieldText)) : Event :=
  ⟨.info, message, fields⟩

/-- An event that marks trouble which the run goes on from. -/
def warn (message : String) (fields : List (String × FieldText)) : Event :=
  ⟨.warn, message, fields⟩

/-- An event that marks a failure. -/
def error (message : String) (fields : List (String × FieldText)) : Event :=
  ⟨.error, message, fields⟩

end Event

/-- A field with a number. -/
def FieldText.ofNat (n : Nat) : FieldText := .fixed (toString n)

/-- A field whose text varies exactly if `varies` says so. -/
def FieldText.unless (varies : Bool) (text : String) : FieldText :=
  if varies then .varying text else .fixed text

end FaultLab
