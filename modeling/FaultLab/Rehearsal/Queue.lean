import FaultLab.Http

/-! # Queues of scripted answers

A rehearsal runs the library against services that answer from a script.  A script is a list in
which each entry waits for the next call of its own kind; entries for other calls stay in place. -/

namespace FaultLab.Rehearsal

variable {α : Type}

/-- The first item with a property, and the list without it. -/
def takeFirst? (p : α → Bool) : List α → Option (α × List α)
  | [] => none
  | a :: rest =>
    if p a then some (a, rest) else (takeFirst? p rest).map fun (b, left) => (b, a :: left)

/-- The first item of a queue, and the queue without it. -/
def pop (default : α) : List α → α × List α
  | [] => (default, [])
  | a :: rest => (a, rest)

/-- A scripted answer to a request. -/
inductive ScriptedReply where
  | answer (status : Nat) (body : String)
  /-- Close the connection instead. -/
  | hangUp

/-- The statuses of answers that have no body. -/
def bodiless : List Nat := [204, 304]

/-- A scripted answer as it arrives. -/
def ScriptedReply.reply : ScriptedReply → Http.Reply
  | answer status body => .answered ⟨status, if bodiless.contains status then "" else body⟩
  | hangUp => .brokenOff

end FaultLab.Rehearsal
