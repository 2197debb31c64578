import FaultLab.Firewall

/-! # Shell scripts that block and unblock a peer

A `Script` is a piece of shell built from uses of the firewall tool; `Script.text` writes it down.
Blocking a peer twice leaves one copy of each rule, because each is inserted only where it is
missing.  Unblocking takes out every copy; it first lists the chain, so that a tool which does not
work at all is not mistaken for a chain without the rule. -/

namespace FaultLab.Firewall

/-- A piece of shell about firewall rules. -/
inductive Script where
  /-- Use the tool; what it says about a chain or a missing rule is thrown away. -/
  | use (i : Invocation)
  /-- Both, one after the other, up to the first failure. -/
  | both (first second : Script)
  /-- The second if the first fails. -/
  | either (first second : Script)
  /-- The body as long as the test succeeds. -/
  | whilst (test body : Script)
  /-- Leave the group with a failure. -/
  | giveUp
  /-- In a shell of its own. -/
  | group (inner : Script)
deriving DecidableEq

namespace Script

/-- Where the words of the tool go. -/
def silence : Action → String
  | .check => " 2>/dev/null"
  | .list => " >/dev/null"
  | _ => ""

/-- The text of a script. -/
def text : Script → String
  | use i => i.commandLine ++ silence i.action
  | both a b => a.text ++ " && " ++ b.text
  | either a b => a.text ++ " || " ++ b.text
  | whilst t b => "while " ++ t.text ++ "; do " ++ b.text ++ "; done"
  | giveUp => "exit 1"
  | group a => "( " ++ a.text ++ " )"

/-- Insert a rule unless it is there. -/
def ensure (elevated : Bool) (r : Rule) : Script :=
  group (either (use ⟨elevated, .check, r⟩) (use ⟨elevated, .insert, r⟩))

/-- Delete every copy of a rule. -/
def remove (elevated : Bool) (r : Rule) : Script :=
  group (both (use ⟨elevated, .list, r⟩)
    (whilst (use ⟨elevated, .check, r⟩) (either (use ⟨elevated, .delete, r⟩) giveUp)))

/-- Drop all packets from and to a peer. -/
def block (elevated : Bool) (peer : String) : Script :=
  both (ensure elevated ⟨peer, .fromPeer⟩) (ensure elevated ⟨peer, .toPeer⟩)

/-- Drop no packets from or to a peer any more. -/
def unblock (elevated : Bool) (peer : String) : Script :=
  both (remove elevated ⟨peer, .fromPeer⟩) (remove elevated ⟨peer, .toPeer⟩)

end Script

/-- What is to happen to a peer. -/
inductive Change where
  | block
  | unblock
deriving DecidableEq

/-- A change about one peer, with the rights of another user or without. -/
structure Task where
  change : Change
  peer : String
  elevated : Bool
deriving DecidableEq

/-- The script that carries out a task. -/
def Task.script (t : Task) : Script :=
  match t.change with
  | .block => .block t.elevated t.peer
  | .unblock => .unblock t.elevated t.peer

end FaultLab.Firewall
