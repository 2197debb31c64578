/-! # Firewall rules against a peer

A `Rule` drops the packets from or to one peer.  Every rule bears the same tag, so that rules of
others stay out of reach.  A member is blocked from a peer by two rules, one for each direction. -/

namespace FaultLab.Firewall

/-- Which packets a rule drops. -/
inductive Direction where
  | fromPeer
  | toPeer
deriving DecidableEq

namespace Direction

/-- The chain that packets of a direction go through. -/
def chain : Direction → String
  | fromPeer => "INPUT"
  | toPeer => "OUTPUT"

/-- The option that names the peer. -/
def peerOption : Direction → String
  | fromPeer => "-s"
  | toPeer => "-d"

end Direction

/-- Drop the packets of one direction between here and a peer. -/
structure Rule where
  peer : String
  direction : Direction
deriving DecidableEq

/-- The comment that every rule bears. -/
def tag : String := "faultline"

/-- A rule in the words of the firewall tool. -/
def Rule.words (r : Rule) : List String :=
  [r.direction.chain, r.direction.peerOption, r.peer, "-m", "comment", "--comment", tag, "-j",
    "DROP"]

/-- What to do about a rule. -/
inductive Action where
  /-- Succeed exactly if the rule is there. -/
  | check
  /-- Put a copy on top of the chain. -/
  | insert
  /-- Take one copy out of the chain. -/
  | delete
  /-- List the chain. -/
  | list
deriving DecidableEq

/-- One use of the firewall tool. -/
structure Invocation where
  elevated : Bool
  action : Action
  rule : Rule
deriving DecidableEq

namespace Invocation

/-- The arguments of the tool. -/
def arguments (i : Invocation) : List String :=
  match i.action with
  | .check => "-C" :: i.rule.words
  | .insert => "-I" :: i.rule.words
  | .delete => "-D" :: i.rule.words
  | .list => ["-S", i.rule.direction.chain]

/-- The command line of the tool. -/
def commandLine (i : Invocation) : String :=
  let tool := if i.elevated then ["sudo", "iptables"] else ["iptables"]
  String.intercalate " " (tool ++ i.arguments)

end Invocation

end FaultLab.Firewall
