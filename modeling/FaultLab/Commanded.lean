import FaultLab.Endpoint.Set

/-! # What a handle has commanded

A handle on a member remembers the last status it commanded and the peers it has blocked.  A live
member counts as `disconnected` exactly while some peer is blocked. -/

namespace FaultLab

/-- What a member was last commanded to be. -/
inductive NodeStatus where
  | running
  | stopped
  | paused
  | disconnected
  | poweredOff
  | killed
deriving DecidableEq

namespace NodeStatus

/-- The names on the wire. -/
def names : List (String × NodeStatus) :=
  [("RUNNING", running), ("STOPPED", stopped), ("PAUSED", paused), ("DISCONNECTED", disconnected),
    ("POWERED_OFF", poweredOff), ("KILLED", killed)]

/-- The name on the wire. -/
def wireName : NodeStatus → String
  | running => "RUNNING"
  | stopped => "STOPPED"
  | paused => "PAUSED"
  | disconnected => "DISCONNECTED"
  | poweredOff => "POWERED_OFF"
  | killed => "KILLED"

/-- A status in a message. -/
def display : NodeStatus → String
  | running => "running"
  | stopped => "stopped"
  | paused => "paused"
  | disconnected => "disconnected"
  | poweredOff => "powered-off"
  | killed => "killed"

/-- A status as values of a program are shown. -/
def inspect : NodeStatus → String
  | running => "Running"
  | stopped => "Stopped"
  | paused => "Paused"
  | disconnected => "Disconnected"
  | poweredOff => "PoweredOff"
  | killed => "Killed"

/-- Whether the member's process executes, be it cut off or not. -/
def isLive : NodeStatus → Bool
  | running => true
  | disconnected => true
  | _ => false

/-- Read a status. -/
def decode : Decoder NodeStatus := Decoder.choice .direct names

/-- The document of a status. -/
def encode (s : NodeStatus) : Document := .text s.wireName

end NodeStatus

/-- The last commanded status of a member and the peers that it blocks. -/
structure Commanded where
  status : NodeStatus
  peers : EndpointSet
deriving DecidableEq

namespace Commanded

/-- A status without blocked peers. -/
def ofStatus (s : NodeStatus) : Commanded := ⟨s, .empty⟩

/-- Record a change of the process; one that lives on behind a block counts as disconnected. -/
def setStatus (s : NodeStatus) (c : Commanded) : Commanded :=
  { c with status := if s.isLive && !c.peers.isEmpty then .disconnected else s }

/-- Those of some peers that are not blocked. -/
def notBlocked (es : List Endpoint) (c : Commanded) : List Endpoint :=
  es.filter fun e => !c.peers.contains e

/-- Record that a peer is blocked. -/
def addPeer (e : Endpoint) (c : Commanded) : Commanded where
  peers := c.peers.insert e
  status := if c.status.isLive then .disconnected else c.status

/-- Record some peers left: who no longer blocks any is no longer disconnected. -/
def withPeers (peers : EndpointSet) (c : Commanded) : Commanded where
  peers := peers
  status := if peers.isEmpty && c.status = .disconnected then .running else c.status

/-- Record that a peer is no longer blocked. -/
def removePeer (e : Endpoint) (c : Commanded) : Commanded := c.withPeers (c.peers.erase e)

/-- Record that no peer is blocked any more. -/
def clearPeers (c : Commanded) : Commanded := c.withPeers .empty

@[simp] theorem peers_setStatus (s : NodeStatus) (c : Commanded) :
    (c.setStatus s).peers = c.peers := rfl

@[simp] theorem peers_addPeer (e : Endpoint) (c : Commanded) :
    (c.addPeer e).peers = c.peers.insert e := rfl

@[simp] theorem peers_removePeer (e : Endpoint) (c : Commanded) :
    (c.removePeer e).peers = c.peers.erase e := rfl

@[simp] theorem peers_clearPeers (c : Commanded) : c.clearPeers.peers = .empty := rfl

end Commanded

end FaultLab
