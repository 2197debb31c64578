import FaultLab.Endpoint.Set
import FaultLab.Uuid

/-! # Layouts

A `Layout` is a cluster's declaration of its members: who they are, how the log is replicated over
them, who is considered unresponsive, and the epoch that counts the changes.  A layout is valid when
it has servers and counts only servers as unresponsive. -/

namespace FaultLab

/-- How the log servers of a stripe replicate. -/
inductive ReplicationMode where
  | chain
  | quorum
deriving DecidableEq

namespace ReplicationMode

/-- The names of the modes on the wire. -/
def names : List (String × ReplicationMode) :=
  [("CHAIN_REPLICATION", chain), ("QUORUM_REPLICATION", quorum)]

/-- The name of a mode on the wire. -/
def wireName : ReplicationMode → String
  | chain => "CHAIN_REPLICATION"
  | quorum => "QUORUM_REPLICATION"

/-- A mode as values of a program are shown. -/
def inspect : ReplicationMode → String
  | chain => "ChainReplication"
  | quorum => "QuorumReplication"

/-- Read a mode. -/
def decode (reading : Reading) : Decoder ReplicationMode := Decoder.choice reading names

/-- The document of a mode. -/
def encode (m : ReplicationMode) : Document := .text m.wireName

end ReplicationMode

/-- The log servers that hold one stripe of a segment. -/
structure Stripe where
  logServers : List Endpoint
deriving DecidableEq

namespace Stripe

/-- The fields of a stripe. -/
def reader : RecordReader Stripe :=
  Stripe.mk <$> .field "logServers" (Decoder.list Endpoint.decode)

/-- Read a stripe. -/
def decode (reading : Reading) : Decoder Stripe := reader.decode "LayoutStripe" reading

/-- The document of a stripe. -/
def encode (s : Stripe) : Document :=
  .ofEntries [("logServers", .ofList (s.logServers.map Endpoint.encode))]

/-- A stripe as values of a program are shown. -/
def inspect (s : Stripe) : String :=
  "LayoutStripe \x7b log_servers: " ++ Endpoint.inspectAll s.logServers ++ " \x7d"

/-- Add a log server at the end. -/
def add (e : Endpoint) (s : Stripe) : Stripe := { s with logServers := s.logServers ++ [e] }

/-- Take a log server out wherever it occurs. -/
def remove (e : Endpoint) (s : Stripe) : Stripe :=
  { s with logServers := s.logServers.filter fun x => x ≠ e }

end Stripe

/-- A range of addresses with its replication; without an end it is open. -/
structure Segment where
  mode : ReplicationMode
  start : UInt64
  stop : Option UInt64
  stripes : List Stripe
deriving DecidableEq

/-- The document of a number of sixty-four bits. -/
def encodeU64 (n : UInt64) : Document := .integer (n.toNat : Int)

namespace Segment

/-- The fields of a segment. -/
def reader (reading : Reading) : RecordReader Segment :=
  Segment.mk <$> .field "replicationMode" (ReplicationMode.decode reading)
    <*> .field "start" Decoder.u64
    <*> .nullable "end" Decoder.u64
    <*> .field "stripes" (Decoder.list (Stripe.decode reading))

/-- Read a segment. -/
def decode (reading : Reading) : Decoder Segment :=
  (reader reading).decode "LayoutSegment" reading

/-- The document of a segment. -/
def encode (s : Segment) : Document :=
  .ofEntries [
    ("replicationMode", s.mode.encode),
    ("start", encodeU64 s.start),
    ("end", match s.stop with | some n => encodeU64 n | none => .null),
    ("stripes", .ofList (s.stripes.map Stripe.encode))]

/-- A segment as values of a program are shown. -/
def inspect (s : Segment) : String :=
  let stop := match s.stop with
    | some n => s!"Some({n.toNat})"
    | none => "None"
  "LayoutSegment \x7b replication_mode: " ++ s.mode.inspect ++ s!", start: {s.start.toNat}, end: "
    ++ stop ++ ", stripes: [" ++ String.intercalate ", " (s.stripes.map Stripe.inspect) ++ "] \x7d"

/-- Add a log server to the first stripe. -/
def add (e : Endpoint) (s : Segment) : Segment :=
  match s.stripes with
  | [] => s
  | t :: ts => { s with stripes := t.add e :: ts }

/-- Take a log server out of all stripes. -/
def remove (e : Endpoint) (s : Segment) : Segment :=
  { s with stripes := s.stripes.map (Stripe.remove e) }

end Segment

/-- The members of a cluster and what is known about them, as of one epoch. -/
structure Layout where
  epoch : UInt64
  servers : List Endpoint
  sequencers : List Endpoint
  segments : List Segment
  unresponsive : EndpointSet
  clusterId : Uuid
deriving DecidableEq

/-- Why a layout is not valid. -/
inductive LayoutError where
  | noServers
  | strayUnresponsive (server : Endpoint)
deriving DecidableEq

/-- The words for an invalid layout. -/
def LayoutError.message : LayoutError → String
  | noServers => "layout has no servers"
  | strayUnresponsive server => s!"unresponsive server {server} is not a layout server"

namespace Layout

/-- The first layout of a cluster: all nodes serve, sequence, and hold the only stripe of one open
segment. -/
def initial (nodes : List Endpoint) (clusterId : Uuid) : Layout where
  epoch := 0
  servers := nodes
  sequencers := nodes
  segments := [⟨.chain, 0, none, [⟨nodes⟩]⟩]
  unresponsive := .empty
  clusterId := clusterId

/-- Check that there are servers and that only servers are unresponsive. -/
def validate (l : Layout) : Except LayoutError Unit :=
  if l.servers.isEmpty then .error .noServers
  else match l.unresponsive.toList.find? fun e => !l.servers.contains e with
    | some stray => .error (.strayUnresponsive stray)
    | none => .ok ()

/-- Whether an endpoint is a server. -/
def contains (l : Layout) (e : Endpoint) : Bool := l.servers.contains e

/-- Whether an endpoint is considered unresponsive. -/
def isUnresponsive (l : Layout) (e : Endpoint) : Bool := l.unresponsive.contains e

/-- The servers that are not considered unresponsive, in their order. -/
def responsive (l : Layout) : List Endpoint := l.servers.filter fun e => !l.isUnresponsive e

/-- The number of servers that make a majority. -/
def quorum (l : Layout) : Nat := l.servers.length / 2 + 1

/-- Whether exactly the given endpoints are considered unresponsive. -/
def unresponsiveExactly (l : Layout) (es : List Endpoint) : Bool :=
  l.unresponsive.size = es.length && es.all l.isUnresponsive

/-- Change the last item of a list. -/
def modifyLast {α : Type} (f : α → α) : List α → List α
  | [] => []
  | [a] => [f a]
  | a :: b :: as => a :: modifyLast f (b :: as)

/-- The next layout, with one more server: it also sequences and joins the first stripe of the last
segment. -/
def addServer (e : Endpoint) (l : Layout) : Layout :=
  { l with
    servers := l.servers ++ [e]
    sequencers := l.sequencers ++ [e]
    segments := modifyLast (Segment.add e) l.segments
    epoch := l.epoch + 1 }

/-- The next layout, without a server. -/
def removeServer (e : Endpoint) (l : Layout) : Layout :=
  { l with
    servers := l.servers.filter fun x => x ≠ e
    sequencers := l.sequencers.filter fun x => x ≠ e
    segments := l.segments.map (Segment.remove e)
    unresponsive := l.unresponsive.erase e
    epoch := l.epoch + 1 }

/-- The next layout, with other servers considered unresponsive. -/
def markUnresponsive (es : EndpointSet) (l : Layout) : Layout :=
  { l with unresponsive := es, epoch := l.epoch + 1 }

/-- The fields of a layout. -/
def reader (reading : Reading) : RecordReader Layout :=
  Layout.mk <$> .field "epoch" Decoder.u64
    <*> .field "servers" (Decoder.list Endpoint.decode)
    <*> .fieldOr "sequencers" (Decoder.list Endpoint.decode) []
    <*> .fieldOr "segments" (Decoder.list (Segment.decode reading)) []
    <*> .fieldOr "unresponsiveServers" EndpointSet.decode .empty
    <*> .field "clusterId" Uuid.decode

/-- Read a layout. -/
def decode (reading : Reading) : Decoder Layout := (reader reading).decode "Layout" reading

/-- The document of a layout. -/
def encode (l : Layout) : Document :=
  .ofEntries [
    ("epoch", encodeU64 l.epoch),
    ("servers", .ofList (l.servers.map Endpoint.encode)),
    ("sequencers", .ofList (l.sequencers.map Endpoint.encode)),
    ("segments", .ofList (l.segments.map Segment.encode)),
    ("unresponsiveServers", l.unresponsive.encode),
    ("clusterId", l.clusterId.encode)]

end Layout

end FaultLab
