import FaultLab.Endpoint.Table
import FaultLab.Layout

/-! # Reports on the health of a cluster

A `StatusReport` says how a cluster sees its members, and a `Snapshot` puts it beside the layout
that was fetched with it.  The predicates of a snapshot are what a test waits for. -/

namespace FaultLab

/-- How well a cluster as a whole does. -/
inductive ClusterStatus where
  | stable
  | degraded
  | unavailable
deriving DecidableEq

namespace ClusterStatus

/-- The names on the wire. -/
def names : List (String × ClusterStatus) :=
  [("STABLE", stable), ("DEGRADED", degraded), ("UNAVAILABLE", unavailable)]

/-- The name on the wire. -/
def wireName : ClusterStatus → String
  | stable => "STABLE"
  | degraded => "DEGRADED"
  | unavailable => "UNAVAILABLE"

/-- A status as values of a program are shown. -/
def inspect : ClusterStatus → String
  | stable => "Stable"
  | degraded => "Degraded"
  | unavailable => "Unavailable"

/-- Read a status. -/
def decode : Decoder ClusterStatus := Decoder.choice .direct names

/-- The document of a status. -/
def encode (s : ClusterStatus) : Document := .text s.wireName

end ClusterStatus

/-- Whether a member answers whoever asks for the report. -/
inductive Connectivity where
  | responsive
  | unresponsive
deriving DecidableEq

namespace Connectivity

/-- The names on the wire. -/
def names : List (String × Connectivity) :=
  [("RESPONSIVE", responsive), ("UNRESPONSIVE", unresponsive)]

/-- The name on the wire. -/
def wireName : Connectivity → String
  | responsive => "RESPONSIVE"
  | unresponsive => "UNRESPONSIVE"

/-- A connectivity as values of a program are shown. -/
def inspect : Connectivity → String
  | responsive => "Responsive"
  | unresponsive => "Unresponsive"

/-- Read a connectivity. -/
def decode : Decoder Connectivity := Decoder.choice .direct names

/-- The document of a connectivity. -/
def encode (c : Connectivity) : Document := .text c.wireName

end Connectivity

/-- Whether a member serves, as the cluster sees it. -/
inductive NodeHealth where
  | up
  | down
  | unknown
deriving DecidableEq

namespace NodeHealth

/-- The names on the wire. -/
def names : List (String × NodeHealth) := [("UP", up), ("DOWN", down), ("NA", unknown)]

/-- The name on the wire. -/
def wireName : NodeHealth → String
  | up => "UP"
  | down => "DOWN"
  | unknown => "NA"

/-- A health as values of a program are shown. -/
def inspect : NodeHealth → String
  | up => "Up"
  | down => "Down"
  | unknown => "Na"

/-- Read a health. -/
def decode : Decoder NodeHealth := Decoder.choice .direct names

/-- The document of a health. -/
def encode (h : NodeHealth) : Document := .text h.wireName

end NodeHealth

/-- How far a report can be trusted. -/
inductive Reliability where
  | strongQuorum
  | weakNoQuorum
  | unavailable
deriving DecidableEq

namespace Reliability

/-- The names on the wire. -/
def names : List (String × Reliability) :=
  [("STRONG_QUORUM", strongQuorum), ("WEAK_NO_QUORUM", weakNoQuorum), ("UNAVAILABLE", unavailable)]

/-- The name on the wire. -/
def wireName : Reliability → String
  | strongQuorum => "STRONG_QUORUM"
  | weakNoQuorum => "WEAK_NO_QUORUM"
  | unavailable => "UNAVAILABLE"

/-- A reliability as values of a program are shown. -/
def inspect : Reliability → String
  | strongQuorum => "StrongQuorum"
  | weakNoQuorum => "WeakNoQuorum"
  | unavailable => "Unavailable"

/-- Read a reliability. -/
def decode : Decoder Reliability := Decoder.choice .direct names

/-- The document of a reliability. -/
def encode (r : Reliability) : Document := .text r.wireName

end Reliability

/-- How a cluster sees its members at one point in time. -/
structure StatusReport where
  overall : ClusterStatus
  connectivity : EndpointTable Connectivity
  health : EndpointTable NodeHealth
  reliability : Reliability
deriving DecidableEq

namespace StatusReport

/-- The members that do not answer. -/
def unreachable (r : StatusReport) : List Endpoint :=
  (r.connectivity.entries.filter fun (_, c) => c = .unresponsive).map Prod.fst

/-- The fields of a report. -/
def reader : RecordReader StatusReport :=
  StatusReport.mk <$> .field "overall" ClusterStatus.decode
    <*> .field "connectivity" (EndpointTable.decode Connectivity.decode)
    <*> .field "health" (EndpointTable.decode NodeHealth.decode)
    <*> .field "reliability" Reliability.decode

/-- Read a report. -/
def decode : Decoder StatusReport := reader.decode "ClusterStatusReport" .direct

/-- The document of a report. -/
def encode (r : StatusReport) : Document :=
  .ofEntries [
    ("overall", r.overall.encode),
    ("connectivity", r.connectivity.encode Connectivity.encode),
    ("health", r.health.encode NodeHealth.encode),
    ("reliability", r.reliability.encode)]

end StatusReport

/-- A layout and the report that was fetched after it. -/
structure Snapshot where
  layout : Layout
  status : StatusReport
deriving DecidableEq

namespace Snapshot

/-- A snapshot on one line. -/
def summary (s : Snapshot) : String :=
  let names := String.intercalate "," (s.layout.unresponsive.toList.map Endpoint.text)
  s!"epoch={s.layout.epoch.toNat} status={s.status.overall.inspect} " ++
    s!"reliability={s.status.reliability.inspect} servers={s.layout.servers.length} " ++
    s!"unresponsive=[{names}]"

/-- The cluster is stable. -/
def isStable (s : Snapshot) : Bool := s.status.overall = .stable

/-- The cluster is degraded. -/
def isDegraded (s : Snapshot) : Bool := s.status.overall = .degraded

/-- The cluster is unavailable. -/
def isUnavailable (s : Snapshot) : Bool := s.status.overall = .unavailable

/-- So many servers are considered unresponsive. -/
def unresponsiveCountIs (n : Nat) (s : Snapshot) : Bool := s.layout.unresponsive.size = n

/-- An endpoint is considered unresponsive. -/
def isUnresponsive (e : Endpoint) (s : Snapshot) : Bool := s.layout.isUnresponsive e

/-- An endpoint is not considered unresponsive. -/
def isResponsive (e : Endpoint) (s : Snapshot) : Bool := !s.layout.isUnresponsive e

/-- The layout is later than an epoch. -/
def epochAfter (baseline : UInt64) (s : Snapshot) : Bool := baseline < s.layout.epoch

/-- The layout has reached an epoch. -/
def epochAtLeast (epoch : UInt64) (s : Snapshot) : Bool := epoch ≤ s.layout.epoch

/-- An endpoint is a server. -/
def hasServer (e : Endpoint) (s : Snapshot) : Bool := s.layout.contains e

/-- The fields of a snapshot. -/
def reader : RecordReader Snapshot :=
  Snapshot.mk <$> .field "layout" (Layout.decode .direct) <*> .field "status" StatusReport.decode

/-- Read a snapshot. -/
def decode : Decoder Snapshot := reader.decode "ClusterSnapshot" .direct

/-- The document of a snapshot. -/
def encode (s : Snapshot) : Document :=
  .ofEntries [("layout", s.layout.encode), ("status", s.status.encode)]

end Snapshot

end FaultLab
