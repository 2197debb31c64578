import FaultLab.Container.Node
import FaultLab.Machine.Node
import FaultLab.Proofs.Agreement
import FaultLab.Proofs.Views
import FaultLab.Proofs.Walls

/-! # Members that block peers

Members in containers and members on virtual machines block and unblock peers in the same way: a
`PeerBlocker` has a task carried out for one peer after the other, up to the first failure, and records each
peer with which that worked (`PeerBlocker.change`, `PeerBlocker.order`).  The operations of handles are orders
of their peer blockers (`PeerBlocker.Operates`), so what is proved of these is true of both kinds of members.

Where nothing goes wrong (`PeerBlocker.Calm`) an order is carried out for all those that it is for, and then
the rules are those against the recorded peers, as long as peers have hosts of their own
(`Firewall.Change.shuts_made`). -/

namespace FaultLab

open Firewall

namespace NodeStatus

theorem isLive_iff_process {s : NodeStatus} : s.isLive = true ↔ s.process = .running := by
  cases s <;> decide

/-- Any status but those of a live process is the status of the process. -/
theorem eq_iff_process {s p : NodeStatus} (still : p.isLive = false) : s = p ↔ s.process = p := by
  cases s with
  | disconnected | running =>
    refine ⟨fun same => ?_, fun same => ?_⟩ <;>
    · rw [← same] at still
      cases still
  | _ => rfl

end NodeStatus

namespace Firewall.Change

/-- The operation that asks for a change. -/
def operation : Change → Operation
  | block => .disconnect
  | unblock => .reconnect

/-- The report of a change. -/
def report : Change → String
  | block => "blocked peer"
  | unblock => "unblocked peer"

/-- Record a change about a peer. -/
def note (peer : Endpoint) : Change → Commanded → Commanded
  | block => Commanded.addPeer peer
  | unblock => Commanded.removePeer peer

/-- Those of some peers that a change is about; nobody blocks itself. -/
def targets (own : Endpoint) (peers : List Endpoint) (c : Commanded) : Change → List Endpoint
  | block => (c.notBlocked peers).filter fun e => e ≠ own
  | unblock => peers.filter c.peers.contains

theorem mem_of_mem_targets {own p : Endpoint} {peers : List Endpoint} {c : Commanded}
    {change : Change} (h : p ∈ change.targets own peers c) : p ∈ peers := by
  cases change with
  | block => exact (List.mem_filter.mp (List.mem_filter.mp h).1).1
  | unblock => exact (List.mem_filter.mp h).1

theorem mem_targets_unblock {own p : Endpoint} {peers : List Endpoint} {c : Commanded} :
    p ∈ unblock.targets own peers c ↔ p ∈ peers ∧ p ∈ c.peers := by
  simp [targets]

theorem mem_note_of_ne {p q : Endpoint} (other : q ≠ p) (change : Change) (c : Commanded) :
    q ∈ (change.note p c).peers ↔ q ∈ c.peers := by
  cases change with
  | block => exact EndpointSet.mem_insert.trans (or_iff_right other)
  | unblock => exact EndpointSet.mem_erase.trans (and_iff_left other)

theorem process_note (p : Endpoint) (change : Change) (c : Commanded) :
    (change.note p c).status.process = c.status.process := by
  cases change with
  | block => exact Commanded.process_addPeer p c
  | unblock => exact Commanded.process_withPeers (c.peers.erase p) c

end Firewall.Change

/-- Who blocks and unblocks peers of a member. -/
structure PeerBlocker (σ : Type) where
  id : Endpoint
  elevated : Bool
  /-- Have a task carried out. -/
  carry : Task → Attempt σ Failure Unit
  commanded : Part σ Commanded

namespace PeerBlocker
variable {σ : Type}

/-- Change what there is about a peer. -/
def change (k : PeerBlocker σ) (c : Change) (peer : Endpoint) : Attempt σ Failure Unit := do
  k.carry ⟨c, peer.host, k.elevated⟩
  Attempt.log (.info c.report [("node", .fixed k.id.text), ("peer", .fixed peer.text)])
  Attempt.lift (k.commanded.change (c.note peer))

/-- Change what there is about those of some peers that the change is for. -/
def order (k : PeerBlocker σ) (c : Change) (peers : List Endpoint) : Attempt σ Failure Unit := do
  let commanded ← Attempt.lift k.commanded.read
  (c.targets k.id peers commanded).forM (k.change c)

theorem result_change (k : PeerBlocker σ) (c : Change) (peer : Endpoint) (s : σ) :
    (k.change c peer).result s = match (k.carry ⟨c, peer.host, k.elevated⟩).result s with
      | (.ok (), t) => (.ok (), k.commanded.modify (c.note peer) t)
      | (.error e, t) => (.error e, t) := by
  rw [change, Attempt.result_bind]
  rcases (k.carry ⟨c, peer.host, k.elevated⟩).result s with ⟨outcome, t⟩
  cases outcome with
  | ok a => rfl
  | error e => rfl

theorem result_order (k : PeerBlocker σ) (c : Change) (peers : List Endpoint) (s : σ) :
    (k.order c peers).result s =
      ((c.targets k.id peers (k.commanded.get s)).forM (k.change c)).result s := by
  rw [order, Attempt.result_bind, Attempt.result_lift]
  rfl

theorem result_forM_cons (k : PeerBlocker σ) (c : Change) (p : Endpoint) (ps : List Endpoint) (s : σ) :
    ((p :: ps).forM (k.change c)).result s = match (k.change c p).result s with
      | (.ok (), t) => (ps.forM (k.change c)).result t
      | (.error e, t) => (.error e, t) := by
  refine (Attempt.result_bind (k.change c p) (fun _ => ps.forM (k.change c)) s).trans ?_
  rcases (k.change c p).result s with ⟨outcome, t⟩
  cases outcome with
  | ok a => rfl
  | error e => rfl

/-- A peer blocker stands behind a member. -/
structure Operates (k : PeerBlocker σ) (node : Node σ) : Prop where
  commanded : node.commanded = k.commanded.get
  disconnect : ∀ peers, node.disconnect peers = k.order .block peers
  reconnect : ∀ peers, node.reconnect peers = k.order .unblock peers

end PeerBlocker

/-! ### Nothing going wrong -/

namespace Firewall

/-- The hosts that are blocked are exactly those of some peers. -/
def Wall.Shuts (w : Wall) (peers : EndpointSet) : Prop :=
  ∀ r, w.Has r ↔ ∃ p ∈ peers, p.host = r.peer

/-- A wall and a record after a change about some peers. -/
def Change.made (c : Change) (elevated : Bool) : List Endpoint → Wall × Commanded → Wall × Commanded
  | [], x => x
  | p :: ps, x => c.made elevated ps ((⟨c, p.host, elevated⟩ : Task).carried x.1, c.note p x.2)

variable {c : Change} {elevated : Bool} {p : Endpoint} {ps : List Endpoint} {w : Wall}
  {noted : Commanded} {named : Endpoint → Prop}

theorem Wall.shuts_bare {peers : EndpointSet} (none : peers = .empty) : bare.Shuts peers := by
  intro r
  refine iff_of_false (not_has_bare r) ?_
  rintro ⟨p, hp, -⟩
  exact EndpointSet.not_mem_empty p (none ▸ hp)

theorem Change.process_made (c : Change) (elevated : Bool) (ps : List Endpoint) (w : Wall)
    (noted : Commanded) : (c.made elevated ps (w, noted)).2.status.process = noted.status.process := by
  induction ps generalizing w noted with
  | nil => rfl
  | cons p ps ih => exact (ih _ _).trans (process_note p c noted)

theorem Change.named_note (hp : named p) (h : ∀ q ∈ noted.peers, named q) :
    ∀ q ∈ (c.note p noted).peers, named q := by
  intro q hq
  by_cases same : q = p
  · exact same ▸ hp
  · exact h q ((mem_note_of_ne same c noted).mp hq)

theorem Change.tallies_note (tallies : noted.Tallies) (p : Endpoint) (c : Change) :
    (c.note p noted).Tallies := by
  cases c with
  | block => exact Commanded.Tallies.addPeer p noted
  | unblock => exact tallies.removePeer p

theorem Change.tallies_made (tallies : noted.Tallies) (c : Change) (elevated : Bool)
    (ps : List Endpoint) (w : Wall) : (c.made elevated ps (w, noted)).2.Tallies := by
  induction ps generalizing w noted with
  | nil => exact tallies
  | cons p ps ih => exact ih (tallies_note tallies p c) _

/-- Where peers have hosts of their own, the rules after a change are those against the recorded peers. -/
theorem Change.shuts_note (distinct : ∀ p q, named p → named q → p.host = q.host → p = q)
    (hp : named p) (h : ∀ q ∈ noted.peers, named q) (shuts : w.Shuts noted.peers) :
    ((⟨c, p.host, elevated⟩ : Task).carried w).Shuts (c.note p noted).peers := by
  intro r
  rw [Task.has_carried_iff]
  split
  · rename_i about
    cases c with
    | block =>
      exact iff_of_true rfl ⟨p, EndpointSet.mem_insert.mpr (.inl rfl), about.symm⟩
    | unblock =>
      refine iff_of_false nofun ?_
      rintro ⟨q, hq, host⟩
      obtain ⟨recorded, other⟩ := EndpointSet.mem_erase.mp hq
      exact other (distinct q p (h q recorded) hp (host.trans about))
  · rename_i beside
    have other : ∀ q : Endpoint, q.host = r.peer → q ≠ p := by
      rintro q host rfl
      exact beside host.symm
    rw [shuts r]
    constructor
    · rintro ⟨q, hq, host⟩
      exact ⟨q, (mem_note_of_ne (other q host) c noted).mpr hq, host⟩
    · rintro ⟨q, hq, host⟩
      exact ⟨q, (mem_note_of_ne (other q host) c noted).mp hq, host⟩

theorem Change.shuts_made (c : Change) (elevated : Bool)
    (distinct : ∀ p q, named p → named q → p.host = q.host → p = q)
    (hps : ∀ p ∈ ps, named p) (h : ∀ q ∈ noted.peers, named q) (shuts : w.Shuts noted.peers) :
    (c.made elevated ps (w, noted)).1.Shuts (c.made elevated ps (w, noted)).2.peers ∧
      ∀ q ∈ (c.made elevated ps (w, noted)).2.peers, named q := by
  induction ps generalizing w noted with
  | nil => exact ⟨shuts, h⟩
  | cons p ps ih =>
    have hp := hps p List.mem_cons_self
    exact ih (fun q hq => hps q (List.mem_cons_of_mem p hq)) (named_note hp h)
      (shuts_note distinct hp h shuts)

end Firewall

namespace PeerBlocker
variable {σ V : Type} {k : PeerBlocker σ} {view : σ → V} {place : Wall → Commanded → V} {c : Change}
  {ps : List Endpoint} {w : Wall} {noted : Commanded} {v : V}

/-- Tasks are carried out in those states whose view has a place for a wall and a record. -/
structure Calm (k : PeerBlocker σ) (view : σ → V) (place : Wall → Commanded → V) : Prop where
  carries : ∀ task w noted, IsPlain task.peer →
    (k.carry task).Leads view (place w noted) (place (task.carried w) noted)
  reads : ∀ s w noted, view s = place w noted → k.commanded.get s = noted
  notes : ∀ f w noted, (Attempt.lift (k.commanded.change f) : Attempt σ Failure Unit).Leads view
    (place w noted) (place w (f noted))

theorem Calm.leads_change (calm : k.Calm view place) {p : Endpoint} (plain : IsPlain p.host) :
    (k.change c p).Leads view (place w noted)
      (place ((⟨c, p.host, k.elevated⟩ : Task).carried w) (c.note p noted)) := by
  rw [change]
  refine (calm.carries ⟨c, p.host, k.elevated⟩ w noted plain).bind fun _ => ?_
  exact (Attempt.leads_log _ _).bind fun _ => calm.notes (c.note p) _ noted

theorem Calm.leads_forM (calm : k.Calm view place) (plain : ∀ p ∈ ps, IsPlain p.host) :
    (ps.forM (k.change c)).Leads view (place w noted)
      (place (c.made k.elevated ps (w, noted)).1 (c.made k.elevated ps (w, noted)).2) := by
  induction ps generalizing w noted with
  | nil => exact Attempt.yields_pure _ trivial _
  | cons p ps ih =>
    exact (calm.leads_change (plain p List.mem_cons_self)).bind fun _ =>
      ih fun q hq => plain q (List.mem_cons_of_mem p hq)

theorem Calm.leads_order (calm : k.Calm view place) (c : Change) (w : Wall) (noted : Commanded)
    (plain : ∀ p ∈ ps, IsPlain p.host) :
    ∃ targets, (∀ p ∈ targets, p ∈ ps) ∧ (k.order c ps).Leads view (place w noted)
      (place (c.made k.elevated targets (w, noted)).1 (c.made k.elevated targets (w, noted)).2) := by
  refine ⟨c.targets k.id ps noted, fun p => Change.mem_of_mem_targets, fun s hs => ?_⟩
  rw [result_order, calm.reads s w noted hs]
  exact calm.leads_forM (fun p hp => plain p (Change.mem_of_mem_targets hp)) s hs

/-- Where no task is carried out, an order does nothing or fails at once. -/
theorem leads_or_balks_order (refuses : ∀ task, (k.carry task).Balks view v)
    (reads : ∀ s, view s = v → k.commanded.get s = noted) :
    (k.order c ps).Leads view v v ∨ (k.order c ps).Balks view v := by
  rcases targets : c.targets k.id ps noted with - | ⟨p, rest⟩
  · refine .inl fun s hs => ?_
    rw [result_order, reads s hs, targets]
    exact ⟨(), s, rfl, trivial, hs⟩
  · refine .inr fun s hs => ?_
    rw [result_order, reads s hs, targets]
    exact ((refuses _).bind _).bind _ s hs

end PeerBlocker

/-! ### Members in containers -/

namespace Container
variable {σ : Type} {d : Daemon σ} {container : String} {c : Command} {code : Int} {s t : σ}

/-- The daemon runs a command in a container to its end, where it has an exit code. -/
def Daemon.Executes (d : Daemon σ) (container : String) (c : Command) (s : σ) (code : Int) (t : σ) :
    Prop :=
  ∃ number stdout stderr u v, (d.prepareCommand container c).result s = (.ok number, u) ∧
    (d.runCommand number).result u = (.ok (stdout, stderr), v) ∧
    (d.inspectCommand number).result v = (.ok (some code), t)

theorem Daemon.Executes.result (ran : d.Executes container c s code t) :
    ∃ stdout stderr, (d.execute container c).result s = (.ok ⟨stdout, stderr, code⟩, t) := by
  obtain ⟨number, stdout, stderr, u, v, prepared, run, inspected⟩ := ran
  refine ⟨stdout, stderr, ?_⟩
  simp only [Daemon.execute, Attempt.result_bind, prepared, run, inspected, Attempt.result_pure,
    Option.getD_some]

namespace Handle
variable {h : Handle σ} {task : Firewall.Task}

theorem result_runScript (ran : h.daemon.Executes h.container (.firewall task) s code t)
    (operation : String) : ∃ f, (h.runScript operation task).result s =
      (if code = 0 then .ok () else .error f, t) := by
  obtain ⟨stdout, stderr, executed⟩ := ran.result
  refine ⟨.ofNode h.id operation (.script code (Text.trim stderr)), ?_⟩
  simp only [runScript, execute, ask, Attempt.result_bind, Attempt.result_mapError, executed,
    Attempt.result_give, Outcome.success, decide_eq_true_eq]

/-- The daemon has tasks carried out in a container. -/
def peerBlocker (h : Handle σ) : PeerBlocker σ where
  id := h.id
  elevated := false
  carry task := h.runScript task.change.operation.name task
  commanded := h.commanded

theorem operates_peerBlocker (h : Handle σ) : h.peerBlocker.Operates h.node :=
  ⟨rfl, fun _ => rfl, fun _ => rfl⟩

end Handle

end Container

/-! ### Members on virtual machines -/

namespace Machine

namespace Shell
variable {σ : Type} {shell : Shell σ} {host : Host} {c : Command} {code : Int} {stdout stderr : String}
  {s t : σ}

theorem result_run (shell : Shell σ) (host : Host) (c : Command) (s : σ) :
    (shell.run host c).result s =
      (judge host ((shell host c).result s).1, ((shell host c).result s).2) := by
  simp only [run, Attempt.result_bind, Attempt.result_log, Attempt.result_lift, Attempt.result_give]

theorem result_run_reached (ended : (shell host c).result s = (.ended (some code) stdout stderr, t))
    (reached : code ≠ connectionFailure) :
    (shell.run host c).result s = (.ok ⟨stdout, stderr, code⟩, t) := by
  rw [result_run, ended]
  exact Prod.ext (if_neg reached) rfl

theorem result_run_unreached (ended : (shell host c).result s = (.ended (some code) stdout stderr, t))
    (lost : code = connectionFailure) :
    (shell.run host c).result s = (.error (.unreachable host.address stderr), t) := by
  rw [result_run, ended]
  exact Prod.ext (if_pos lost) rfl

end Shell

end Machine

namespace Machine.Handle
variable {σ : Type} {h : Handle σ} {c : Command} {code : Int} {stdout stderr : String} {s t : σ}

theorem result_run (ended : (h.shell h.host c).result s = (.ended (some code) stdout stderr, t))
    (operation : String) : ∃ f, (h.run operation c).result s =
      (if code = 0 then .ok () else .error f, t) := by
  by_cases reached : code = connectionFailure
  · refine ⟨.ofNode h.id operation (.shell (.unreachable h.host.address stderr)), ?_⟩
    rw [if_neg (by rw [reached]; decide)]
    simp only [run, Shell.runWell, Attempt.result_bind, Attempt.result_mapError,
      Shell.result_run_unreached ended reached]
  · refine ⟨.ofNode h.id operation (.shell (.failed h.host.address code stderr)), ?_⟩
    by_cases well : code = 0
    · simp only [run, Shell.runWell, Attempt.result_bind, Attempt.result_mapError,
        Shell.result_run_reached ended reached, Outcome.success, decide_eq_true_eq, if_pos well,
        Attempt.result_pure]
    · simp only [run, Shell.runWell, Attempt.result_bind, Attempt.result_mapError,
        Shell.result_run_reached ended reached, Outcome.success, decide_eq_true_eq, if_neg well,
        Attempt.result_give]

/-- Tasks are carried out by commands on a machine. -/
def peerBlocker (h : Handle σ) : PeerBlocker σ where
  id := h.id
  elevated := h.elevated
  carry task := h.run task.change.operation.name (.firewall task)
  commanded := h.commanded

theorem operates_peerBlocker (h : Handle σ) : h.peerBlocker.Operates h.node :=
  ⟨rfl, fun _ => rfl, fun _ => rfl⟩

end Machine.Handle

end FaultLab
