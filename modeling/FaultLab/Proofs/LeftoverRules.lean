import Mathlib.Data.List.Induction
import FaultLab.Proofs.PeerBlocking

/-! # Rules that a reconnect leaves

A `Site` is what there is to know about the firewall of a member: its wall, and the mishaps there so far.
Scripts run at a site with any mishaps, and what they end with is what a handle gets to know
(`PeerBlocker.Heeds`).  Then a change succeeds and is recorded, or fails and is not, and its script has run in
either case (`PeerBlocker.Heeds.change_ends`).

Every rule at a site is owed to a recorded peer, to a peer of a disconnect that failed, or to a check that
failed (`PeerBlocker.Owed`).  A change keeps this (`PeerBlocker.Heeds.accounted_change`), so do orders and
lists of them (`PeerBlocker.Heeds.accounted_orders`).  A reconnect goes through the recorded peers alone: it
leaves a rule against one of its peers only where a check failed, or where no peer was recorded because the
disconnect failed half-way (`Operated.rule_left_by_reconnect`).  The latter does happen
(`SlippingFirewall.rule_outlives_reconnect`). -/

namespace FaultLab

open Firewall

/-- The firewall of a member, and the mishaps there so far. -/
structure Site (σ : Type) where
  wall : σ → Wall
  mishaps : σ → List Invocation

namespace Site
variable {σ : Type}

/-- The script of a task runs at a site, from one state to another. -/
def Ran (site : Site σ) (task : Task) (e : Ending) (s t : σ) : Prop :=
  ∃ ms, task.script.Runs (site.wall s) e ms (site.wall t) ∧ site.mishaps t = site.mishaps s ++ ms

/-- A check of a rule has failed that had nothing to do with the rule. -/
def Unchecked (site : Site σ) (s : σ) (r : Rule) : Prop :=
  ∃ i ∈ site.mishaps s, i.action = .check ∧ i.rule = r

/-- What handles have commanded is kept apart from a site. -/
structure Apart (site : Site σ) (p : Part σ Commanded) : Prop where
  get_set : ∀ c s, p.get (p.set c s) = c
  wall_set : ∀ c s, site.wall (p.set c s) = site.wall s
  mishaps_set : ∀ c s, site.mishaps (p.set c s) = site.mishaps s

variable {site : Site σ} {task : Task} {e : Ending} {s t : σ} {r : Rule}

theorem Ran.unchecked (ran : site.Ran task e s t) (h : site.Unchecked s r) : site.Unchecked t r := by
  obtain ⟨ms, -, mishaps⟩ := ran
  obtain ⟨i, hi, check⟩ := h
  exact ⟨i, mishaps ▸ List.mem_append_left ms hi, check⟩

theorem Ran.has_iff_of_ne (ran : site.Ran task e s t) (other : r.peer ≠ task.peer) :
    (site.wall t).Has r ↔ (site.wall s).Has r := by
  obtain ⟨ms, runs, -⟩ := ran
  exact Task.has_iff_of_ne runs other

theorem Ran.has_of_unblock (ran : site.Ran task e s t) (unblock : task.change = .unblock)
    (h : (site.wall t).Has r) : (site.wall s).Has r := by
  obtain ⟨ms, runs, -⟩ := ran
  exact Task.has_of_unblock runs unblock h

theorem Ran.unchecked_of_unblock (ran : site.Ran task .success s t)
    (unblock : task.change = .unblock) (about : r.peer = task.peer) (h : (site.wall t).Has r) :
    site.Unchecked t r := by
  obtain ⟨ms, runs, mishaps⟩ := ran
  obtain ⟨peer, d⟩ := r
  obtain rfl : peer = task.peer := about
  have checked := Task.checked_of_unblock runs unblock h
  exact ⟨_, mishaps ▸ List.mem_append_right _ checked, rfl, rfl⟩

end Site

namespace PeerBlocker
variable {σ : Type} {k : PeerBlocker σ} {site : Site σ} {s t u : σ} {c : Change} {p : Endpoint}
  {r : Rule}

/-- Tasks run at a site: they succeed where their scripts do, and handles get to know it. -/
structure Heeds (k : PeerBlocker σ) (site : Site σ) : Prop where
  apart : site.Apart k.commanded
  carries : ∀ task s, IsPlain task.peer → ∃ e t, site.Ran task e s t ∧
    k.commanded.get t = k.commanded.get s ∧
    (e = .success ∧ (k.carry task).result s = (.ok (), t) ∨
      e ≠ .success ∧ ∃ f, (k.carry task).result s = (.error f, t))

/-- The peers recorded in a state. -/
def recorded (k : PeerBlocker σ) (s : σ) : EndpointSet := (k.commanded.get s).peers

/-- Whatever comes of a change, its script has run; and it was recorded if it succeeded. -/
theorem Heeds.change_ends (heeds : k.Heeds site) (c : Change) (plain : IsPlain p.host) (s : σ) :
    ∃ e t, site.Ran ⟨c, p.host, k.elevated⟩ e s t ∧
      (e = .success ∧ (k.change c p).result s = (.ok (), t) ∧
          k.commanded.get t = c.note p (k.commanded.get s) ∨
        e ≠ .success ∧ (∃ f, (k.change c p).result s = (.error f, t)) ∧
          k.commanded.get t = k.commanded.get s) := by
  obtain ⟨e, t, ran, still, ⟨success, carried⟩ | ⟨failed, f, carried⟩⟩ :=
    heeds.carries ⟨c, p.host, k.elevated⟩ s plain
  · refine ⟨e, k.commanded.modify (c.note p) t, ?_, .inl ⟨success, ?_, ?_⟩⟩
    · obtain ⟨ms, runs, mishaps⟩ := ran
      refine ⟨ms, ?_, (heeds.apart.mishaps_set _ t).trans mishaps⟩
      rw [Part.modify, heeds.apart.wall_set]
      exact runs
    · rw [result_change, carried]
    · rw [Part.modify, heeds.apart.get_set, still]
  · refine ⟨e, t, ran, .inr ⟨failed, ⟨f, ?_⟩, still⟩⟩
    rw [result_change, carried]

/-! ### What rules are owed to -/

/-- A rule in place is owed to a recorded peer, to one of those that are to blame, or to a check that
failed. -/
def Owed (k : PeerBlocker σ) (site : Site σ) (blamed : Endpoint → Prop) (s : σ) (r : Rule) : Prop :=
  (∃ p ∈ k.recorded s, p.host = r.peer) ∨ (∃ p, blamed p ∧ p.host = r.peer) ∨ site.Unchecked s r

/-- Every rule in place is owed to something, and the recorded peers have a name. -/
structure Accounted (k : PeerBlocker σ) (site : Site σ) (blamed named : Endpoint → Prop) (s : σ) :
    Prop where
  owed : ∀ r, (site.wall s).Has r → k.Owed site blamed s r
  named : ∀ p ∈ k.recorded s, named p

variable {blamed blamed' named : Endpoint → Prop}

theorem Accounted.mono (h : k.Accounted site blamed named s) (more : ∀ p, blamed p → blamed' p) :
    k.Accounted site blamed' named s where
  owed r has := (h.owed r has).imp_right (Or.imp_left fun ⟨p, hp, host⟩ => ⟨p, more p hp, host⟩)
  named := h.named

theorem Owed.through {task : Task} {e : Ending} (h : k.Owed site blamed s r)
    (ran : site.Ran task e s t) (still : ∀ q ∈ k.recorded s, q.host = r.peer → q ∈ k.recorded t) :
    k.Owed site blamed t r := by
  obtain ⟨q, hq, host⟩ | owed | unchecked := h
  · exact .inl ⟨q, still q hq host, host⟩
  · exact .inr (.inl owed)
  · exact .inr (.inr (ran.unchecked unchecked))

/-- A change that succeeds, and any unblocking, leaves every rule owed to something; for what a block
leaves that fails its peer is to blame. -/
theorem Heeds.accounted_change (heeds : k.Heeds site) (plain : IsPlain p.host) {f : Except Failure Unit}
    (changed : (k.change c p).result s = (f, t)) (hp : named p)
    (h : k.Accounted site blamed named s) :
    k.Accounted site (fun q => blamed q ∨ q = p ∧ c = .block ∧ f ≠ .ok ()) named t := by
  obtain ⟨e, v, ran, ⟨rfl, made, notes⟩ | ⟨-, ⟨cause, made⟩, notes⟩⟩ := heeds.change_ends c plain s
  · obtain ⟨rfl, rfl⟩ := Prod.mk.inj (made.symm.trans changed)
    have noted : k.recorded v = (c.note p (k.commanded.get s)).peers := congrArg Commanded.peers notes
    refine ⟨fun r has => ?_, fun q hq => ?_⟩
    · by_cases about : r.peer = p.host
      · cases c with
        | block => exact .inl ⟨p, noted ▸ EndpointSet.mem_insert.mpr (.inl rfl), about.symm⟩
        | unblock => exact .inr (.inr (ran.unchecked_of_unblock rfl about has))
      · refine ((h.mono fun _ => .inl).owed r ((ran.has_iff_of_ne about).mp has)).through
          ran fun q hq host => ?_
        have apart : q ≠ p := fun same => about (same ▸ host.symm)
        exact noted ▸ (Change.mem_note_of_ne apart c _).mpr hq
    · by_cases same : q = p
      · exact same ▸ hp
      · exact h.named q ((Change.mem_note_of_ne same c _).mp (noted ▸ hq))
  · obtain ⟨rfl, rfl⟩ := Prod.mk.inj (made.symm.trans changed)
    have noted : k.recorded v = k.recorded s := congrArg Commanded.peers notes
    refine ⟨fun r has => ?_, fun q hq => h.named q (noted ▸ hq)⟩
    by_cases blocked : r.peer = p.host ∧ c = .block
    · exact .inr (.inl ⟨p, .inr ⟨rfl, blocked.2, nofun⟩, blocked.1.symm⟩)
    · have before : (site.wall s).Has r := by
        by_cases about : r.peer = p.host
        · refine ran.has_of_unblock ?_ has
          cases c with
          | block => exact absurd ⟨about, rfl⟩ blocked
          | unblock => rfl
        · exact (ran.has_iff_of_ne about).mp has
      exact ((h.mono fun _ => .inl).owed r before).through ran fun q hq _ => noted ▸ hq

theorem Heeds.accounted_forM (heeds : k.Heeds site) {ps : List Endpoint} {f : Except Failure Unit}
    (plain : ∀ p ∈ ps, IsPlain p.host) (changed : (ps.forM (k.change c)).result s = (f, t))
    (hps : ∀ p ∈ ps, named p) (h : k.Accounted site blamed named s) :
    k.Accounted site (fun q => blamed q ∨ q ∈ ps ∧ c = .block ∧ f ≠ .ok ()) named t := by
  induction ps generalizing s with
  | nil =>
    cases changed
    exact h.mono fun _ => .inl
  | cons p ps ih =>
    rw [result_forM_cons] at changed
    rcases first : (k.change c p).result s with ⟨g, v⟩
    rw [first] at changed
    have middle := heeds.accounted_change (plain p List.mem_cons_self) first
      (hps p List.mem_cons_self) h
    cases g with
    | ok a =>
      have settled : k.Accounted site blamed named v := by
        refine middle.mono fun q hq => ?_
        obtain hq | ⟨-, -, failed⟩ := hq
        · exact hq
        · exact absurd rfl failed
      have rest := ih (fun q hq => plain q (List.mem_cons_of_mem p hq)) changed
        (fun q hq => hps q (List.mem_cons_of_mem p hq)) settled
      exact rest.mono fun q => Or.imp_right fun hq => ⟨List.mem_cons_of_mem p hq.1, hq.2⟩
    | error cause =>
      cases changed
      exact middle.mono fun q => Or.imp_right fun hq => ⟨hq.1 ▸ List.mem_cons_self, hq.2⟩

theorem Heeds.accounted_order (heeds : k.Heeds site) {ps : List Endpoint} {f : Except Failure Unit}
    (plain : ∀ p ∈ ps, IsPlain p.host) (obeyed : (k.order c ps).result s = (f, t))
    (hps : ∀ p ∈ ps, named p) (h : k.Accounted site blamed named s) :
    k.Accounted site (fun q => blamed q ∨ q ∈ ps ∧ c = .block ∧ f ≠ .ok ()) named t := by
  rw [result_order] at obeyed
  have targets : ∀ p ∈ c.targets k.id ps (k.commanded.get s), p ∈ ps :=
    fun p => Change.mem_of_mem_targets
  have left := heeds.accounted_forM (fun p hp => plain p (targets p hp)) obeyed
    (fun p hp => hps p (targets p hp)) h
  exact left.mono fun q => Or.imp_right fun hq => ⟨targets q hq.1, hq.2⟩

/-! ### Unblocking -/

/-- No more rules are in place and no more peers recorded, and mishaps are not forgotten. -/
structure Lifts (k : PeerBlocker σ) (site : Site σ) (s t : σ) : Prop where
  has : ∀ r, (site.wall t).Has r → (site.wall s).Has r
  recorded : ∀ p ∈ k.recorded t, p ∈ k.recorded s
  unchecked : ∀ r, site.Unchecked s r → site.Unchecked t r

theorem Lifts.refl (k : PeerBlocker σ) (site : Site σ) (s : σ) : k.Lifts site s s :=
  ⟨fun _ h => h, fun _ h => h, fun _ h => h⟩

theorem Lifts.trans (h : k.Lifts site s t) (h' : k.Lifts site t u) : k.Lifts site s u :=
  ⟨fun r has => h.has r (h'.has r has), fun p hp => h.recorded p (h'.recorded p hp),
    fun r hr => h'.unchecked r (h.unchecked r hr)⟩

/-- A peer is no longer recorded, and a rule against it is in place only where a check failed. -/
structure Lifted (k : PeerBlocker σ) (site : Site σ) (p : Endpoint) (s : σ) : Prop where
  recorded : p ∉ k.recorded s
  unchecked : ∀ r, r.peer = p.host → (site.wall s).Has r → site.Unchecked s r

theorem Lifted.lifts (h : k.Lifted site p s) (lifts : k.Lifts site s t) : k.Lifted site p t :=
  ⟨fun hp => h.recorded (lifts.recorded p hp),
    fun r about has => lifts.unchecked r (h.unchecked r about (lifts.has r has))⟩

theorem Heeds.lifted_change (heeds : k.Heeds site) (plain : IsPlain p.host)
    (changed : (k.change .unblock p).result s = (.ok (), t)) :
    k.Lifts site s t ∧ k.Lifted site p t := by
  obtain ⟨e, v, ran, ⟨rfl, made, notes⟩ | ⟨-, ⟨cause, made⟩, -⟩⟩ := heeds.change_ends .unblock plain s
  · obtain rfl : v = t := congrArg Prod.snd (made.symm.trans changed)
    have noted : k.recorded v = (k.recorded s).erase p := congrArg Commanded.peers notes
    refine ⟨⟨fun r has => ran.has_of_unblock rfl has, fun q hq => ?_, fun r => ran.unchecked⟩, ?_, ?_⟩
    · exact (EndpointSet.mem_erase.mp (noted ▸ hq)).1
    · exact fun hp => (EndpointSet.mem_erase.mp (noted ▸ hp)).2 rfl
    · exact fun r about has => ran.unchecked_of_unblock rfl about has
  · rw [made] at changed
    cases changed

theorem Heeds.lifted_forM (heeds : k.Heeds site) {ps : List Endpoint}
    (plain : ∀ p ∈ ps, IsPlain p.host)
    (changed : (ps.forM (k.change .unblock)).result s = (.ok (), t)) :
    k.Lifts site s t ∧ ∀ p ∈ ps, k.Lifted site p t := by
  induction ps generalizing s with
  | nil =>
    cases changed
    exact ⟨.refl k site s, nofun⟩
  | cons p ps ih =>
    rw [result_forM_cons] at changed
    rcases first : (k.change .unblock p).result s with ⟨g, v⟩
    rw [first] at changed
    cases g with
    | ok a =>
      obtain ⟨lifts, lifted⟩ := heeds.lifted_change (plain p List.mem_cons_self) first
      obtain ⟨lifts', lifted'⟩ := ih (fun q hq => plain q (List.mem_cons_of_mem p hq)) changed
      refine ⟨lifts.trans lifts', fun q hq => ?_⟩
      rcases List.mem_cons.mp hq with rfl | hq
      · exact lifted.lifts lifts'
      · exact lifted' q hq
    | error cause => cases changed

theorem Heeds.lifted_order (heeds : k.Heeds site) {ps : List Endpoint}
    (plain : ∀ p ∈ ps, IsPlain p.host) (obeyed : (k.order .unblock ps).result s = (.ok (), t)) :
    k.Lifts site s t ∧ ∀ p ∈ ps, p ∈ k.recorded s → k.Lifted site p t := by
  rw [result_order] at obeyed
  obtain ⟨lifts, lifted⟩ :=
    heeds.lifted_forM (fun p hp => plain p (Change.mem_of_mem_targets hp)) obeyed
  exact ⟨lifts, fun p hp rec => lifted p (Change.mem_targets_unblock.mpr ⟨hp, rec⟩)⟩

end PeerBlocker

/-! ### Orders to members -/

/-- An order to a member to block or unblock some peers. -/
structure Order where
  change : Change
  peers : List Endpoint

namespace Order
variable {σ : Type}

/-- The command that gives an order. -/
def command (o : Order) : Simulation.Command :=
  match o.change with
  | .block => .disconnect o.peers
  | .unblock => .reconnect o.peers

/-- The state after some orders, whatever became of them. -/
def obeyed (node : Node σ) (orders : List Order) (s : σ) : σ :=
  Simulation.Command.obeyed node (orders.map command) s

/-- Whether an order failed that was to block a peer. -/
def FailedOn (node : Node σ) (orders : List Order) (s : σ) (p : Endpoint) : Prop :=
  ∃ earlier later peers, orders = earlier ++ ⟨.block, peers⟩ :: later ∧ p ∈ peers ∧
    ((node.disconnect peers).result (obeyed node earlier s)).1 ≠ .ok ()

variable {node : Node σ} {orders : List Order} {s : σ} {p : Endpoint}

theorem obeyed_concat (node : Node σ) (orders : List Order) (o : Order) (s : σ) :
    obeyed node (orders ++ [o]) s = ((o.command.tell node).result (obeyed node orders s)).2 := by
  rw [obeyed, List.map_append]
  exact Simulation.Command.obeyed_concat node (orders.map command) o.command s

theorem FailedOn.concat (h : FailedOn node orders s p) (o : Order) :
    FailedOn node (orders ++ [o]) s p := by
  obtain ⟨earlier, later, peers, rfl, hp, failed⟩ := h
  exact ⟨earlier, later ++ [o], peers, by simp, hp, failed⟩

theorem FailedOn.mem (h : FailedOn node orders s p) : p ∈ orders.flatMap peers := by
  obtain ⟨earlier, later, peers, rfl, hp, -⟩ := h
  exact List.mem_flatMap.mpr ⟨⟨.block, peers⟩, by simp, hp⟩

theorem tell_eq {k : PeerBlocker σ} (operates : k.Operates node) (o : Order) :
    o.command.tell node = k.order o.change o.peers := by
  obtain ⟨c, peers⟩ := o
  cases c with
  | block => exact operates.disconnect peers
  | unblock => exact operates.reconnect peers

end Order

/-- After any orders from a clean wall, every rule in place is owed to something. -/
theorem PeerBlocker.Heeds.accounted_orders {σ : Type} {k : PeerBlocker σ} {site : Site σ} {node : Node σ} {s : σ}
    (heeds : k.Heeds site) (operates : k.Operates node) (clean : ∀ r, ¬ (site.wall s).Has r)
    (unrecorded : k.recorded s = .empty) (orders : List Order)
    (plain : ∀ p ∈ orders.flatMap Order.peers, IsPlain p.host) :
    k.Accounted site (Order.FailedOn node orders s) (· ∈ orders.flatMap Order.peers)
      (Order.obeyed node orders s) := by
  induction orders using List.reverseRecOn with
  | nil =>
    refine ⟨fun r has => absurd has (clean r), fun p hp => ?_⟩
    have hp : p ∈ k.recorded s := hp
    rw [unrecorded] at hp
    exact absurd hp (EndpointSet.not_mem_empty p)
  | append_singleton orders o ih =>
    rw [List.flatMap_append, List.flatMap_singleton] at plain ⊢
    have before := ih fun p hp => plain p (List.mem_append_left _ hp)
    have named : k.Accounted site (Order.FailedOn node orders s)
        (· ∈ orders.flatMap Order.peers ++ o.peers) (Order.obeyed node orders s) :=
      ⟨before.owed, fun p hp => List.mem_append_left _ (before.named p hp)⟩
    rw [Order.obeyed_concat, Order.tell_eq operates]
    rcases given : (k.order o.change o.peers).result (Order.obeyed node orders s) with ⟨f, t⟩
    have after := heeds.accounted_order (fun p hp => plain p (List.mem_append_right _ hp)) given
      (fun p hp => List.mem_append_right _ hp) named
    refine after.mono fun p hp => ?_
    obtain hp | ⟨hp, block, failed⟩ := hp
    · exact hp.concat o
    · obtain ⟨c, peers⟩ := o
      obtain rfl : c = .block := block
      refine ⟨orders, [], peers, rfl, hp, ?_⟩
      rw [operates.disconnect, given]
      exact failed

/-! ### What a reconnect leaves -/

/-- The daemon has scripts run at the site of a container, with any mishaps. -/
structure Container.Handle.Scripts {σ : Type} (h : Container.Handle σ) (site : Site σ) : Prop where
  apart : site.Apart h.commanded
  runs : ∀ task s, IsPlain task.peer → ∃ e code t, site.Ran task e s t ∧ (code = 0 ↔ e = .success) ∧
    h.commanded.get t = h.commanded.get s ∧
    h.daemon.Executes h.container (.firewall task) s code t

/-- The shell runs scripts at the site of a machine, with any mishaps. -/
structure Machine.Handle.Scripts {σ : Type} (h : Machine.Handle σ) (site : Site σ) : Prop where
  apart : site.Apart h.commanded
  runs : ∀ task s, IsPlain task.peer → ∃ e code t, site.Ran task e s t ∧ (code = 0 ↔ e = .success) ∧
    h.commanded.get t = h.commanded.get s ∧
    ∃ stdout stderr, (h.shell h.host (.firewall task)).result s =
      (.ended (some code) stdout stderr, t)

/-- A member at a site. -/
inductive Operated {σ : Type} (site : Site σ) : Node σ → Prop
  | container (h : Container.Handle σ) (scripts : h.Scripts site) : Operated site h.node
  | machine (h : Machine.Handle σ) (scripts : h.Scripts site) : Operated site h.node

namespace Operated
variable {σ : Type} {site : Site σ} {node : Node σ} {s u : σ}

/-- What a script ends with, a handle gets to know by the exit code. -/
theorem carried {e : Ending} {code : Int} {f : Failure} {r : Except Failure Unit × σ} {t : σ}
    (same : code = 0 ↔ e = .success) (h : r = (if code = 0 then .ok () else .error f, t)) :
    e = .success ∧ r = (.ok (), t) ∨ e ≠ .success ∧ ∃ f, r = (.error f, t) := by
  by_cases well : code = 0
  · exact .inl ⟨same.mp well, h.trans (by rw [if_pos well])⟩
  · exact .inr ⟨fun success => well (same.mpr success), f, h.trans (by rw [if_neg well])⟩

theorem peerBlocker (operated : Operated site node) : ∃ k : PeerBlocker σ, k.Heeds site ∧ k.Operates node := by
  cases operated with
  | container h scripts =>
    refine ⟨h.peerBlocker, ⟨scripts.apart, fun task s plain => ?_⟩, h.operates_peerBlocker⟩
    obtain ⟨e, code, t, ran, same, still, executes⟩ := scripts.runs task s plain
    obtain ⟨f, result⟩ := Container.Handle.result_runScript executes task.change.operation.name
    exact ⟨e, t, ran, still, carried same result⟩
  | machine h scripts =>
    refine ⟨h.peerBlocker, ⟨scripts.apart, fun task s plain => ?_⟩, h.operates_peerBlocker⟩
    obtain ⟨e, code, t, ran, same, still, stdout, stderr, ended⟩ := scripts.runs task s plain
    obtain ⟨f, result⟩ := Machine.Handle.result_run ended task.change.operation.name
    exact ⟨e, t, ran, still, carried same result⟩

/-- **A reconnect that succeeds leaves none of its peers recorded.  It leaves a rule against one of them
only where a check of the rule failed, or where the peer had not been recorded because a disconnect from
it failed.** -/
theorem rule_left_by_reconnect (operated : Operated site node) (clean : ∀ r, ¬ (site.wall s).Has r)
    (unrecorded : (node.commanded s).peers = .empty) (orders : List Order) (peers : List Endpoint)
    (plain : ∀ p ∈ orders.flatMap Order.peers ++ peers, IsPlain p.host)
    (distinct : ∀ p ∈ orders.flatMap Order.peers ++ peers,
      ∀ q ∈ orders.flatMap Order.peers ++ peers, p.host = q.host → p = q)
    (healed : (node.reconnect peers).result (Order.obeyed node orders s) = (.ok (), u)) :
    ∀ p ∈ peers, p ∉ (node.commanded u).peers ∧ ∀ d, (site.wall u).Has ⟨p.host, d⟩ →
      site.Unchecked u ⟨p.host, d⟩ ∨
        p ∉ (node.commanded (Order.obeyed node orders s)).peers ∧ Order.FailedOn node orders s p := by
  obtain ⟨k, heeds, operates⟩ := operated.peerBlocker
  rw [operates.reconnect] at healed
  simp only [operates.commanded] at unrecorded ⊢
  have before := heeds.accounted_orders operates clean unrecorded orders fun p hp =>
    plain p (List.mem_append_left _ hp)
  obtain ⟨lifts, lifted⟩ :=
    heeds.lifted_order (fun p hp => plain p (List.mem_append_right _ hp)) healed
  intro p hp
  by_cases recorded : p ∈ k.recorded (Order.obeyed node orders s)
  · have gone := lifted p hp recorded
    exact ⟨gone.recorded, fun d has => .inl (gone.unchecked _ rfl has)⟩
  · refine ⟨fun still => recorded (lifts.recorded p still), fun d has => ?_⟩
    have same : ∀ q ∈ orders.flatMap Order.peers, q.host = p.host → q = p := fun q hq host =>
      distinct q (List.mem_append_left _ hq) p (List.mem_append_right _ hp) host
    obtain ⟨q, hq, host⟩ | ⟨q, failed, host⟩ | unchecked := before.owed _ (lifts.has _ has)
    · exact absurd (same q (before.named q hq) host ▸ hq) recorded
    · exact .inr ⟨recorded, same q failed.mem host ▸ failed⟩
    · exact .inl (lifts.unchecked _ unchecked)

end Operated

/-! ### A tool that slips -/

/-- A container whose firewall tool slips now and then, and what its handle has commanded. -/
structure SlippingFirewall where
  wall : Wall
  mishaps : List Invocation
  commanded : Commanded
  /-- Whether the next scripts slip at the second insertion, if they come to it. -/
  slips : List Bool
  /-- The task that was set up. -/
  task : Option Task
  exit : Int

namespace SlippingFirewall

/-- A container without rules, and a handle that has blocked nobody. -/
def fresh (slips : List Bool) : SlippingFirewall := ⟨.bare, [], .ofStatus .running, slips, none, 0⟩

/-- The second insertion of a task slips. -/
def slipped (task : Task) (s : SlippingFirewall) : SlippingFirewall :=
  { s with
    wall := s.wall.ensured ⟨task.peer, .fromPeer⟩
    mishaps := s.mishaps ++ [⟨task.elevated, .insert, task.peer, .toPeer⟩]
    slips := s.slips.tail
    exit := 4 }

/-- A task is carried out. -/
def carried (task : Task) (s : SlippingFirewall) : SlippingFirewall :=
  { s with wall := task.carried s.wall, slips := s.slips.tail, exit := 0 }

/-- Whether the second insertion of a task slips. -/
def Slips (task : Task) (s : SlippingFirewall) : Prop :=
  s.slips.head? = some true ∧ task.change = .block ∧ ¬ s.wall.Has ⟨task.peer, .toPeer⟩

instance (task : Task) (s : SlippingFirewall) : Decidable (Slips task s) :=
  inferInstanceAs (Decidable (_ ∧ _ ∧ _))

/-- Run the script of a task. -/
def run (task : Task) (s : SlippingFirewall) : SlippingFirewall :=
  if Slips task s then slipped task s else carried task s

/-- The daemon does nothing but run scripts. -/
def daemon : Container.Daemon SlippingFirewall where
  makeNetwork _ := return ()
  removeNetwork _ := return ()
  make _ _ := return ()
  inspect _ := return some .running
  start _ := return ()
  stop _ _ := return ()
  kill _ := return ()
  pause _ := return ()
  unpause _ := return ()
  restart _ _ := return ()
  remove _ := return ()
  prepareCommand
    | _, .firewall task =>
      Attempt.ofCall (Call.atomically fun s => (.ok 0, { s with task := some task }))
    | _, .words _ => Attempt.give (.error ⟨500, "no such command"⟩)
  runCommand _ :=
    Attempt.ofCall (Call.atomically fun s => (.ok ("", ""), s.task.elim s fun task => s.run task))
  inspectCommand _ := Attempt.ofCall (Call.read fun s => .ok (some s.exit))

/-- A handle on the container. -/
def handle : Container.Handle SlippingFirewall where
  id := ⟨"a:1"⟩
  container := "c"
  restartGrace := 0
  daemon := daemon
  commanded := ⟨commanded, fun c s => { s with commanded := c }⟩

/-- The firewall of the container. -/
def site : Site SlippingFirewall := ⟨wall, mishaps⟩

theorem scripts_handle : handle.Scripts site where
  apart := ⟨fun _ _ => rfl, fun _ _ => rfl, fun _ _ => rfl⟩
  runs task s _ := by
    have executes : ∀ t, run task { s with task := some task } = t →
        handle.daemon.Executes handle.container (.firewall task) s t.exit t := by
      rintro t rfl
      exact ⟨0, "", "", { s with task := some task }, _, rfl, rfl, rfl⟩
    by_cases slips : Slips task s
    · have ran : site.Ran task .failure s (slipped task { s with task := some task }) :=
        ⟨_, Task.runs_half_block slips.2.1 slips.2.2, rfl⟩
      have unwell : (4 : Int) ≠ 0 := by decide
      exact ⟨_, _, _, ran, iff_of_false unwell nofun, rfl, executes _ (if_pos slips)⟩
    · have ran : site.Ran task .success s (carried task { s with task := some task }) :=
        ⟨[], Task.runs_calm_iff.mpr ⟨rfl, rfl⟩, (List.append_nil _).symm⟩
      exact ⟨_, _, _, ran, iff_of_true rfl rfl, rfl, executes _ (if_neg slips)⟩

theorem operated_node : Operated site handle.node := .container handle scripts_handle

/-- A peer. -/
def peer : Endpoint := ⟨"b:1"⟩

/-- Another peer. -/
def other : Endpoint := ⟨"c:1"⟩

/-- A disconnect from two peers that gets stuck at the first one, and a disconnect from the other. -/
def orders : List Order := [⟨.block, [peer, other]⟩, ⟨.block, [other]⟩]

/-- Of two peers that are let through, the one that was blocked half-way keeps a rule. -/
theorem rule_left_by_reconnect_slip :
    ∃ u, (handle.node.reconnect [other, peer]).result
        (Order.obeyed handle.node orders (fresh [true])) = (.ok (), u) ∧
      u.wall.Has ⟨peer.host, .fromPeer⟩ ∧
      ∀ p ∈ [other, peer], p ∉ u.commanded.peers ∧ ∀ d, u.wall.Has ⟨p.host, d⟩ →
        site.Unchecked u ⟨p.host, d⟩ ∨
          p ∉ (Order.obeyed handle.node orders (fresh [true])).commanded.peers ∧
            Order.FailedOn handle.node orders (fresh [true]) p := by
  have healed : ((handle.node.reconnect [other, peer]).result
      (Order.obeyed handle.node orders (fresh [true]))).1 = .ok () := rfl
  refine ⟨_, Prod.ext healed rfl, by decide, ?_⟩
  exact operated_node.rule_left_by_reconnect (s := fresh [true]) (fun r => Wall.not_has_bare r) rfl orders
    [other, peer] (by decide) (by decide) (Prod.ext healed rfl)

/-- A disconnect fails half-way; a reconnect succeeds without a mishap, and a rule is still in place. -/
theorem rule_outlives_reconnect :
    Operated site handle.node ∧ (∀ r, ¬ (site.wall (fresh [true])).Has r) ∧
      (handle.node.commanded (fresh [true])).peers = .empty ∧ IsPlain peer.host ∧
      ∃ f t u, (handle.node.disconnect [peer]).result (fresh [true]) = (.error f, t) ∧
        (handle.node.reconnect [peer]).result t = (.ok (), u) ∧
        site.mishaps u = site.mishaps t ∧ (site.wall u).Has ⟨peer.host, .fromPeer⟩ := by
  refine ⟨operated_node, fun r => Wall.not_has_bare r, rfl, by decide, _, _, _, rfl, rfl, rfl, ?_⟩
  decide

end SlippingFirewall

end FaultLab
