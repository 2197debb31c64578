import FaultLab.Container.Node
import FaultLab.Fixture.Reader
import FaultLab.Proofs.GatewayFailover
import FaultLab.Proofs.Records

/-! # The limits of time that reach the far side

A fixture sets limits of time as numbers of sixty-four bits (`Fixture.Sets`), and validation lets all of them
through.  The far side is told three of them: the daemon how long a container may take to stop, and the
management how long a change of the members may take and how often to look.

A `Wire` is a daemon of any kind with a list of the orders in which it was told how long to wait.  Every order
of a stop bears the grace as it is in sixty-four bits with a sign (`Handle.steps_stop`), and every order of a
restart the grace as far as it fits (`Handle.steps_restart`), so they differ once the grace does not fit.  The
letters about a member bear the milliseconds modulo two to the sixty-fourth (`Gateway.Contact.posts_change_of`).
What becomes of each limit is `Fixture.limits_on_the_wire`. -/

namespace FaultLab

open Http (Letter Mail)
open Simulation (Request)

namespace Attempt.Steps
variable {σ ε ε' α : Type} {R : σ → σ → Prop} {c : Attempt σ ε α}

theorem mapError (h : c.Steps R) (f : ε → ε') : (c.mapError f).Steps R := by
  refine Call.Steps.bind h fun outcome => ?_
  cases outcome <;> trivial

theorem ite {p : Prop} [Decidable p] {d : Attempt σ ε α} (h : c.Steps R) (h' : d.Steps R) :
    (if p then c else d).Steps R := by
  split
  · exact h
  · exact h'

end Attempt.Steps

/-! ### The limits of a fixture -/

namespace Fixture
variable {f : Fixture} {grace timeout period : UInt64}

/-- The limits of a fixture, in the units of its fields: seconds for a stop and for a change of the members,
milliseconds between two looks. -/
structure Sets (f : Fixture) (grace timeout period : UInt64) : Prop where
  grace : f.faults.stopGrace = Span.ofSeconds grace.toNat
  timeout : f.membership.timeout = Span.ofSeconds timeout.toNat
  period : f.membership.pollPeriod = Span.ofMillis period.toNat

end Fixture

namespace Decoder
variable {d : Document} {span : Nat}

theorem seconds_eq_ok (h : seconds d = .ok span) : ∃ n : UInt64, span = Span.ofSeconds n.toNat := by
  obtain ⟨n, -, rfl⟩ := map_eq_ok.mp h
  exact ⟨n, rfl⟩

theorem millis_eq_ok (h : millis d = .ok span) : ∃ n : UInt64, span = Span.ofMillis n.toNat := by
  obtain ⟨n, -, rfl⟩ := map_eq_ok.mp h
  exact ⟨n, rfl⟩

end Decoder

open RecordReader in
theorem FaultPolicy.exists_grace {name : String} {reading : Reading} {d : Document} {p : FaultPolicy}
    (h : FaultPolicy.reader.decode name reading d = .ok p) :
    ∃ n : UInt64, p.stopGrace = Span.ofSeconds n.toNat := by
  obtain ⟨look, made⟩ := decode_eq_ok h
  obtain ⟨withGrace, timeout, graceMade, -, rfl⟩ := make_seq_eq_ok made
  obtain ⟨grace, first, rfl⟩ := make_map_eq_ok graceMade
  rcases make_fieldOr_eq_ok first with rfl | ⟨d, read⟩
  · exact ⟨10, rfl⟩
  · exact Decoder.seconds_eq_ok read

open RecordReader in
theorem Patience.exists_times {name : String} {reading : Reading} {d : Document} {p : Patience}
    (h : Patience.reader.decode name reading d = .ok p) :
    (∃ n : UInt64, p.timeout = Span.ofSeconds n.toNat) ∧
      ∃ n : UInt64, p.pollPeriod = Span.ofMillis n.toNat := by
  obtain ⟨look, made⟩ := decode_eq_ok h
  obtain ⟨_, period, before, periodMade, rfl⟩ := make_seq_eq_ok made
  obtain ⟨_, timeout, retriesMade, timeoutMade, rfl⟩ := make_seq_eq_ok before
  obtain ⟨retries, -, rfl⟩ := make_map_eq_ok retriesMade
  constructor
  · rcases make_fieldOr_eq_ok timeoutMade with rfl | ⟨d, read⟩
    · exact ⟨300, rfl⟩
    · exact Decoder.seconds_eq_ok read
  · rcases make_fieldOr_eq_ok periodMade with rfl | ⟨d, read⟩
    · exact ⟨1000, rfl⟩
    · exact Decoder.millis_eq_ok read

open RecordReader in
/-- A fixture that is read sets limits of sixty-four bits. -/
theorem Fixture.exists_limits {reading : Reading} {d : Document} {f : Fixture}
    (h : Fixture.decode reading d = .ok f) : ∃ grace timeout period, f.Sets grace timeout period := by
  obtain ⟨look, made⟩ := decode_eq_ok h
  obtain ⟨_, faults, upToPoll, faultsMade, rfl⟩ := make_seq_eq_ok made
  obtain ⟨_, poll, upToMembership, -, rfl⟩ := make_seq_eq_ok upToPoll
  obtain ⟨_, membership, upToBootstrap, membershipMade, rfl⟩ := make_seq_eq_ok upToMembership
  obtain ⟨_, bootstrap, upToResources, -, rfl⟩ := make_seq_eq_ok upToBootstrap
  obtain ⟨_, resources, upToBackend, -, rfl⟩ := make_seq_eq_ok upToResources
  obtain ⟨_, backend, upToKeep, -, rfl⟩ := make_seq_eq_ok upToBackend
  obtain ⟨_, keep, upToCount, -, rfl⟩ := make_seq_eq_ok upToKeep
  obtain ⟨_, count, upToName, -, rfl⟩ := make_seq_eq_ok upToCount
  obtain ⟨name, -, rfl⟩ := make_map_eq_ok upToName
  have grace : ∃ n : UInt64, faults.stopGrace = Span.ofSeconds n.toNat := by
    rcases make_fieldOr_eq_ok faultsMade with rfl | ⟨d, read⟩
    · exact ⟨10, rfl⟩
    · exact FaultPolicy.exists_grace read
  have times : (∃ n : UInt64, membership.timeout = Span.ofSeconds n.toNat) ∧
      ∃ n : UInt64, membership.pollPeriod = Span.ofMillis n.toNat := by
    rcases make_fieldOr_eq_ok membershipMade with rfl | ⟨d, read⟩
    · exact ⟨⟨300, rfl⟩, 1000, rfl⟩
    · exact Patience.exists_times read
  obtain ⟨grace, hg⟩ := grace
  obtain ⟨⟨timeout, ht⟩, period, hp⟩ := times
  exact ⟨grace, timeout, period, hg, ht, hp⟩

/-! ### Numbers on the wire -/

namespace Container

/-- A number of sixty-four bits, read as one with a sign. -/
def wrapped (n : UInt64) : Int := if n.toNat < 2 ^ 63 then n.toNat else (n.toNat : Int) - 2 ^ 64

/-- A number of sixty-four bits, or the largest with a sign. -/
def clamped (n : UInt64) : Int := if n.toNat < 2 ^ 63 then n.toNat else 2 ^ 63 - 1

theorem stopSeconds_ofSeconds (n : UInt64) : stopSeconds (Span.ofSeconds n.toNat) = wrapped n := by
  have small := n.toNat_lt
  rw [stopSeconds, Span.seconds_ofSeconds, Int64.toInt_ofNat', Int.bmod_def, wrapped]
  have size : Int64.size = 2 ^ 64 := rfl
  rw [size]
  split <;> split <;> omega

theorem restartSeconds_ofSeconds (n : UInt64) : restartSeconds (Span.ofSeconds n.toNat) = clamped n := by
  rw [restartSeconds, Span.seconds_ofSeconds, clamped]
  split <;> omega

theorem wrapped_eq_clamped_iff {n : UInt64} : wrapped n = clamped n ↔ n.toNat < 2 ^ 63 := by
  have small := n.toNat_lt
  unfold wrapped clamped
  split <;> omega

theorem wrapped_nonneg_iff {n : UInt64} : 0 ≤ wrapped n ↔ n.toNat < 2 ^ 63 := by
  have small := n.toNat_lt
  unfold wrapped
  split <;> omega

/-! ### Orders to a daemon -/

/-- An order in which the daemon is told how many seconds to wait. -/
inductive Order where
  | stop (container : String) (seconds : Int)
  | restart (container : String) (seconds : Int)
deriving DecidableEq

/-- What was commanded of a member, the world of its daemon, and the orders that the daemon was given. -/
structure Wire (τ : Type) where
  commanded : Commanded
  world : τ
  orders : List Order

namespace Wire
variable {τ : Type} {s t : Wire τ}

/-- What was commanded. -/
def commandedPart : Part (Wire τ) Commanded := ⟨commanded, fun c s => { s with commanded := c }⟩

/-- The world of the daemon. -/
def worldPart : Part (Wire τ) τ := ⟨world, fun w s => { s with world := w }⟩

/-- Write an order down, and pass it on. -/
def pass (o : Order) (c : Attempt τ DaemonError Unit) : Attempt (Wire τ) DaemonError Unit := do
  Attempt.lift (Call.modify fun s => { s with orders := s.orders ++ [o] })
  c.focus worldPart

/-- A daemon whose orders are written down. -/
def daemon (d : Daemon τ) : Daemon (Wire τ) where
  makeNetwork plan := (d.makeNetwork plan).focus worldPart
  removeNetwork name := (d.removeNetwork name).focus worldPart
  make name plan := (d.make name plan).focus worldPart
  inspect name := (d.inspect name).focus worldPart
  start name := (d.start name).focus worldPart
  stop name seconds := pass (.stop name seconds) (d.stop name seconds)
  kill name := (d.kill name).focus worldPart
  pause name := (d.pause name).focus worldPart
  unpause name := (d.unpause name).focus worldPart
  restart name seconds := pass (.restart name seconds) (d.restart name seconds)
  remove name := (d.remove name).focus worldPart
  prepareCommand name c := (d.prepareCommand name c).focus worldPart
  runCommand number := (d.runCommand number).focus worldPart
  inspectCommand number := (d.inspectCommand number).focus worldPart

/-- A handle on a container whose daemon's orders are written down. -/
def handle (d : Daemon τ) (id : Endpoint) (container : String) (restartGrace : Nat) : Handle (Wire τ) :=
  ⟨id, container, restartGrace, daemon d, commandedPart⟩

/-- Nothing is ordered. -/
def Quiet (s t : Wire τ) : Prop := t.orders = s.orders

/-- Nothing is ordered, or one thing. -/
def Sends (o : Order) (s t : Wire τ) : Prop := Quiet s t ∨ t.orders = s.orders ++ [o]

section steps
variable {ε α : Type} {R : Wire τ → Wire τ → Prop}

theorem steps_focus (quiet : ∀ s t, Quiet s t → R s t) (c : Attempt τ ε α) :
    (c.focus worldPart).Steps R := by
  have any : c.toCall.Steps fun _ _ => True := by
    induction c using Call.rec with
    | done a => trivial
    | pause d rest ih => exact ih
    | note e rest ih => exact ih
    | step act rest ih => exact fun s => ⟨trivial, ih s⟩
  refine Call.Steps.mono (any.focus worldPart) ?_
  rintro s t ⟨w, -, rfl⟩
  exact quiet _ _ rfl

theorem steps_pass (o : Order) (c : Attempt τ DaemonError Unit) : (pass o c).Steps (Sends o) := by
  refine .bind (.lift fun s => ⟨.inr rfl, trivial⟩) fun _ => steps_focus (fun _ _ => .inl) c

theorem orders_of_quiet {c : Attempt (Wire τ) ε α} (h : c.Steps Quiet) (s : Wire τ) :
    (c.result s).2.orders = s.orders :=
  Call.Steps.keeps h (I := fun t => t.orders = s.orders) (fun _ _ quiet same => quiet.trans same) rfl

/-- An order was given, however it is taken and whatever is noted afterwards. -/
theorem orders_pass {g : DaemonError → ε} {f : Unit → Attempt (Wire τ) ε α} (o : Order)
    (c : Attempt τ DaemonError Unit) (after : ∀ u, (f u).Steps Quiet) (s : Wire τ) :
    (((pass o c).mapError g >>= f).result s).2.orders = s.orders ++ [o] := by
  have given : (pass o c).result s =
      (c.focus worldPart).result { s with orders := s.orders ++ [o] } := by
    rw [pass, Attempt.result_bind, Attempt.result_lift, Call.result_modify]
  have written : ((pass o c).result s).2.orders = s.orders ++ [o] := by
    rw [given]
    exact orders_of_quiet (steps_focus (fun _ _ quiet => quiet) c) _
  rw [Attempt.result_bind, Attempt.result_mapError]
  generalize (pass o c).result s = after at written ⊢
  obtain ⟨r, t⟩ := after
  cases r with
  | ok u => exact (orders_of_quiet (after u) t).trans written
  | error e => exact written

end steps

end Wire

namespace Handle
open Wire (Quiet Sends)
variable {τ : Type} {d : Daemon τ} {id : Endpoint} {container : String} {grace restartGrace : Nat}
  {s t : Wire τ} {c : Condition} {R : Wire τ → Wire τ → Prop}

theorem steps_record (quiet : ∀ s t, Quiet s t → R s t) (f : Commanded → Commanded) :
    ((Wire.handle d id container restartGrace).record f).Steps R :=
  .lift fun _ => ⟨quiet _ _ rfl, trivial⟩

theorem steps_unfreeze (quiet : ∀ s t, Quiet s t → R s t) (operation : String) :
    ((Wire.handle d id container restartGrace).unfreeze operation).Steps R := by
  refine .bind (.bind (.mapError (Wire.steps_focus quiet _) _) fun _ => .pure _) fun condition => ?_
  exact .ite (.bind (.mapError (Wire.steps_focus quiet _) _) fun _ => .pure _) (.pure _)

/-- Whatever happens in a stop, it may only tell the daemon to wait for the grace in sixty-four bits with a
sign. -/
theorem steps_stop : ((Wire.handle d id container restartGrace).stop grace).Steps
    (Sends (.stop container (stopSeconds grace))) := by
  have quiet : ∀ s t : Wire τ, Quiet s t → Sends (.stop container (stopSeconds grace)) s t := fun _ _ => .inl
  refine .bind (steps_unfreeze quiet _) fun condition => .ite ?_ ?_
  · exact .bind (.lift (.read fun _ => .inl rfl)) fun c => .ite (steps_record quiet _) (.pure _)
  · refine .bind (.mapError (Wire.steps_pass _ _) _) fun _ => .bind (steps_record quiet _) fun _ => ?_
    exact .log _

/-- Whatever happens in a restart, it may only tell the daemon to wait for the grace as far as it fits. -/
theorem steps_restart : (Wire.handle d id container restartGrace).restart.Steps
    (Sends (.restart container (restartSeconds restartGrace))) := by
  have quiet : ∀ s t : Wire τ, Quiet s t → Sends (.restart container (restartSeconds restartGrace)) s t :=
    fun _ _ => .inl
  refine .bind (steps_unfreeze quiet _) fun _ => .bind (.mapError (Wire.steps_pass _ _) _) fun _ => ?_
  exact .bind (steps_record quiet _) fun _ => .bind (steps_record quiet _) fun _ => .log _

theorem orders_unfreeze {operation : String} {r : Except Failure Condition}
    (found : ((Wire.handle d id container restartGrace).unfreeze operation).result s = (r, t)) :
    t.orders = s.orders := by
  have quiet : ((Wire.handle d id container restartGrace).unfreeze operation).Steps Quiet :=
    steps_unfreeze (fun _ _ quiet => quiet) operation
  have kept := Wire.orders_of_quiet quiet s
  rwa [found] at kept

theorem orders_stop
    (found : ((Wire.handle d id container restartGrace).unfreeze "stop").result s = (.ok c, t))
    (runs : c ≠ .idle) :
    (((Wire.handle d id container restartGrace).stop grace).result s).2.orders =
      s.orders ++ [.stop container (stopSeconds grace)] := by
  rw [stop, Attempt.result_bind, found, ← orders_unfreeze found]
  simp only [if_neg runs]
  refine Wire.orders_pass _ _ (fun _ => ?_) t
  exact .bind (steps_record (fun _ _ quiet => quiet) _) fun _ => .log _

theorem orders_restart
    (found : ((Wire.handle d id container restartGrace).unfreeze "restart").result s = (.ok c, t)) :
    ((Wire.handle d id container restartGrace).restart.result s).2.orders =
      s.orders ++ [.restart container (restartSeconds restartGrace)] := by
  rw [restart, Attempt.result_bind, found, ← orders_unfreeze found]
  refine Wire.orders_pass _ _ (fun _ => ?_) t
  have recorded : ∀ f, ((Wire.handle d id container restartGrace).record f).Steps Quiet :=
    steps_record fun _ _ quiet => quiet
  exact .bind (recorded _) fun _ => .bind (recorded _) fun _ => .log _

end Handle

end Container

/-! ### Letters to the management -/

namespace Gateway

/-- The milliseconds of some seconds, in sixty-four bits. -/
def millisOf (timeout : UInt64) : UInt64 := UInt64.ofNat (timeout.toNat * 1000)

theorem toNat_millisOf (n : UInt64) : (millisOf n).toNat = n.toNat * 1000 % 2 ^ 64 := UInt64.toNat_ofNat'

/-- The milliseconds are the right ones, or the most that fit, exactly if they fit: what is left of an even
number is even, and never the most that fits. -/
theorem millisOf_right_iff {n : UInt64} :
    (millisOf n).toNat = min (n.toNat * 1000) (2 ^ 64 - 1) ↔ n.toNat * 1000 < 2 ^ 64 := by
  rw [toNat_millisOf]
  omega

namespace Inquiry
variable {es : List Endpoint} {plea : Endpoint → Http.Request} {m : Memory} {xs : List (Letter Memory)}
  {verdict : Except ManagementError Http.Response} {preferred : Nat}

theorem exists_request (h : Inquiry es plea m xs verdict preferred) :
    ∀ x ∈ xs, ∃ e, x.request = plea e := by
  have refused : ∀ k, ∀ x ∈ (inTurns es m k).map (refusal plea m), ∃ e, x.request = plea e := by
    intro k x hx
    obtain ⟨e, -, rfl⟩ := List.mem_map.mp hx
    exact ⟨e, rfl⟩
  intro x hx
  cases h with
  | answered k | broken k =>
    rcases List.mem_append.mp hx with hx | hx
    · exact refused k x hx
    · obtain rfl := List.mem_singleton.mp hx
      exact ⟨_, rfl⟩
  | unreachable => exact refused _ x hx

theorem ne_nil (h : Inquiry es plea m xs verdict preferred) (known : es ≠ []) : xs ≠ [] := by
  cases h with
  | answered | broken => simp
  | unreachable => simpa [inTurns] using known

end Inquiry

/-- A letter that says how long a change may take and how often to look. -/
structure Tells (x : Letter Memory) (timeoutMs pollPeriodMs : UInt64) : Prop where
  timeout : (x.request.body.bind fun b => b.find? "timeoutMs") = some (encodeU64 timeoutMs)
  period : (x.request.body.bind fun b => b.find? "pollPeriodMs") = some (encodeU64 pollPeriodMs)

/-- Every letter about a member tells the patience in milliseconds of sixty-four bits. -/
theorem Contact.posts_change_of {τ : Type} {es : List Endpoint} {serve : Http.Carrier τ} {p : Patience}
    {timeout period : UInt64} (ht : p.timeout = Span.ofSeconds timeout.toNat)
    (hp : p.pollPeriod = Span.ofMillis period.toNat) {e : Endpoint} {req : Request}
    (change : req = .add e p ∨ req = .remove e p) (s : Mail Memory τ) :
    ∃ xs r t, (req.ask (correspondent es serve).client).Posts s xs r t ∧ (es ≠ [] → xs ≠ []) ∧
      ∀ x ∈ xs, Tells x (millisOf timeout) period := by
  have asks : ¬ Silent s.memory req := by
    rintro (rfl | ⟨rfl, -⟩) <;> rcases change with h | h <;> cases h
  obtain ⟨plea, xs, verdict, t, pleads, posts, inquiry⟩ := posts_request es serve asks
  refine ⟨xs, _, t, posts, inquiry.ne_nil, fun x hx => ?_⟩
  obtain ⟨e', written⟩ := inquiry.exists_request x hx
  have body : x.request.body = some (membershipBody e p) := by
    rcases change with rfl | rfl <;> cases pleads <;> rw [written] <;> rfl
  have millis : Span.millis p.timeout = timeout.toNat * 1000 := by
    rw [ht, Span.millis, Span.ofSeconds]
    omega
  have exact : UInt64.ofNat (Span.millis p.pollPeriod) = period := by
    rw [hp, Span.millis_ofMillis, UInt64.ofNat_toNat]
  constructor
  · rw [body, millisOf, ← millis]
    rfl
  · rw [body, ← exact]
    rfl

end Gateway

/-! ### What becomes of the limits -/

open Container (Order Wire wrapped clamped) in
open Gateway (Memory Tells correspondent millisOf) in
/-- **What the far side is told of a fixture's limits.**  A fixture that is read sets limits of sixty-four bits.
The orders of a restart bear the grace, or the most that fits; those of a stop bear it as it is in sixty-four
bits with a sign, which is the same number, or not below zero, exactly if the grace fits.  The letters about a
member bear the period as it is, and the milliseconds of the timeout modulo two to the sixty-fourth, which is
the right number exactly if they fit.  To have a letter carried the client needs ten seconds more than the
timeout. -/
theorem Fixture.limits_on_the_wire (f : Fixture) :
    (∀ reading d, Fixture.decode reading d = .ok f → ∃ grace timeout period, f.Sets grace timeout period) ∧
    ∀ grace timeout period : UInt64, f.Sets grace timeout period →
      (∀ {τ : Type} (d : Container.Daemon τ) (id : Endpoint) (container : String),
        let h := Wire.handle d id container f.faults.stopGrace
        (h.stop f.faults.stopGrace).Steps (Wire.Sends (.stop container (wrapped grace))) ∧
        h.restart.Steps (Wire.Sends (.restart container (clamped grace))) ∧
        (∀ s t c, (h.unfreeze "stop").result s = (.ok c, t) → c ≠ .idle →
          ((h.stop f.faults.stopGrace).result s).2.orders = s.orders ++ [.stop container (wrapped grace)]) ∧
        ∀ s t c, (h.unfreeze "restart").result s = (.ok c, t) →
          (h.restart.result s).2.orders = s.orders ++ [.restart container (clamped grace)]) ∧
      (wrapped grace = clamped grace ↔ grace.toNat < 2 ^ 63) ∧ (0 ≤ wrapped grace ↔ grace.toNat < 2 ^ 63) ∧
      (timeout.toNat + 10 < 2 ^ 64 → ∀ {τ : Type} (es : List Endpoint) (serve : Http.Carrier τ)
        (s : Mail Memory τ) (e : Endpoint) (req : Request),
        req = .add e f.membership ∨ req = .remove e f.membership →
          ∃ xs r t, (req.ask (correspondent es serve).client).Posts s xs r t ∧ (es ≠ [] → xs ≠ []) ∧
            ∀ x ∈ xs, Tells x (millisOf timeout) period) ∧
      ((millisOf timeout).toNat = min (timeout.toNat * 1000) (2 ^ 64 - 1) ↔ timeout.toNat * 1000 < 2 ^ 64) := by
  refine ⟨fun _ _ read => exists_limits read, fun grace timeout period sets => ?_⟩
  have halts := Container.stopSeconds_ofSeconds grace
  have restarts := Container.restartSeconds_ofSeconds grace
  rw [← sets.grace] at halts restarts
  refine ⟨fun d id container => ?_, Container.wrapped_eq_clamped_iff, Container.wrapped_nonneg_iff,
    fun _ _ es serve s e req change => ?_, Gateway.millisOf_right_iff⟩
  · rw [← halts, ← restarts]
    exact ⟨Container.Handle.steps_stop, Container.Handle.steps_restart,
      fun _ _ _ => Container.Handle.orders_stop, fun _ _ _ => Container.Handle.orders_restart⟩
  · exact Gateway.Contact.posts_change_of sets.timeout sets.period change s

/-- A member in a container, a grace of two to the sixty-third seconds, and a timeout whose milliseconds do not
fit in sixty-four bits. -/
def Fixture.patient : Fixture :=
  { Fixture.simulated 1 with
    backend := .containers ⟨"img:1", defaultMemberPort, [], [], defaultSubnet⟩
    faults.stopGrace := Span.ofSeconds 9223372036854775808
    membership.timeout := Span.ofSeconds 18446744073709552
    membership.pollPeriod := Span.ofMillis 18446744073709551615 }

/-- A daemon whose containers run and do as told. -/
def Container.Daemon.willing : Container.Daemon Unit where
  makeNetwork _ := pure ()
  removeNetwork _ := pure ()
  make _ _ := pure ()
  inspect _ := pure (some .running)
  start _ := pure ()
  stop _ _ := pure ()
  kill _ := pure ()
  pause _ := pure ()
  unpause _ := pure ()
  restart _ _ := pure ()
  remove _ := pure ()
  prepareCommand _ _ := pure 0
  runCommand _ := pure ("", "")
  inspectCommand _ := pure (some 0)

namespace Fixture
open Container (Wire)

/-- The handle on the member of the patient fixture. -/
def patientHandle : Container.Handle (Wire Unit) :=
  Wire.handle .willing ⟨"a:1"⟩ "node-0" patient.faults.stopGrace

/-- The order of a stop wraps below zero, that of a restart does not; and of the timeout little is left. -/
theorem limits_on_the_wire_patient :
    let s : Wire Unit := ⟨.ofStatus .running, (), []⟩
    ((patientHandle.stop patient.faults.stopGrace).result s).2.orders =
        [.stop "node-0" (-9223372036854775808)] ∧
      (patientHandle.restart.result s).2.orders = [.restart "node-0" 9223372036854775807] ∧
      ∃ x r t, ((Request.remove ⟨"b:1"⟩ patient.membership).ask
          (Gateway.correspondent [⟨"a:1"⟩] Http.scripted).client).Posts (.start .start []) [x] r t ∧
        Gateway.Tells x 384 18446744073709551615 := by
  intro s
  have sets : patient.Sets 9223372036854775808 18446744073709552 18446744073709551615 := ⟨rfl, rfl, rfl⟩
  obtain ⟨orders, -, -, letters, -⟩ := (limits_on_the_wire patient).2 _ _ _ sets
  obtain ⟨-, -, stops, restarts⟩ := orders .willing ⟨"a:1"⟩ "node-0"
  obtain ⟨xs, r, t, posts, some, tells⟩ := letters (by decide) [⟨"a:1"⟩] Http.scripted (.start .start [])
    ⟨"b:1"⟩ _ (.inr rfl)
  refine ⟨stops s _ .running rfl nofun, restarts s _ .running rfl, ?_⟩
  have one : xs.length = 1 := by
    have filed : t.letters.length = 1 := (congrArg (·.2.letters.length) posts.result).symm
    rwa [posts.letters] at filed
  obtain ⟨x, rfl⟩ := List.length_eq_one_iff.mp one
  exact ⟨x, r, t, posts, tells x (List.mem_singleton_self x)⟩

/-- A fixture that passes validation, for which a stop and a restart tell the daemon different waits, one of
them below zero, and whose timeout of more than half a billion years becomes less than half a second. -/
theorem patient_limits_wrap :
    patient.validate.toOption = some () ∧
    ((patientHandle.stop patient.faults.stopGrace).result ⟨.ofStatus .running, (), []⟩).2.orders =
      [.stop "node-0" (-9223372036854775808)] ∧
    (patientHandle.restart.result ⟨.ofStatus .running, (), []⟩).2.orders =
      [.restart "node-0" 9223372036854775807] ∧
    Span.millis patient.membership.timeout = 18446744073709552000 ∧
    ∀ e, ((Gateway.Contact.membershipBody e patient.membership).find? "timeoutMs") = some (.integer 384) := by
  exact ⟨by decide +kernel, rfl, rfl, rfl, fun e => rfl⟩

end Fixture

end FaultLab
