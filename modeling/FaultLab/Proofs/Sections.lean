import FaultLab.Proofs.Effects

/-! # The sections of a request

Whoever runs beside others makes one step at a time.  `Call.advance` makes the next step of a call, and
what is left of the call decides on the answer (`Call.answer?`).  Notes and pauses between the steps do
not matter for this, so a call may be compared without them (`Call.hush`).

A request of a client has few ways to go on.  A `RequestProgress` says how far it has come and what it has
found so far, `RequestProgress.next` what its next section does, and `RequestProgress.advance_call` that this
is what the calls of the client do.  A change of the members has up to four sections: it looks and decides, it
checks whether the one who joins runs, it puts the next layout in place, and it forgets. -/

namespace FaultLab

namespace Call
variable {σ τ α β : Type}

/-- Make the next step of a call; what is left of it comes with the state after the step. -/
def advance : Call σ α → σ → Call σ α × σ
  | done a, s => (done a, s)
  | pause _ rest, s => advance rest s
  | note _ rest, s => advance rest s
  | step act rest, s => (rest s, act s)

/-- The answer of a call that has no step left. -/
def answer? : Call σ α → Option α
  | done a => some a
  | pause _ rest => answer? rest
  | note _ rest => answer? rest
  | step _ _ => none

/-- The steps of a call, without notes and pauses. -/
def hush : Call σ α → Call σ α
  | done a => done a
  | pause _ rest => hush rest
  | note _ rest => hush rest
  | step act rest => step act fun s => hush (rest s)

theorem hush_bind (c : Call σ α) (f : α → Call σ β) :
    hush (bind c f) = bind (hush c) fun a => hush (f a) := by
  induction c with
  | done a => rfl
  | pause d rest ih => exact ih
  | note e rest ih => exact ih
  | step act rest ih => exact congrArg (step act) (funext ih)

theorem hush_focus (p : Part σ τ) (c : Call τ α) : hush (focus p c) = focus p (hush c) := by
  induction c with
  | done a => rfl
  | pause d rest ih => exact ih
  | note e rest ih => exact ih
  | step act rest ih => exact congrArg (step _) (funext fun s => ih (p.get s))

theorem hush_logAll (es : List Event) : hush (logAll es : Call σ Unit) = done () := by
  induction es with
  | nil => rfl
  | cons e es ih => exact ih

theorem advance_hush (c : Call σ α) (s : σ) :
    (hush c).advance s = (hush (c.advance s).1, (c.advance s).2) := by
  induction c with
  | done a => rfl
  | pause d rest ih => exact ih
  | note e rest ih => exact ih
  | step act rest => rfl

theorem answer?_hush (c : Call σ α) : (hush c).answer? = c.answer? := by
  induction c with
  | done a => rfl
  | pause d rest ih => exact ih
  | note e rest ih => exact ih
  | step act rest => rfl

theorem answer?_focus (p : Part σ τ) (c : Call τ α) : (focus p c).answer? = c.answer? := by
  induction c with
  | done a => rfl
  | pause d rest ih => exact ih
  | note e rest ih => exact ih
  | step act rest => rfl

theorem advance_focus {p : Part σ τ} {good : σ → Prop} (lawful : p.LawfulOn good) (c : Call τ α)
    {s : σ} (hs : good s) : (focus p c).advance s =
      (focus p (c.advance (p.get s)).1, p.set (c.advance (p.get s)).2 s) := by
  induction c with
  | done a => exact Prod.ext rfl (lawful.set_get s hs).symm
  | pause d rest ih => exact ih
  | note e rest ih => exact ih
  | step act rest => rfl

end Call

/-- An attempt goes on after the journal as it would without it. -/
theorem Attempt.hush_logAll {σ ε α : Type} (es : List Event) (c : Attempt σ ε α) :
    Call.hush (Attempt.lift (Call.logAll es) >>= fun _ => c).toCall = Call.hush c.toCall := by
  have apart : Call.hush (Attempt.lift (Call.logAll es) >>= fun _ => c).toCall =
      Call.bind (Call.hush (Call.bind (Call.logAll es) fun a => .done (.ok a)))
        fun outcome => Call.hush (ExceptT.bindCont (fun _ => c) outcome) := Call.hush_bind _ _
  rw [apart, Call.hush_bind, Call.hush_logAll]
  rfl

namespace Simulation

namespace ClientState

/-- The state of a client after a reading of the management. -/
def watch (d : ClientState) : ClientState := { d with fabric := d.fabric.watched }

/-- The layout for a client that remembers none. -/
def freshLayout : Attempt ClientState ManagementError Layout := do
  let f ← observe
  match f.layout with
  | some layout =>
    Attempt.lift (Call.modify fun d => { d with memory := some layout })
    return layout
  | none => Attempt.give (.error .notBootstrapped)

end ClientState

/-- How far a request of a client has come. -/
inductive RequestProgress where
  /-- Nothing was done yet. -/
  | fresh (req : Request)
  /-- The client remembers no layout, so the cluster is to look at itself. -/
  | looking
  /-- This layout was in place and is to be remembered. -/
  | keeping (l : Layout)
  /-- This layout was in place, and whether the endpoint that is to join it runs is to be checked. -/
  | checking (e : Endpoint) (l : Layout)
  /-- This layout is to be put in place. -/
  | placing (m : Layout)
  /-- All is done, and the layout is to be forgotten. -/
  | leaving
  | ended (outcome : Except ManagementError Answer)

namespace RequestProgress

/-- What is left to do once a layout is to be forgotten. -/
def leave : Call ClientState (Except ManagementError Answer) :=
  .step (fun d => { d with memory := none }) fun _ => .done (.ok .done)

/-- What is left to do once a layout is to be put in place. -/
def put (m : Layout) : Call ClientState (Except ManagementError Answer) :=
  .step (fun d => { d with fabric := d.fabric.commit m }) fun _ => leave

/-- What is left to do of a request. -/
def call : RequestProgress → Call ClientState (Except ManagementError Answer)
  | fresh req => Call.hush (req.ask ClientState.client).toCall
  | looking => Call.hush (ClientState.freshLayout >>= fun l => pure (Answer.layout l)).toCall
  | keeping l => .step (fun d => { d with memory := some l }) fun _ => .done (.ok (.layout l))
  | checking e l => .step id fun d =>
    if d.fabric.isUp e then put (l.addServer e) else .done (.error (.notRunning e))
  | placing m => put m
  | leaving => leave
  | ended outcome => .done outcome

/-- How a change of the members goes on after the look at the fabric. -/
def weigh (e : Endpoint) (f : Fabric) (pick : Layout → RequestProgress) : RequestProgress :=
  match f.observe with
  | .error cause => ended (.error cause)
  | .ok g => match g.changeable e with
    | .error cause => ended (.error cause)
    | .ok l => pick l

/-- How an addition goes on with the layout that it has found. -/
def join (e : Endpoint) (l : Layout) : RequestProgress := if l.contains e then leaving else checking e l

/-- How a removal goes on with the layout that it has found. -/
def quit (e : Endpoint) (l : Layout) : RequestProgress :=
  match ClientState.withoutServer e l with
  | .error cause => ended (.error cause)
  | .ok none => leaving
  | .ok (some m) => placing m

/-- What the next section of a request does: how it goes on, and the state of the client after it. -/
def next (d : ClientState) : RequestProgress → RequestProgress × ClientState
  | fresh .getLayout =>
    (match d.memory with
      | some l => ended (.ok (.layout l))
      | none => looking, d)
  | fresh .getStatus =>
    (match d.fabric.observe with
      | .error cause => ended (.error cause)
      | .ok g => match g.report with
        | some r => ended (.ok (.status r))
        | none => ended (.error .noReport), d.watch)
  | fresh .invalidate => (ended (.ok .done), { d with memory := none })
  | fresh (.bootstrap l) =>
    (match (d.fabric.submit l).1 with
      | .error cause => ended (.error cause)
      | .ok true => placing l
      | .ok false => ended (.ok .done), { d with fabric := (d.fabric.submit l).2 })
  | fresh (.add e _) => (weigh e d.fabric (join e), d.watch)
  | fresh (.remove e _) => (weigh e d.fabric (quit e), d.watch)
  | fresh (.reset e) =>
    (match (d.fabric.resetMember e).1 with
      | .error cause => ended (.error cause)
      | .ok () => ended (.ok .done), { d with fabric := (d.fabric.resetMember e).2 })
  | looking =>
    (match d.fabric.observe with
      | .error cause => ended (.error cause)
      | .ok g => match g.layout with
        | some l => keeping l
        | none => ended (.error .notBootstrapped), d.watch)
  | keeping l => (ended (.ok (.layout l)), { d with memory := some l })
  | checking e l =>
    (if d.fabric.isUp e then placing (l.addServer e) else ended (.error (.notRunning e)), d)
  | placing m => (leaving, { d with fabric := d.fabric.commit m })
  | leaving => (ended (.ok .done), { d with memory := none })
  | ended outcome => (ended outcome, d)

/-! ### The client does what the progress of a request says -/

section client
variable {α : Type} {d : ClientState} {e : Endpoint}

theorem advance_onFabric {β : Type} (act : Fabric → β × Fabric)
    (k : β → Attempt ClientState ManagementError α) (d : ClientState) :
    (Call.hush (Attempt.lift (ClientState.onFabric act) >>= k).toCall).advance d =
      (Call.hush (k (act d.fabric).1).toCall, { d with fabric := (act d.fabric).2 }) := rfl

theorem advance_observe (k : Fabric → Attempt ClientState ManagementError α) (d : ClientState) :
    (Call.hush (ClientState.observe >>= k).toCall).advance d =
      (match d.fabric.observe with
        | .error cause => .done (.error cause)
        | .ok g => Call.hush (k g).toCall, d.watch) := by
  rw [ClientState.observe, bind_assoc, advance_onFabric, ClientState.watch, Fabric.watched]
  cases d.fabric.observe with
  | error cause => rfl
  | ok g =>
    simp only [bind_assoc, pure_bind]
    exact Prod.ext (Attempt.hush_logAll _ (k g)) rfl

theorem hush_commit (m : Layout) (c : Attempt ClientState ManagementError α) :
    Call.hush (Attempt.lift (ClientState.commit m) >>= fun _ => c).toCall =
      .step (fun d => { d with fabric := d.fabric.commit m }) fun _ => Call.hush c.toCall :=
  congrArg (Call.step _) (funext fun _ => Attempt.hush_logAll _ c)

/-- What is left of a change of the members that has found what to put in place. -/
def finish (next : Option Layout) : Attempt ClientState ManagementError Answer := do
  match next with
  | some m => Attempt.lift (ClientState.commit m)
  | none => pure ()
  Attempt.lift ClientState.forget
  return .done

theorem hush_finish_some (m : Layout) : Call.hush (finish (some m)).toCall = put m :=
  hush_commit m _

/-- The section in which a change of the members looks and decides. -/
theorem advance_change {next : Layout → Attempt ClientState ManagementError (Option Layout)}
    {pick : Layout → RequestProgress}
    (picks : ∀ l, Call.hush (next l >>= finish).toCall = (pick l).call) (d : ClientState) :
    (Call.hush (ClientState.change e next >>= fun _ => pure Answer.done).toCall).advance d =
      ((weigh e d.fabric pick).call, d.watch) := by
  have whole : (ClientState.change e next >>= fun _ => pure Answer.done) =
      ClientState.observe >>= fun f => Attempt.give (f.changeable e) >>= fun l => next l >>= finish := by
    rw [ClientState.change]
    simp only [bind_assoc]
    refine bind_congr fun f => bind_congr fun l => bind_congr fun next => ?_
    cases next with
    | some m => simp only [finish, bind_assoc]
    | none => simp only [finish]
  rw [whole, advance_observe, weigh]
  cases d.fabric.observe with
  | error cause => rfl
  | ok g =>
    simp only
    cases g.changeable e with
    | error cause => rfl
    | ok l => exact Prod.ext (picks l) rfl

theorem hush_join (e : Endpoint) (l : Layout) :
    Call.hush (ClientState.withServer e l >>= finish).toCall = (join e l).call := by
  rw [ClientState.withServer, join]
  split
  · rfl
  · refine congrArg (Call.step id) (funext fun d => ?_)
    change Call.hush ((if d.fabric.isUp e then pure (some (l.addServer e))
      else Attempt.give (.error (.notRunning e)) : Attempt ClientState ManagementError _) >>= finish).toCall = _
    split
    · exact hush_finish_some _
    · rfl

theorem hush_quit (e : Endpoint) (l : Layout) :
    Call.hush (Attempt.give (ClientState.withoutServer e l) >>= finish).toCall = (quit e l).call := by
  rw [quit]
  rcases ClientState.withoutServer e l with cause | next | m
  · rfl
  · rfl
  · exact hush_finish_some m

/-! One lemma for each request whose first section looks at the fabric or changes it, then all of them. -/

theorem advance_getStatus (d : ClientState) : (fresh .getStatus).call.advance d =
    (((fresh .getStatus).next d).1.call, ((fresh .getStatus).next d).2) := by
  rw [call, Request.ask]
  simp only [ClientState.client, ClientState.getStatus, bind_assoc]
  rw [advance_observe, next]
  cases d.fabric.observe with
  | error cause => rfl
  | ok g =>
    simp only
    cases g.report with
    | none => rfl
    | some r => rfl

/-- What is left of a bootstrap that the cluster has accepted. -/
def accept (l : Layout) : Attempt ClientState ManagementError Unit := do
  Attempt.lift (ClientState.commit l)
  Attempt.lift ClientState.forget
  Attempt.log (.debug "sim cluster bootstrapped" [("servers", .ofNat l.servers.length)])

theorem hush_accept (l : Layout) :
    Call.hush (accept l >>= fun _ => pure Answer.done).toCall = put l := by
  have apart : (accept l >>= fun _ => pure Answer.done) = Attempt.lift (ClientState.commit l) >>= _ :=
    bind_assoc _ _ _
  exact (congrArg (fun c => Call.hush c.toCall) apart).trans (hush_commit l _)

theorem advance_bootstrap (l : Layout) (d : ClientState) : (fresh (.bootstrap l)).call.advance d =
    (((fresh (.bootstrap l)).next d).1.call, ((fresh (.bootstrap l)).next d).2) := by
  have made : (call (fresh (.bootstrap l))).advance d =
      (Call.hush ((Attempt.give (d.fabric.submit l).1 >>= fun accepted =>
        if accepted then accept l else pure ()) >>= fun _ => pure Answer.done).toCall,
        { d with fabric := (d.fabric.submit l).2 }) := rfl
  rw [made, next]
  rcases (d.fabric.submit l).1 with cause | declined | accepted
  · rfl
  · rfl
  · exact Prod.ext (hush_accept l) rfl

theorem advance_reset (e : Endpoint) (d : ClientState) : (fresh (.reset e)).call.advance d =
    (((fresh (.reset e)).next d).1.call, ((fresh (.reset e)).next d).2) := by
  have made : (call (fresh (.reset e))).advance d =
      (Call.hush (Attempt.give (d.fabric.resetMember e).1 >>= fun _ => pure Answer.done).toCall,
        { d with fabric := (d.fabric.resetMember e).2 }) := rfl
  rw [made, next]
  cases (d.fabric.resetMember e).1 with
  | error cause => rfl
  | ok _ => rfl

theorem advance_looking (d : ClientState) :
    looking.call.advance d = ((looking.next d).1.call, (looking.next d).2) := by
  rw [call, ClientState.freshLayout, bind_assoc, advance_observe, next]
  cases d.fabric.observe with
  | error cause => rfl
  | ok g =>
    simp only
    cases g.layout with
    | none => rfl
    | some r => rfl

theorem advance_checking (e : Endpoint) (l : Layout) (d : ClientState) :
    (checking e l).call.advance d = (((checking e l).next d).1.call, ((checking e l).next d).2) := by
  refine Prod.ext ?_ rfl
  have left : ((checking e l).call.advance d).1 =
      if d.fabric.isUp e then put (l.addServer e) else .done (.error (.notRunning e)) := rfl
  rw [left, next]
  split <;> rfl

/-- **The next section of a request** does what its progress says. -/
theorem advance_call (progress : RequestProgress) (d : ClientState) :
    progress.call.advance d = ((progress.next d).1.call, (progress.next d).2) := by
  cases progress with
  | fresh req =>
    cases req with
    | getLayout =>
      obtain ⟨f, memory⟩ := d
      cases memory with
      | some l => rfl
      | none => rfl
    | getStatus => exact advance_getStatus d
    | invalidate => rfl
    | bootstrap l => exact advance_bootstrap l d
    | add e patience => exact advance_change (hush_join e) d
    | remove e patience => exact advance_change (hush_quit e) d
    | reset e => exact advance_reset e d
  | looking => exact advance_looking d
  | keeping l => rfl
  | checking e l => exact advance_checking e l d
  | placing m => rfl
  | leaving => rfl
  | ended outcome => rfl

end client

theorem eq_ended_of_answer? {progress : RequestProgress} {outcome : Except ManagementError Answer}
    (h : progress.call.answer? = some outcome) : progress = ended outcome := by
  cases progress with
  | fresh req => cases req <;> cases h
  | ended r => exact congrArg ended (Option.some.inj h)
  | _ => cases h

/-! ### What stands behind the progress of a request -/

section stands
variable {told told' : Layout → Prop} {shown shown' : Prop} {req : Request} {seen : Option Fabric}
  {progress : RequestProgress} {d : ClientState} {e : Endpoint} {f : Fabric} {l m : Layout}

/-- What is known of a request that has come so far.  `told` are the layouts that may be told, `shown` is
whether the effect of the request was there, and `seen` is the fabric that its first section has left. -/
def Stands (told : Layout → Prop) (shown : Prop) (req : Request) (seen : Option Fabric) :
    RequestProgress → Prop
  | fresh r => r = req ∧ seen = none
  | looking => True
  | keeping l => told l
  | checking e l =>
    (∃ patience, req = .add e patience) ∧ (∃ f ∈ seen, f.layout = some l) ∧ e ∉ l.servers
  | placing m => ∃ f ∈ seen, req.Makes f.layout m
  | leaving => req.Alters → shown
  | ended outcome =>
    (∀ l, outcome = .ok (.layout l) → told l) ∧ (outcome = .ok .done → req.Alters → shown)

theorem Stands.mono (h : progress.Stands told shown req seen) (more : ∀ l, told l → told' l)
    (still : shown → shown') : progress.Stands told' shown' req seen := by
  cases progress with
  | keeping l => exact more l h
  | leaving => exact fun alters => still (h alters)
  | ended outcome => exact ⟨fun l hl => more l (h.1 l hl), fun hd alters => still (h.2 hd alters)⟩
  | _ => exact h

/-- A request that is refused tells no layout and has no effect to show. -/
theorem stands_refused (cause : ManagementError) :
    (ended (.error cause)).Stands told shown req seen := by
  constructor
  · rintro _ ⟨⟩
  · rintro ⟨⟩

theorem stands_told (h : told l) : (ended (.ok (.layout l))).Stands told shown req seen := by
  constructor
  · rintro _ ⟨⟩
    exact h
  · rintro ⟨⟩

theorem stands_reported (r : StatusReport) :
    (ended (.ok (.status r))).Stands told shown req seen := by
  constructor
  · rintro _ ⟨⟩
  · rintro ⟨⟩

theorem stands_done (h : req.Alters → shown) : (ended (.ok .done)).Stands told shown req seen := by
  constructor
  · rintro _ ⟨⟩
  · exact fun _ => h

/-- A change of the members is refused, or goes on with the layout in place after the look. -/
theorem stands_weigh {pick : Layout → RequestProgress} (picks : ∀ l, f.watched.layout = some l →
    weigh e f pick = pick l → (pick l).Stands told shown req seen) :
    (weigh e f pick).Stands told shown req seen := by
  rw [weigh, Fabric.watched] at *
  cases looked : f.observe with
  | error cause => exact stands_refused cause
  | ok g =>
    simp only [looked] at picks ⊢
    cases found : g.changeable e with
    | error cause => exact stands_refused cause
    | ok l =>
      rw [found] at picks
      exact picks l (Fabric.changeable_eq_ok found).1 rfl

theorem stands_join {patience : Patience} (hf : f ∈ seen) (hl : f.layout = some l)
    (there : join e l = leaving → Request.Shows l l (.add e patience) → shown) :
    (join e l).Stands told shown (.add e patience) seen := by
  rw [join, Layout.contains] at *
  by_cases server : e ∈ l.servers
  · rw [if_pos (List.contains_iff_mem.mpr server)] at *
    exact fun _ => there rfl ⟨server, fun new => absurd server new⟩
  · rw [if_neg fun member => server (List.contains_iff_mem.mp member)]
    exact ⟨⟨patience, rfl⟩, ⟨f, hf, hl⟩, server⟩

theorem stands_quit {patience : Patience} (hf : f ∈ seen) (hl : f.layout = some l)
    (there : quit e l = leaving → Request.Shows l l (.remove e patience) → shown) :
    (quit e l).Stands told shown (.remove e patience) seen := by
  rw [quit, ClientState.withoutServer, Layout.contains] at *
  by_cases server : e ∈ l.servers
  · have member : (!l.servers.contains e) = false := by simp [server]
    rw [if_neg (ne_true_of_eq_false member)]
    by_cases last : l.servers.length = 1
    · rw [if_pos last]
      exact stands_refused _
    · rw [if_neg last]
      exact ⟨f, hf, hl ▸ .remove rfl server⟩
  · have gone : (!l.servers.contains e) = true := by simp [server]
    rw [if_pos gone] at *
    exact fun _ => there rfl ⟨server, fun member => absurd member server⟩

theorem stands_getStatus (d : ClientState) :
    ((fresh .getStatus).next d).1.Stands told shown .getStatus seen := by
  rw [next]
  cases d.fabric.observe with
  | error cause => exact stands_refused cause
  | ok g =>
    simp only
    cases g.report with
    | none => exact stands_refused _
    | some r => exact stands_reported r

theorem stands_bootstrap (l : Layout) (d : ClientState) : ((fresh (.bootstrap l)).next d).1.Stands
    told shown (.bootstrap l) (some ((fresh (.bootstrap l)).next d).2.fabric) := by
  simp only [next]
  cases taken : (d.fabric.submit l).1 with
  | error cause => exact stands_refused cause
  | ok accepted =>
    cases accepted with
    | false => exact stands_done False.elim
    | true =>
      have bare := (Fabric.submit_eq_ok_true (Prod.ext taken rfl)).1
      refine ⟨_, rfl, .bootstrap l ?_⟩
      exact (Fabric.kept_submit l d.fabric).2.trans bare

theorem stands_reset (e : Endpoint) (d : ClientState) :
    ((fresh (.reset e)).next d).1.Stands told shown (.reset e) seen := by
  simp only [next]
  cases (d.fabric.resetMember e).1 with
  | error cause => exact stands_refused cause
  | ok _ => exact stands_done False.elim

theorem stands_looking (present : ∀ l, d.fabric.watched.layout = some l → told l) :
    (looking.next d).1.Stands told shown req seen := by
  rw [next, Fabric.watched] at *
  cases looked : d.fabric.observe with
  | error cause => exact stands_refused cause
  | ok g =>
    simp only [looked] at present ⊢
    cases hl : g.layout with
    | none => exact stands_refused _
    | some l => exact present l hl

theorem stands_checking (h : (checking e l).Stands told shown req seen) :
    ((checking e l).next d).1.Stands told' shown' req seen := by
  obtain ⟨⟨patience, rfl⟩, ⟨f, hf, hl⟩, new⟩ := h
  rw [next]
  split
  · exact ⟨f, hf, hl ▸ .add rfl new⟩
  · exact stands_refused _

/-- A change of the members has found a layout, so what it puts in place shows what it is for. -/
theorem shows_placing (h : (placing m).Stands told shown req seen) (alters : req.Alters)
    (d : ClientState) : ∃ f ∈ seen, ∃ before ∈ f.layout,
      ∃ l ∈ ((placing m).next d).2.fabric.layout, req.Shows before l := by
  obtain ⟨f, hf, makes⟩ := h
  cases hl : f.layout with
  | none =>
    rw [hl] at makes
    cases makes with
    | bootstrap => exact alters.elim
    | add found => cases found
    | remove found => cases found
  | some before =>
    rw [hl] at makes
    exact ⟨f, hf, before, hl, Fabric.shows_commit makes.shows d.fabric⟩

/-- What is known of a request after its next section. -/
theorem Stands.next (h : progress.Stands told shown req seen)
    (remembered : ∀ l, d.memory = some l → told l) (more : ∀ l, told l → told' l)
    (present : ∀ l, (progress.next d).2.fabric.layout = some l → told' l)
    (still : shown → shown')
    (reached : (progress.next d).1 = leaving →
      ∀ f ∈ seen.or (some (progress.next d).2.fabric), ∀ before ∈ f.layout,
        (∃ l ∈ (progress.next d).2.fabric.layout, req.Shows before l) → shown') :
    (progress.next d).1.Stands told' shown' req (seen.or (some (progress.next d).2.fabric)) := by
  cases progress with
  | fresh r =>
    obtain ⟨rfl, rfl⟩ := h
    cases r with
    | getLayout =>
      rw [next]
      cases hm : d.memory with
      | none => trivial
      | some l => exact stands_told (more l (remembered l hm))
    | getStatus => exact stands_getStatus d
    | invalidate => exact stands_done False.elim
    | bootstrap l => exact stands_bootstrap l d
    | add e patience =>
      exact stands_weigh fun l hl found => stands_join rfl hl fun there shows =>
        reached (found.trans there) _ rfl l hl ⟨l, hl, shows⟩
    | remove e patience =>
      exact stands_weigh fun l hl found => stands_quit rfl hl fun there shows =>
        reached (found.trans there) _ rfl l hl ⟨l, hl, shows⟩
    | reset e => exact stands_reset e d
  | looking => exact stands_looking present
  | keeping l => exact stands_told (more l h)
  | checking e l =>
    obtain _ | f := seen
    · obtain ⟨-, ⟨f, none, -⟩, -⟩ := h
      cases none
    · exact stands_checking h
  | placing m =>
    intro alters
    obtain ⟨f, rfl, before, hl, shows⟩ := shows_placing h alters d
    exact reached rfl f rfl before hl shows
  | leaving => exact stands_done fun alters => still (h alters)
  | ended outcome => exact ⟨fun l hl => more l (h.1 l hl), fun hd alters => still (h.2 hd alters)⟩

/-- A section changes the memory only to what was to be kept, or to nothing. -/
theorem memory_next (h : (progress.next d).2.memory = some l) :
    d.memory = some l ∨ progress = keeping l := by
  cases progress with
  | fresh r =>
    cases r with
    | invalidate => cases h
    | _ => exact .inl h
  | keeping k =>
    cases h
    exact .inr rfl
  | leaving => cases h
  | _ => exact .inl h

/-- **How the layout in place goes on in a section**, if a layout that the section puts in place is made
of the one that it takes the place of. -/
theorem Stands.grows (h : progress.Stands told shown req seen)
    (timely : ∀ f ∈ seen, req.Commits → f.layout = d.fabric.layout ∨
      (progress.next d).2.fabric.layout = d.fabric.layout) :
    d.fabric.Grows req (progress.next d).2.fabric := by
  have watched : d.fabric.Grows req d.watch.fabric := by
    obtain same | ⟨l, u, before, after⟩ := d.fabric.layout_watched
    · exact .same same
    · exact .marked before after
  cases progress with
  | fresh r =>
    cases r with
    | getStatus => exact watched
    | bootstrap l => exact .same (Fabric.kept_submit l d.fabric).2
    | add e patience => exact watched
    | remove e patience => exact watched
    | reset e => exact .same (Fabric.layout_resetMember e d.fabric)
    | _ => exact .same rfl
  | looking => exact watched
  | placing m =>
    obtain ⟨f, hf, makes⟩ := h
    obtain same | still := timely f hf makes.commits
    · exact .made (same ▸ makes) rfl
    · exact .same still
  | _ => exact .same rfl

end stands

end RequestProgress

end Simulation

end FaultLab
