import FaultLab.Proofs.Views
import FaultLab.Simulation.Lab

/-! # Commands to simulated members

A `Command` is anything that a handle can be told to do.  `Handle.Does h cmd` says all that one step
of a command can do to the seat of the handle `h` (`steps_does`): nothing, spend a failure that was
asked for, or make one of the changes of this command.  `Handle.Move h` is the same for any command
(`steps_command`).  What every move keeps, every command keeps, also one that fails or is cut off.

`Fabric.AlikeBeyond` is the frame of a handle: its moves change its own member, and neither other
members nor the cluster's view (`Handle.Move.alikeBeyond`). -/

namespace FaultLab.Simulation

/-- What a handle can be told to do. -/
inductive Command where
  | start
  | stop (grace : Nat)
  | kill
  | pause
  | resume
  | disconnect (peers : List Endpoint)
  | reconnect (peers : List Endpoint)
  | restart
  | destroy
  | powerOff
  | powerOn
  | reboot
  | powerState
deriving DecidableEq

namespace Command
variable {σ τ : Type}

/-- Tell a member to do it. -/
def tell (node : Node σ) : Command → Attempt σ Failure Unit
  | start => node.start
  | stop grace => node.stop grace
  | kill => node.kill
  | pause => node.pause
  | resume => node.resume
  | disconnect peers => node.disconnect peers
  | reconnect peers => node.reconnect peers
  | restart => node.restart
  | destroy => node.destroy
  | powerOff => do (← Attempt.give node.requirePower).off
  | powerOn => do (← Attempt.give node.requirePower).on
  | reboot => do (← Attempt.give node.requirePower).reboot
  | powerState => do
    let _ ← (← Attempt.give node.requirePower).state
    return ()

/-- The peers that a command is about. -/
def peers : Command → List Endpoint
  | disconnect peers => peers
  | reconnect peers => peers
  | _ => []

/-- The state after some commands to a member, whatever became of them. -/
def obeyed (node : Node σ) (cmds : List Command) (s : σ) : σ :=
  Call.inTurn (cmds.map fun cmd => (cmd.tell node).toCall) s

theorem obeyed_concat (node : Node σ) (cmds : List Command) (cmd : Command) (s : σ) :
    obeyed node (cmds ++ [cmd]) s = ((cmd.tell node).result (obeyed node cmds s)).2 := by
  rw [obeyed, List.map_append, Call.inTurn_append]
  rfl

theorem obeyed_induct {node : Node σ} {cmds : List Command} {I : σ → Prop}
    (step : ∀ cmd ∈ cmds, ∀ s, I s → I ((cmd.tell node).result s).2) {s : σ} (hs : I s) :
    I (obeyed node cmds s) := by
  refine Call.inTurn_induct (fun c hc => ?_) hs
  obtain ⟨cmd, hcmd, rfl⟩ := List.mem_map.mp hc
  exact step cmd hcmd

/-- Through commands that settle, a good view stays good; and one that fails then changes nothing. -/
theorem good_obeyed {V : Type} (view : σ → V) {good : V → Prop} {node : Node σ} {cmds : List Command}
    {cmd : Command} (step : ∀ cmd' ∈ cmds ++ [cmd], ∀ v, good v → (cmd'.tell node).Settles view good v)
    {s : σ} (hs : good (view s)) :
    good (view (obeyed node cmds s)) ∧
      ∀ e u, (cmd.tell node).result (obeyed node cmds s) = (.error e, u) →
        view u = view (obeyed node cmds s) := by
  have held := obeyed_induct (I := fun t => good (view t)) (fun cmd' hcmd t ht =>
    (step cmd' (List.mem_append_left _ hcmd) (view t) ht).good_result ht rfl) hs
  have settles := step cmd (List.mem_append_right _ (List.mem_singleton_self _)) _ held
  exact ⟨held, fun e u failed => settles.view_of_error rfl failed⟩

theorem requirePower_focus (p : Part σ τ) (node : Node τ) :
    (node.focus p).requirePower = node.requirePower.map (Power.focus p) := by
  rw [Node.requirePower, Node.requirePower]
  cases h : node.power with
  | none => simp only [Node.focus, h, Option.map_none]; rfl
  | some power => simp only [Node.focus, h, Option.map_some]; rfl

theorem tell_focus (p : Part σ τ) (node : Node τ) (cmd : Command) :
    cmd.tell (node.focus p) = (cmd.tell node).focus p := by
  cases cmd with
  | powerOff | powerOn | reboot =>
    simp only [tell, requirePower_focus]
    cases node.requirePower with
    | ok power => rfl
    | error e => rfl
  | powerState =>
    simp only [tell, requirePower_focus]
    cases node.requirePower with
    | ok power => exact (Attempt.focus_bind p power.state fun _ => pure ()).symm
    | error e => rfl
  | _ => rfl

end Command

namespace Handle
variable {h : Handle} {s t : Seat}

/-- What one step of a command can do to the seat of a handle. -/
inductive Move (h : Handle) (s : Seat) : Seat → Prop
  | idle : Move h s s
  | refused (op : Operation) (asked : s.fabric.failNext.contains (h.id, op) = true) :
    Move h s { s with fabric := s.fabric.spendFailure h.id op }
  | started : Move h s (h.started s)
  | stopped : Move h s (h.stopped s)
  | killed : Move h s (h.killed s)
  | paused : Move h s (h.paused s).2
  | resumed : Move h s (h.resumed s)
  | disconnected (peers : List Endpoint) : Move h s (h.disconnected peers s)
  | reconnected (peers : List Endpoint) : Move h s (h.reconnected peers s)
  | destroyed : Move h s (h.destroyed s)
  | poweredOff (machine : h.flavor = .machine) : Move h s (h.powerCycled .off .poweredOff s)
  | poweredOn (machine : h.flavor = .machine) : Move h s (h.poweredOn s)
  | rebooted (machine : h.flavor = .machine) : Move h s (h.powerCycled .on .stopped s)

/-- The changes that a command can make, each in one step. -/
def changes (h : Handle) : Command → List (Seat → Seat)
  | .start => [h.started]
  | .stop _ => [h.stopped]
  | .kill => [h.killed]
  | .pause => [fun s => (h.paused s).2]
  | .resume => [h.resumed]
  | .disconnect peers => [h.disconnected peers]
  | .reconnect peers => [h.reconnected peers]
  | .restart => [h.stopped, h.started]
  | .destroy => [h.destroyed]
  | .powerOff => if h.flavor = .machine then [h.powerCycled .off .poweredOff] else []
  | .powerOn => if h.flavor = .machine then [h.poweredOn] else []
  | .reboot => if h.flavor = .machine then [h.powerCycled .on .stopped] else []
  | .powerState => []

/-- What one step of a certain command can do to the seat of a handle. -/
inductive Does (h : Handle) (cmd : Command) (s : Seat) : Seat → Prop
  | idle : Does h cmd s s
  | refused (op : Operation) (asked : s.fabric.failNext.contains (h.id, op) = true) :
    Does h cmd s { s with fabric := s.fabric.spendFailure h.id op }
  | changed (change : Seat → Seat) (able : change ∈ h.changes cmd) : Does h cmd s (change s)

/-! ### The steps of commands -/

theorem machine_of_mem {f change : Seat → Seat}
    (able : change ∈ if h.flavor = .machine then [f] else []) :
    h.flavor = .machine ∧ change = f := by
  split at able
  · rename_i machine
    exact ⟨machine, List.mem_singleton.mp able⟩
  · cases able

theorem Does.move {cmd : Command} (does : h.Does cmd s t) : h.Move s t := by
  cases does with
  | idle => exact .idle
  | refused op asked => exact .refused op asked
  | changed change able =>
    cases cmd with
    | restart =>
      rcases List.mem_cons.mp able with rfl | able
      · exact .stopped
      · rw [List.mem_singleton.mp able]
        exact .started
    | powerOff =>
      obtain ⟨machine, rfl⟩ := machine_of_mem able
      exact .poweredOff machine
    | powerOn =>
      obtain ⟨machine, rfl⟩ := machine_of_mem able
      exact .poweredOn machine
    | reboot =>
      obtain ⟨machine, rfl⟩ := machine_of_mem able
      exact .rebooted machine
    | powerState => cases able
    | _ =>
      rw [List.mem_singleton.mp able]
      constructor

/-- An operation looks up how long it takes, lets this time pass and acts in one step. -/
theorem toCall_perform {α : Type} (h : Handle) (op : Operation)
    (act : Seat → Except Failure α × Seat) : (h.perform op act).toCall =
      Call.bind (Call.read fun s => s.fabric.latencyOf h.id) fun latency =>
        Call.bind (Call.sleepIfAny latency) fun _ => Call.atomically (h.guarded op act) := by
  refine congrArg (Call.step fun s => s) (funext fun s => ?_)
  exact Call.bind_assoc (Call.sleepIfAny (s.fabric.latencyOf h.id)) _ _

theorem result_perform {α : Type} (h : Handle) (op : Operation)
    (act : Seat → Except Failure α × Seat) (s : Seat) :
    (h.perform op act).result s = h.guarded op act s := by
  rw [Attempt.result, toCall_perform, Call.result_bind, Call.result_read, Call.result_bind]
  rw [Call.sleepIfAny]
  split <;> rfl

theorem elapsed_perform {α : Type} (h : Handle) (op : Operation)
    (act : Seat → Except Failure α × Seat) (s : Seat) :
    (h.perform op act).toCall.elapsed s = s.fabric.latencyOf h.id := by
  rw [toCall_perform, Call.elapsed_bind, Call.elapsed_bind, Call.elapsed_sleepIfAny]
  exact Nat.zero_add _

theorem result_change (h : Handle) (op : Operation) (f : Seat → Seat) (s : Seat) :
    (h.change op f).result s = if s.fabric.failNext.contains (h.id, op) then
        (.error (.ofNode h.id op.name .injected),
          { s with fabric := s.fabric.spendFailure h.id op })
      else (.ok (), f s) := h.result_perform op _ s

section steps
variable {cmd : Command}

theorem steps_perform {α : Type} {op : Operation} {act : Seat → Except Failure α × Seat}
    (does : ∀ s, h.Does cmd s (act s).2) : (h.perform op act).Steps (h.Does cmd) := by
  rw [perform]
  refine .bind (.lift (.read fun s => .idle)) fun latency => ?_
  refine .bind (.lift (.sleepIfAny latency)) fun _ => ?_
  refine Call.Steps.atomically fun s => ?_
  rw [guarded]
  split
  · rename_i asked
    exact .refused op asked
  · exact does s

theorem steps_change {op : Operation} {f : Seat → Seat} (able : f ∈ h.changes cmd) :
    (h.change op f).Steps (h.Does cmd) := steps_perform fun _ => .changed f able

/-- What is done with the control over the power happens to machines alone. -/
theorem steps_requirePower {f : Power Seat → Attempt Seat Failure Unit}
    (steps : h.flavor = .machine → (f h.power).Steps (h.Does cmd)) :
    (Attempt.give h.node.requirePower >>= f).Steps (h.Does cmd) := by
  refine .give_bind fun power hp => ?_
  rw [Node.requirePower, node] at hp
  by_cases machine : h.flavor = .machine
  · rw [if_pos machine] at hp
    cases hp
    exact steps machine
  · rw [if_neg machine] at hp
    cases hp

end steps

/-- Every step of a command is one of those that it can do. -/
theorem steps_does (h : Handle) (cmd : Command) : (cmd.tell h.node).Steps (h.Does cmd) := by
  cases cmd with
  | restart =>
    refine .bind (steps_change ?_) fun _ => steps_change ?_
    · exact List.mem_cons_self
    · exact List.mem_cons_of_mem _ List.mem_cons_self
  | pause =>
    refine steps_perform fun s => .changed (fun s => (h.paused s).2) ?_
    exact List.mem_singleton_self _
  | powerOff | powerOn | reboot =>
    refine steps_requirePower fun machine => steps_change ?_
    rw [changes, if_pos machine]
    exact List.mem_singleton_self _
  | powerState =>
    exact steps_requirePower fun _ => .bind (steps_perform fun _ => .idle) fun _ => .pure ()
  | _ => exact steps_change (List.mem_singleton_self _)

theorem steps_command (h : Handle) (cmd : Command) : (cmd.tell h.node).Steps h.Move :=
  (h.steps_does cmd).mono fun _ _ => Does.move

end Handle

/-! ### What a handle leaves alone -/

/-- Two fabrics that differ at most at one member and in the counting of readings. -/
structure Fabric.AlikeBeyond (e : Endpoint) (f g : Fabric) : Prop where
  layout : g.layout = f.layout
  report : g.report = f.report
  member : ∀ x, x ≠ e → g.members.get? x = f.members.get? x
  lag : g.detectionLag = f.detectionLag
  counting : g.lagRemaining = f.lagRemaining ∨ g.lagRemaining = f.detectionLag

namespace Fabric.AlikeBeyond
variable {e : Endpoint} {f g k : Fabric}

theorem refl (e : Endpoint) (f : Fabric) : f.AlikeBeyond e f :=
  ⟨rfl, rfl, fun _ _ => rfl, rfl, .inl rfl⟩

theorem trans (h : f.AlikeBeyond e g) (h' : g.AlikeBeyond e k) : f.AlikeBeyond e k where
  layout := h'.layout.trans h.layout
  report := h'.report.trans h.report
  member x hx := (h'.member x hx).trans (h.member x hx)
  lag := h'.lag.trans h.lag
  counting := by
    rcases h'.counting with same | anew
    · rcases h.counting with same' | anew'
      · exact .inl (same.trans same')
      · exact .inr (same.trans anew')
    · exact .inr (anew.trans h.lag)

theorem update (change : Member → Member) (f : Fabric) : f.AlikeBeyond e (f.update e change) where
  layout := rfl
  report := rfl
  member x hx := by
    rw [Fabric.update, touch, EndpointTable.get?_update, if_neg hx]
  lag := rfl
  counting := .inr rfl

end Fabric.AlikeBeyond

namespace Handle
variable {h : Handle} {s t : Seat}

theorem alikeBeyond_clearBlocks (h : Handle) (s : Seat) :
    s.fabric.AlikeBeyond h.id (h.clearBlocks s).fabric := .update _ _

theorem alikeBeyond_energize (h : Handle) (s : Seat) :
    s.fabric.AlikeBeyond h.id (h.energize s).fabric := by
  rw [energize]
  split
  · exact .update _ _
  · exact .refl _ _

theorem alikeBeyond_foldl {f : Seat → Endpoint → Seat}
    (hf : ∀ (s : Seat) (e : Endpoint), s.fabric.AlikeBeyond h.id (f s e).fabric)
    (peers : List Endpoint) (s : Seat) :
    s.fabric.AlikeBeyond h.id (peers.foldl f s).fabric := by
  induction peers generalizing s with
  | nil => exact .refl _ _
  | cons e peers ih => exact (hf s e).trans (ih (f s e))

theorem alikeBeyond_started (h : Handle) (s : Seat) :
    s.fabric.AlikeBeyond h.id (h.started s).fabric := by
  rw [started]
  have powered : s.fabric.AlikeBeyond h.id
      (if h.poweredOff s then h.clearBlocks (h.energize s) else s).fabric := by
    split
    · exact (h.alikeBeyond_energize s).trans (h.alikeBeyond_clearBlocks _)
    · exact .refl _ _
  generalize (if h.poweredOff s then h.clearBlocks (h.energize s) else s) = u at powered
  have anew : u.fabric.AlikeBeyond h.id (if h.startsAnew u then h.clearBlocks u else u).fabric := by
    split
    · exact h.alikeBeyond_clearBlocks u
    · exact .refl _ _
  exact (powered.trans anew).trans (.update _ _)

theorem alikeBeyond_poweredOn (h : Handle) (s : Seat) :
    s.fabric.AlikeBeyond h.id (h.poweredOn s).fabric := by
  rw [poweredOn]
  split
  · exact h.alikeBeyond_energize s
  · exact h.alikeBeyond_energize s

/-- A move changes the handle's own member alone. -/
theorem Move.alikeBeyond (m : h.Move s t) : s.fabric.AlikeBeyond h.id t.fabric := by
  cases m with
  | idle => exact .refl _ _
  | refused op => exact ⟨rfl, rfl, fun _ _ => rfl, rfl, .inl rfl⟩
  | started => exact h.alikeBeyond_started s
  | stopped =>
    rw [Handle.stopped]
    split
    · exact .refl _ _
    · split
      · exact .update _ _
      · exact .update _ _
  | killed =>
    rw [Handle.killed]
    split
    · exact .update _ _
    · exact .refl _ _
  | paused =>
    rw [Handle.paused]
    split
    · exact .refl _ _
    · split
      · exact .refl _ _
      · exact .update _ _
  | resumed =>
    rw [Handle.resumed]
    split
    · exact .update _ _
    · exact .refl _ _
  | disconnected peers => exact alikeBeyond_foldl (fun _ _ => .update _ _) _ _
  | reconnected peers => exact alikeBeyond_foldl (fun _ _ => .update _ _) _ _
  | destroyed => exact .update _ _
  | poweredOff => exact .trans (.update _ _) (.update _ _)
  | poweredOn => exact h.alikeBeyond_poweredOn s
  | rebooted => exact .trans (.update _ _) (.update _ _)

end Handle

end FaultLab.Simulation
