import FaultLab.Proofs.Commands
import FaultLab.Proofs.Requests

/-! # Sessions in a lab

A `Deed` is anything that can happen to a lab between two instants at which nobody is at work:
members are made, handles are told to do something (perhaps with a deadline that cuts them off),
clients are asked, and a test sets what it may set.  A session is a list of deeds, one after the
other (`Lab.after`).

`Lab.course` lists the fabrics of a session as far as the layout goes, with those inside the
requests, and `Lab.readings` the layouts that the clients are told.

* `Lab.perform_request` reduces a request in a lab to a request in the state of its client.
* `Lab.view_perform` says what the other deeds leave alone: the layout in place and the memories. -/

namespace FaultLab.Simulation

/-- What a test can set. -/
inductive Setting where
  | detectionLag (readings : Nat)
  | bootstrapFailures (count : Nat)
  | managementDown (down : Bool)
  | failOnce (e : Endpoint) (op : Operation)
  | failProvisioning (index : Nat)
  | latency (e : Endpoint) (span : Nat)

/-- Set it. -/
def Setting.apply : Setting → Fabric → Fabric
  | detectionLag readings => Fabric.setDetectionLag readings
  | bootstrapFailures count => Fabric.failBootstraps count
  | managementDown down => Fabric.setManagementDown down
  | failOnce e op => Fabric.failOnce e op
  | failProvisioning index => Fabric.failProvisioning index
  | latency e span => Fabric.setLatency e span

/-- What can happen to a lab. -/
inductive Deed where
  /-- Make a member, without a handle. -/
  | register (e : Endpoint)
  /-- Make a member, and a handle on it. -/
  | provision (flavor : Flavor) (index : Nat) (fixture : Fixture)
  /-- Make a handle on a member, which need not exist. -/
  | attach (h : Handle)
  /-- Tell a handle to do something, and cut it off at a deadline if there is one. -/
  | command (number : Nat) (h : Handle) (cmd : Command) (deadline : Option Nat)
  /-- Make a client. -/
  | connect
  /-- Ask a client. -/
  | request (number : Nat) (req : Request)
  | set (s : Setting)

/-- A deed is a request, or no client is asked anything. -/
theorem Deed.request_or_other (d : Deed) :
    (∃ number req, d = .request number req) ∨ ∀ number req, d ≠ .request number req := by
  cases d with
  | request number req => exact .inl ⟨number, req, rfl⟩
  | _ =>
    right
    intro number req same
    cases same

/-- Tell a member to do something until a deadline, if there is one. -/
def Command.within {σ : Type} (node : Node σ) (cmd : Command) : Option Nat → Call σ Unit
  | none => Call.bind (cmd.tell node).toCall fun _ => .done ()
  | some span => Call.bind (Call.limit span (cmd.tell node).toCall) fun _ => .done ()

namespace Lab

/-- The answer of a client, and the lab after it. -/
def asked (number : Nat) (req : Request) (lab : Lab) : Except ManagementError Answer × Lab :=
  Attempt.result (req.ask (client number)) lab

/-- The lab after a deed; nothing comes of a deed with a handle or client that is not there. -/
def perform (lab : Lab) : Deed → Lab
  | .register e => lab.onFabric (Fabric.register e)
  | .provision flavor index fixture =>
    (Attempt.result ((backend flavor).provision index fixture) lab).2
  | .attach h => ((attach h).result lab).2
  | .command number h cmd deadline =>
    if number < lab.handles.length then ((cmd.within (node number h) deadline).result lab).2
    else lab
  | .connect => (connect.result lab).2
  | .request number req => if number < lab.memories.length then (lab.asked number req).2 else lab
  | .set s => lab.onFabric s.apply

/-- The lab after some deeds. -/
def after (lab : Lab) (ds : List Deed) : Lab := ds.foldl perform lab

@[simp] theorem after_nil (lab : Lab) : lab.after [] = lab := rfl

@[simp] theorem after_cons (lab : Lab) (d : Deed) (ds : List Deed) :
    lab.after (d :: ds) = (lab.perform d).after ds := rfl

theorem after_append (lab : Lab) (ds es : List Deed) :
    lab.after (ds ++ es) = (lab.after ds).after es := List.foldl_append

theorem after_keeps {I : Lab → Prop} {ds : List Deed} {lab : Lab}
    (kept : ∀ d ∈ ds, ∀ lab, I lab → I (lab.perform d)) (hI : I lab) : I (lab.after ds) := by
  induction ds generalizing lab with
  | nil => exact hI
  | cons d ds ih =>
    rw [after_cons]
    exact ih (fun x hx => kept x (List.mem_cons_of_mem _ hx)) (kept d List.mem_cons_self lab hI)

/-! ### The history of a session -/

/-- The fabrics of a deed, as far as the layout goes. -/
def stages (lab : Lab) : Deed → List Fabric
  | .request number req =>
    if number < lab.memories.length then ((clientState number).get lab).stages req else []
  | d => [(lab.perform d).fabric]

/-- The fabrics of a session, as far as the layout goes. -/
def course (lab : Lab) : List Deed → List Fabric
  | [] => [lab.fabric]
  | d :: ds => lab.fabric :: (lab.stages d ++ (lab.perform d).course ds)

/-- A layout that a client was told. -/
structure Reading where
  client : Nat
  layout : Layout

/-- The layout that a client is told by a deed, if it is. -/
def reading? (lab : Lab) : Deed → Option Reading
  | .request number .getLayout =>
    if number < lab.memories.length then
      match (lab.asked number .getLayout).1 with
      | .ok (.layout l) => some ⟨number, l⟩
      | _ => none
    else none
  | _ => none

/-- The layouts that the clients are told in a session, in the order of time. -/
def readings (lab : Lab) : List Deed → List Reading
  | [] => []
  | d :: ds => (lab.reading? d).toList ++ (lab.perform d).readings ds

/-! ### Requests in the state of a client -/

theorem lawful_clientState (number : Nat) :
    (clientState number).LawfulOn fun lab => number < lab.memories.length where
  stays a lab h := by simpa [clientState] using h
  get_set a lab h := by simp [clientState, h]
  set_set a b lab := by simp [clientState]
  set_get lab h := by
    obtain ⟨f, handles, memories⟩ := lab
    simp [clientState, h]

theorem asked_eq {number : Nat} {lab : Lab} (h : number < lab.memories.length) (req : Request) :
    lab.asked number req = ((((clientState number).get lab).asked req).1,
      (clientState number).set (((clientState number).get lab).asked req).2 lab) := by
  rw [asked, client, Request.ask_focus]
  exact Call.result_focus (lawful_clientState number) _ h

theorem perform_request {number : Nat} {lab : Lab} (h : number < lab.memories.length)
    (req : Request) : lab.perform (.request number req) =
      (clientState number).set (((clientState number).get lab).asked req).2 lab := by
  rw [perform, if_pos h, asked_eq h]

/-! ### What the other deeds do -/

/-- Every step of a command in a lab is one of those that it can do at the seat of the handle. -/
theorem steps_within_does (number : Nat) (h : Handle) (cmd : Command) (deadline : Option Nat) :
    (cmd.within (node number h) deadline).Steps fun lab lab' =>
      ∃ t, h.Does cmd ((seat number).get lab) t ∧ lab' = (seat number).set t lab := by
  have steps := Call.Steps.focus (h.steps_does cmd) (seat number)
  have told : cmd.tell (node number h) = (cmd.tell h.node).focus (seat number) :=
    Command.tell_focus (seat number) h.node cmd
  cases deadline with
  | none =>
    rw [Command.within, told]
    exact .bind steps fun _ => trivial
  | some span =>
    rw [Command.within, told]
    exact .bind (.limit steps span) fun _ => trivial

theorem steps_within (number : Nat) (h : Handle) (cmd : Command) (deadline : Option Nat) :
    (cmd.within (node number h) deadline).Steps fun lab lab' =>
      ∃ t, h.Move ((seat number).get lab) t ∧ lab' = (seat number).set t lab := by
  refine (steps_within_does number h cmd deadline).mono ?_
  rintro lab lab' ⟨t, does, moved⟩
  exact ⟨t, does.move, moved⟩

theorem command_keeps {I : Lab → Prop} {number : Nat} {h : Handle}
    (kept : ∀ lab t, number < lab.handles.length → h.Move ((seat number).get lab) t → I lab →
      I ((seat number).set t lab))
    {lab : Lab} (hI : I lab) (cmd : Command) (deadline : Option Nat) :
    I (lab.perform (.command number h cmd deadline)) := by
  rw [perform]
  split
  · rename_i there
    have all := (steps_within number h cmd deadline).keeps
      (I := fun lab => number < lab.handles.length ∧ I lab) (s := lab)
      (by
        rintro lab _ ⟨t, move, rfl⟩ ⟨there, hI⟩
        exact ⟨by simpa [seat] using there, kept lab t there move hI⟩)
    exact (all ⟨there, hI⟩).2
  · exact hI

theorem result_provision (flavor : Flavor) (index : Nat) (fixture : Fixture) (lab : Lab) :
    Attempt.result ((backend flavor).provision index fixture) lab =
      if lab.fabric.failProvision.contains index then
        (.error (.ofNode (endpointAt index fixture.backend.memberPort) Operation.provision.name
          .injectedProvisioning), lab)
      else
        (.ok (node lab.handles.length ⟨endpointAt index fixture.backend.memberPort, flavor⟩),
          { lab with
            fabric := lab.fabric.register (endpointAt index fixture.backend.memberPort)
            handles := lab.handles ++ [firstCommand] }) := by
  change Attempt.result (provision flavor index fixture) lab = _
  rw [provision]
  simp only [Attempt.result_bind, Attempt.result_lift, Call.result_read]
  split
  · simp only [Attempt.result_give]
  · simp only [Attempt.result_bind, Attempt.result_lift, Attempt.result_log, Call.result_modify,
      attach, Call.result_atomically, onFabric]

theorem kept_apply (s : Setting) (f : Fabric) :
    (s.apply f).layout = f.layout ∧ (s.apply f).members = f.members := by
  cases s with
  | failOnce e op =>
    rw [Setting.apply, Fabric.failOnce]
    split
    · exact ⟨rfl, rfl⟩
    · exact ⟨rfl, rfl⟩
  | _ => exact ⟨rfl, rfl⟩

/-- Deeds other than requests change neither the layout in place nor what a client remembers. -/
theorem view_perform {lab : Lab} {d : Deed} (other : ∀ number req, d ≠ .request number req) :
    (lab.perform d).fabric.layout = lab.fabric.layout ∧
      ((lab.perform d).memories = lab.memories ∨
        (lab.perform d).memories = lab.memories ++ [none]) := by
  cases d with
  | register e => exact ⟨rfl, .inl rfl⟩
  | provision flavor index fixture =>
    rw [perform, result_provision]
    split
    · exact ⟨rfl, .inl rfl⟩
    · exact ⟨rfl, .inl rfl⟩
  | attach h => exact ⟨rfl, .inl rfl⟩
  | command number h cmd deadline =>
    let I := fun after : Lab =>
      after.fabric.layout = lab.fabric.layout ∧ after.memories = lab.memories
    have moves : ∀ lab t, number < lab.handles.length → h.Move ((seat number).get lab) t → I lab →
        I ((seat number).set t lab) := by
      rintro lab' t _ move ⟨layout, memories⟩
      exact ⟨move.alikeBeyond.layout.trans layout, memories⟩
    have kept := command_keeps moves ⟨rfl, rfl⟩ cmd deadline
    exact ⟨kept.1, .inl kept.2⟩
  | connect => exact ⟨rfl, .inr rfl⟩
  | request number req => exact absurd rfl (other number req)
  | set s => exact ⟨(kept_apply s lab.fabric).1, .inl rfl⟩

theorem stages_of_other {lab : Lab} {d : Deed} (other : ∀ number req, d ≠ .request number req) :
    lab.stages d = [(lab.perform d).fabric] := by
  cases d with
  | request number req => exact absurd rfl (other number req)
  | _ => rfl

/-! ### The course of a deed -/

theorem fabric_perform (lab : Lab) (d : Deed) :
    (lab.perform d).fabric = (lab.stages d).getLastD lab.fabric := by
  obtain ⟨number, req, rfl⟩ | other := d.request_or_other
  · rw [stages]
    split
    · rename_i there
      rw [perform_request there]
      exact ClientState.fabric_asked req _
    · rename_i missing
      rw [perform, if_neg missing]
      rfl
  · rw [stages_of_other other]
    rfl

theorem isChain_stages_request (lab : Lab) (number : Nat) (req : Request) :
    (lab.fabric :: lab.stages (.request number req)).IsChain Fabric.Stage := by
  rw [stages]
  split
  · exact ClientState.isChain_stages ((clientState number).get lab) req
  · exact .singleton _

/-- A request leaves the members alike, apart from the number of resets. -/
theorem sameGround_request (lab : Lab) (number : Nat) (req : Request) :
    lab.fabric.SameGround (lab.perform (.request number req)).fabric := by
  rw [fabric_perform]
  exact keeps_getLastD (isChain_stages_request lab number req)
    (fun _ _ stage same => same.trans stage.ground) (.refl _)

/-- From one fabric of a deed to the next, the layout in place makes a turn at most. -/
theorem isChain_stages (lab : Lab) (d : Deed) :
    (lab.fabric :: lab.stages d).IsChain Fabric.Turn := by
  obtain ⟨number, req, rfl⟩ | other := d.request_or_other
  · exact (isChain_stages_request lab number req).imp fun _ _ => Fabric.Stage.turn
  · rw [stages_of_other other]
    exact .cons_cons (.same (view_perform other).1) (.singleton _)

end Lab

end FaultLab.Simulation
