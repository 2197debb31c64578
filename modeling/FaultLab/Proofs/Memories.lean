import FaultLab.Management.Gateway
import FaultLab.Proofs.Requests
import FaultLab.Proofs.RoundTrips
import FaultLab.Proofs.Timelines

/-! # What clients remember

A client answers with the layout that it remembers, and looks at the cluster only when it remembers none.
While a request is made others are at work too: `Call.Amid` lets them move the state before each step of
a call, here in any way that leaves the memory of this client alone (`Elsewhere`).  A `Dialogue` is a list
of such exchanges of one client, one after the other.

A client is `UpToDate` if what it answers was read from the cluster after its own last change.  This
follows from what it remembers after one exchange (`Habits`, `Habits.upToDate`).  The client of a gateway
forgets after each change that goes well (`Contact.habits`); the simulated client forgets after some of them
(`ClientState.habits`), and after a reset it answers as before (`reset_leaves_memory`). -/

namespace FaultLab

open Simulation

/-! ### Calls amid others -/

namespace Call
variable {σ α β : Type} {R : σ → σ → Prop} {s t : σ} {found : List σ}

/-- A call begins in a state, others move on as `R` says before each of its steps, its steps find some
states, and it ends with an answer and in a state. -/
inductive Amid (R : σ → σ → Prop) : Call σ α → σ → List σ → α → σ → Prop
  | done (a : α) (s : σ) : Amid R (done a) s [] a s
  | pause (d : Nat) {rest : Call σ α} {s t : σ} {found : List σ} {a : α}
    (h : Amid R rest s found a t) : Amid R (pause d rest) s found a t
  | note (e : Event) {rest : Call σ α} {s t : σ} {found : List σ} {a : α}
    (h : Amid R rest s found a t) : Amid R (note e rest) s found a t
  | step (act : σ → σ) {rest : σ → Call σ α} {s u t : σ} {found : List σ} {a : α} (others : R s u)
    (h : Amid R (rest u) (act u) found a t) : Amid R (step act rest) s (u :: found) a t

namespace Amid

theorem of_bind {c : Call σ α} {f : α → Call σ β} {b : β} (h : (c.bind f).Amid R s found b t) :
    ∃ a u first rest, c.Amid R s first a u ∧ (f a).Amid R u rest b t ∧ found = first ++ rest := by
  induction c generalizing s found with
  | done a => exact ⟨a, s, [], found, .done a s, h, rfl⟩
  | pause d rest ih =>
    cases h with
    | pause _ h =>
      obtain ⟨a, u, first, later, before, after, rfl⟩ := ih h
      exact ⟨a, u, first, later, before.pause d, after, rfl⟩
  | note e rest ih =>
    cases h with
    | note _ h =>
      obtain ⟨a, u, first, later, before, after, rfl⟩ := ih h
      exact ⟨a, u, first, later, before.note e, after, rfl⟩
  | step act rest ih =>
    cases h with
    | step _ others h =>
      obtain ⟨a, u, first, later, before, after, rfl⟩ := ih _ h
      exact ⟨a, u, _ :: first, later, before.step act others, after, rfl⟩

theorem of_modify {f : σ → σ} {a : Unit} (h : (modify f).Amid R s found a t) :
    ∃ u, R s u ∧ found = [u] ∧ t = f u := by
  cases h with
  | step _ others h =>
    cases h
    exact ⟨_, others, rfl, rfl⟩

theorem of_read {f : σ → α} {a : α} (h : (read f).Amid R s found a t) :
    R s t ∧ found = [t] ∧ a = f t := by
  cases h with
  | step _ others h =>
    cases h
    exact ⟨others, rfl, rfl⟩

theorem keeps {S : σ → σ → Prop} {I : σ → Prop} {c : Call σ α} {a : α} (h : c.Amid R s found a t)
    (steps : c.Steps S) (own : ∀ s t, S s t → I s → I t) (others : ∀ s t, R s t → I s → I t)
    (hs : I s) : I t := by
  induction h with
  | done => exact hs
  | pause _ _ ih => exact ih steps hs
  | note _ _ ih => exact ih steps hs
  | step act moved _ ih =>
    obtain ⟨here, later⟩ := steps _
    exact ih later (own _ _ here (others _ _ moved hs))

theorem alone (refl : ∀ s, R s s) (c : Call σ α) (s : σ) :
    c.Amid R s ((c.timeline s).map Prod.snd) (c.result s).1 (c.result s).2 := by
  induction c generalizing s with
  | done a => exact .done a s
  | pause d rest ih =>
    have same : ((Call.pause d rest).timeline s).map Prod.snd = (rest.timeline s).map Prod.snd := by
      simp [timeline, later, Function.comp_def]
    rw [same]
    exact (ih s).pause d
  | note e rest ih => exact (ih s).note e
  | step act rest ih => exact (ih s (act s)).step act (refl s)

end Amid

end Call

namespace Attempt
variable {σ ε α β : Type} {R : σ → σ → Prop} {s t : σ} {found : List σ}

theorem amid_bind {c : Attempt σ ε α} {f : α → Attempt σ ε β} {r : Except ε β}
    (h : (c >>= f).toCall.Amid R s found r t) :
    (∃ e, r = .error e ∧ c.toCall.Amid R s found (.error e) t) ∨
      ∃ a u first rest, c.toCall.Amid R s first (.ok a) u ∧ (f a).toCall.Amid R u rest r t ∧
        found = first ++ rest := by
  obtain ⟨outcome, u, first, rest, before, after, rfl⟩ := Call.Amid.of_bind (c := c.toCall) h
  cases outcome with
  | ok a => exact .inr ⟨a, u, first, rest, before, after, rfl⟩
  | error e =>
    cases after
    exact .inl ⟨e, rfl, by rwa [List.append_nil]⟩

theorem amid_lift {c : Call σ α} {r : Except ε α}
    (h : (lift c : Attempt σ ε α).toCall.Amid R s found r t) :
    ∃ a, r = .ok a ∧ c.Amid R s found a t := by
  obtain ⟨a, u, first, rest, before, after, rfl⟩ := Call.Amid.of_bind (c := c) h
  cases after
  exact ⟨a, rfl, by rwa [List.append_nil]⟩

theorem amid_lift_bind {c : Call σ α} {f : α → Attempt σ ε β} {r : Except ε β}
    (h : (lift c >>= f).toCall.Amid R s found r t) : ∃ a u first rest, c.Amid R s first a u ∧
      (f a).toCall.Amid R u rest r t ∧ found = first ++ rest := by
  rcases amid_bind h with ⟨e, -, failed⟩ | ⟨a, u, first, rest, before, after, split⟩
  · obtain ⟨_, none, -⟩ := amid_lift failed
    cases none
  · obtain ⟨_, same, before⟩ := amid_lift before
    cases same
    exact ⟨a, u, first, rest, before, after, split⟩

theorem amid_map {c : Attempt σ ε α} {f : α → β} {r : Except ε β}
    (h : (c >>= fun a => pure (f a)).toCall.Amid R s found r t) :
    (∃ e, r = .error e ∧ c.toCall.Amid R s found (.error e) t) ∨
      ∃ a, r = .ok (f a) ∧ c.toCall.Amid R s found (.ok a) t := by
  rcases amid_bind h with failed | ⟨a, u, first, rest, before, after, rfl⟩
  · exact .inl failed
  · cases after
    exact .inr ⟨a, rfl, by rwa [List.append_nil]⟩

end Attempt

/-! ### What a client is asked amid others -/

/-- Others may do anything that leaves the memory of a client as it is. -/
def Elsewhere {σ : Type} (memory : σ → Option Layout) (s t : σ) : Prop := memory t = memory s

/-- A request to a client that is over. -/
structure Exchange (σ : Type) where
  request : Request
  /-- The states that the steps of the request have found. -/
  found : List σ
  outcome : Except ManagementError Answer
  /-- The state after the last step. -/
  left : σ

section clients
variable {σ : Type} {client : ManagementClient σ} {memory : σ → Option Layout}
  {look : Attempt σ ManagementError Layout} {clears : Exchange σ → Prop} {s t u : σ} {x : Exchange σ}
  {xs : List (Exchange σ)} {l : Layout}

namespace Exchange

/-- Whether an exchange may begin in a state, amid others. -/
def Happens (client : ManagementClient σ) (memory : σ → Option Layout) (s : σ) (x : Exchange σ) : Prop :=
  (x.request.ask client).toCall.Amid (Elsewhere memory) s x.found x.outcome x.left

/-- Whether something was to be done, and has gone well. -/
def WentWell (x : Exchange σ) : Prop := x.outcome = .ok .done

/-- Whether the client remembered no layout when it was asked for one, looked, and found this one. -/
def Reads (memory : σ → Option Layout) (look : Attempt σ ManagementError Layout) (l : Layout)
    (x : Exchange σ) : Prop :=
  x.request = .getLayout ∧ ∃ s found t rest, x.found = s :: (found ++ rest) ∧ memory s = none ∧
    look.toCall.Amid (Elsewhere memory) s found (.ok l) t

/-- The exchange for which the others stand still. -/
def alone (client : ManagementClient σ) (req : Request) (s : σ) : Exchange σ where
  request := req
  found := ((req.ask client).toCall.timeline s).map Prod.snd
  outcome := ((req.ask client).result s).1
  left := ((req.ask client).result s).2

theorem happens_alone (client : ManagementClient σ) (memory : σ → Option Layout) (req : Request) (s : σ) :
    (alone client req s).Happens client memory s :=
  Call.Amid.alone (R := Elsewhere memory) (fun s => (rfl : memory s = memory s)) (req.ask client).toCall s

end Exchange

/-- What one client is asked, one request after the other. -/
inductive Dialogue (client : ManagementClient σ) (memory : σ → Option Layout) :
    σ → List (Exchange σ) → σ → Prop
  | silent (s : σ) : Dialogue client memory s [] s
  | more {s t u : σ} {xs : List (Exchange σ)} {x : Exchange σ} (h : Dialogue client memory s xs t)
    (others : Elsewhere memory t u) (happens : x.Happens client memory u) :
    Dialogue client memory s (xs ++ [x]) x.left

theorem Dialogue.more_alone (h : Dialogue client memory s xs t) (req : Request)
    (others : Elsewhere memory t u) :
    Dialogue client memory s (xs ++ [.alone client req u]) (Exchange.alone client req u).left :=
  h.more others (Exchange.happens_alone client memory req u)

/-- A client is up to date if what it answers was read after the last request that was to clear its memory,
and if it remembers nothing after it could not answer. -/
structure UpToDate (client : ManagementClient σ) (memory : σ → Option Layout)
    (look : Attempt σ ManagementError Layout) (clears : Exchange σ → Prop) : Prop where
  told : ∀ {s xs t}, Dialogue client memory s xs t → ∀ before x after l, xs = before ++ x :: after →
    x.outcome = .ok (.layout l) → ∀ as y bs, before = as ++ y :: bs → clears y →
      ∃ z ∈ bs ++ [x], z.Reads memory look l
  failed : ∀ {s xs t}, Dialogue client memory s xs t → ∀ x ∈ xs, x.request = .getLayout →
    ∀ cause, x.outcome = .error cause → memory x.left = none

/-- What a client remembers after one exchange. -/
structure Habits (client : ManagementClient σ) (memory : σ → Option Layout)
    (look : Attempt σ ManagementError Layout) (clears : Exchange σ → Prop) : Prop where
  moves : ∀ {s} {x : Exchange σ}, x.Happens client memory s → memory x.left = none ∨
    memory x.left = memory s ∨ ∃ l, memory x.left = some l ∧ x.Reads memory look l
  told : ∀ {s l} {x : Exchange σ}, x.Happens client memory s → x.outcome = .ok (.layout l) →
    memory x.left = some l
  failed : ∀ {s cause} {x : Exchange σ}, x.Happens client memory s → x.request = .getLayout →
    x.outcome = .error cause → memory x.left = none
  cleared : ∀ {s} {x : Exchange σ}, x.Happens client memory s → clears x → memory x.left = none

theorem Dialogue.exists_happens (h : Dialogue client memory s xs t) {as bs : List (Exchange σ)}
    (split : xs = as ++ x :: bs) : ∃ u v, Dialogue client memory s as u ∧ Elsewhere memory u v ∧
      x.Happens client memory v := by
  induction h generalizing bs with
  | silent => cases as <;> cases split
  | @more t u xs y h others happens ih =>
    rcases List.eq_nil_or_concat bs with rfl | ⟨cs, z, rfl⟩
    · obtain ⟨rfl, last⟩ := List.append_inj' split rfl
      cases last
      exact ⟨t, u, h, others, happens⟩
    · have longer : xs ++ [y] = (as ++ x :: cs) ++ [z] := by simpa using split
      obtain ⟨rfl, -⟩ := List.append_inj' longer rfl
      exact ih rfl

/-- What a client remembers was read after the last request that was to clear its memory. -/
theorem Habits.remembered (habits : Habits client memory look clears)
    (h : Dialogue client memory s xs t) (there : memory t = some l) :
    ∀ as y bs, xs = as ++ y :: bs → clears y → ∃ z ∈ bs, z.Reads memory look l := by
  induction h with
  | silent => exact fun as y bs split => by cases as <;> cases split
  | @more t u xs x h others happens ih =>
    intro as y bs split clear
    rcases List.eq_nil_or_concat bs with rfl | ⟨cs, z, rfl⟩
    · obtain ⟨rfl, last⟩ := List.append_inj' split rfl
      cases last
      rw [habits.cleared happens clear] at there
      cases there
    · have longer : xs ++ [x] = (as ++ y :: cs) ++ [z] := by simpa using split
      obtain ⟨rfl, last⟩ := List.append_inj' longer rfl
      cases last
      rcases habits.moves happens with none | same | ⟨l', new, reads⟩
      · rw [none] at there
        cases there
      · obtain ⟨z, hz, reads⟩ := ih (others.symm.trans (same.symm.trans there)) as y cs rfl clear
        exact ⟨z, by simp [hz], reads⟩
      · obtain rfl : l' = l := Option.some.inj (new.symm.trans there)
        exact ⟨x, by simp, reads⟩

theorem Habits.upToDate (habits : Habits client memory look clears) :
    UpToDate client memory look clears := by
  constructor
  · intro s xs t h before x after l split told as y bs parts clear
    obtain ⟨u, v, earlier, others, happens⟩ := h.exists_happens split
    have there := habits.told happens told
    refine habits.remembered (earlier.more others happens) there as y (bs ++ [x]) ?_ clear
    rw [parts, List.append_assoc, List.cons_append]
  · intro s xs t h x hx asked cause refused
    obtain ⟨as, bs, split⟩ := List.append_of_mem hx
    obtain ⟨u, v, -, -, happens⟩ := h.exists_happens split
    exact habits.failed happens asked refused

/-! ### Reading from memory -/

/-- The remembered layout, or else one that is looked for and kept. -/
def recollect (memory : σ → Option Layout) (keep : Layout → σ → σ)
    (look : Attempt σ ManagementError Layout) : Attempt σ ManagementError Layout := do
  match ← Attempt.lift (Call.read memory) with
  | some l => return l
  | none =>
    let l ← look
    Attempt.lift (Call.modify (keep l))
    return l

/-- A layout is remembered afterwards if it was before or if it has been read, and none after a failure. -/
theorem amid_recollect {keep : Layout → σ → σ} {found : List σ} {r : Except ManagementError Layout}
    (keeps : ∀ l s, memory (keep l s) = some l) (looks : look.Steps (Elsewhere memory))
    (h : (recollect memory keep look).toCall.Amid (Elsewhere memory) s found r t) :
    (∃ l, r = .ok l ∧ memory t = some l ∧ (memory s = some l ∨
      ∃ u first v rest, found = u :: (first ++ rest) ∧ memory u = none ∧
        look.toCall.Amid (Elsewhere memory) u first (.ok l) v)) ∨
    (∃ cause, r = .error cause) ∧ memory t = none := by
  obtain ⟨o, u, first, rest, recalled, goesOn, rfl⟩ := Attempt.amid_lift_bind h
  obtain ⟨others, rfl, rfl⟩ := Call.Amid.of_read recalled
  cases there : memory u with
  | some l =>
    rw [there] at goesOn
    cases goesOn
    exact .inl ⟨l, rfl, there, .inl (others.symm.trans there)⟩
  | none =>
    rw [there] at goesOn
    rcases Attempt.amid_bind goesOn with ⟨e, rfl, failed⟩ | ⟨l, v, first, _, looked, keeping, rfl⟩
    · refine .inr ⟨⟨e, rfl⟩, ?_⟩
      exact failed.keeps looks (fun s t same none => same.trans none) (fun s t same none => same.trans none)
        there
    · obtain ⟨_, w, _, _, kept, answer, rfl⟩ := Attempt.amid_lift_bind keeping
      obtain ⟨v', -, -, rfl⟩ := Call.Amid.of_modify kept
      cases answer
      exact .inl ⟨l, rfl, keeps l v', .inr ⟨u, first, v, _, rfl, there, looked⟩⟩

/-! ### Changing something -/

/-- Whether an attempt has the client forget its layout if it goes well, and leaves the memory alone if not. -/
def Drops (memory : σ → Option Layout) (c : Attempt σ ManagementError Unit) : Prop :=
  ∀ s found r t, c.toCall.Amid (Elsewhere memory) s found r t →
    r = .ok () ∧ memory t = none ∨ (∃ cause, r = .error cause) ∧ memory t = memory s

/-- Whether an attempt leaves the memory of the client alone. -/
def LeavesAlone {α : Type} (memory : σ → Option Layout) (c : Attempt σ ManagementError α) : Prop :=
  ∀ s found r t, c.toCall.Amid (Elsewhere memory) s found r t → memory t = memory s

theorem leavesAlone_of_steps {α : Type} {c : Attempt σ ManagementError α}
    (steps : c.Steps (Elsewhere memory)) : LeavesAlone memory c := by
  intro s found r t h
  exact h.keeps (I := fun t => memory t = memory s) steps (fun _ _ same kept => same.trans kept)
    (fun _ _ same kept => same.trans kept) rfl

theorem drops_of_forget {α : Type} {c : Attempt σ ManagementError α} {forget : σ → σ}
    (steps : c.Steps (Elsewhere memory)) (forgets : ∀ s, memory (forget s) = none) :
    Drops memory (c >>= fun _ => Attempt.lift (Call.modify forget)) := by
  intro s found r t h
  rcases Attempt.amid_bind h with ⟨e, rfl, failed⟩ | ⟨a, u, first, rest, -, forgot, -⟩
  · exact .inr ⟨⟨e, rfl⟩, leavesAlone_of_steps steps s found _ t failed⟩
  · obtain ⟨_, rfl, modified⟩ := Attempt.amid_lift forgot
    obtain ⟨v, -, -, rfl⟩ := Call.Amid.of_modify modified
    exact .inl ⟨rfl, forgets v⟩

/-- Whether an attempt has the client remember nothing new. -/
def Tame (memory : σ → Option Layout) (c : Attempt σ ManagementError Unit) : Prop :=
  ∀ s found r t, c.toCall.Amid (Elsewhere memory) s found r t → memory t = none ∨ memory t = memory s

theorem Drops.tame {c : Attempt σ ManagementError Unit} (h : Drops memory c) : Tame memory c := by
  intro s found r t amid
  rcases h s found r t amid with ⟨-, none⟩ | ⟨-, same⟩
  · exact .inl none
  · exact .inr same

theorem Drops.eq_none {c : Attempt σ ManagementError Unit} {found : List σ} (h : Drops memory c)
    (amid : c.toCall.Amid (Elsewhere memory) s found (.ok ()) t) : memory t = none := by
  rcases h s found _ t amid with ⟨-, none⟩ | ⟨⟨cause, no⟩, -⟩
  · exact none
  · cases no

theorem LeavesAlone.tame {c : Attempt σ ManagementError Unit} (h : LeavesAlone memory c) :
    Tame memory c := fun s found r t amid => .inr (h s found r t amid)

/-- What a client does for a request that is to change something. -/
def deed? (client : ManagementClient σ) : Request → Option (Attempt σ ManagementError Unit)
  | .bootstrap layout => some (client.bootstrap layout)
  | .add e patience => some (client.add e patience)
  | .remove e patience => some (client.remove e patience)
  | .reset e => some (client.reset e)
  | .getLayout | .getStatus | .invalidate => none

/-- A request that is to change something is answered with no more than that this was done. -/
theorem ask_deed {req : Request} {c : Attempt σ ManagementError Unit} (h : deed? client req = some c) :
    req.ask client = c >>= fun _ => pure Answer.done := by
  cases req <;> cases h <;> rfl

theorem Exchange.Happens.deed {c : Attempt σ ManagementError Unit} (h : x.Happens client memory s)
    (hc : deed? client x.request = some c) : ∃ r, x.outcome = r.map (fun _ => Answer.done) ∧
      c.toCall.Amid (Elsewhere memory) s x.found r x.left := by
  rw [Exchange.Happens, ask_deed hc] at h
  rcases Attempt.amid_map h with ⟨cause, failed, amid⟩ | ⟨_, well, amid⟩
  · exact ⟨.error cause, failed, amid⟩
  · exact ⟨.ok (), well, amid⟩

/-! ### The manners of a client -/

/-- How a client goes about its memory: it answers with what it remembers, or else looks and keeps what it
finds; it forgets when told to; and otherwise it remembers nothing new. -/
structure Manners (client : ManagementClient σ) (memory : σ → Option Layout)
    (look : Attempt σ ManagementError Layout) : Prop where
  getLayout : ∃ keep : Layout → σ → σ, (∀ l s, memory (keep l s) = some l) ∧
    client.getLayout = recollect memory keep look
  looks : look.Steps (Elsewhere memory)
  status : LeavesAlone memory client.getStatus
  invalidate : ∀ {s found a t}, client.invalidate.Amid (Elsewhere memory) s found a t → memory t = none
  deeds : ∀ req, ∀ c ∈ deed? client req, Tame memory c

namespace Manners

theorem wentWell_cases (m : Manners client memory look) (h : x.Happens client memory s)
    (well : x.WentWell) : memory x.left = none ∨ ∃ c ∈ deed? client x.request,
      c.toCall.Amid (Elsewhere memory) s x.found (.ok ()) x.left := by
  have deed : ∀ c, deed? client x.request = some c → ∃ c ∈ deed? client x.request,
      c.toCall.Amid (Elsewhere memory) s x.found (.ok ()) x.left := by
    intro c hc
    obtain ⟨r, outcome, amid⟩ := h.deed hc
    cases r with
    | ok done => exact ⟨c, hc, amid⟩
    | error cause => cases well.symm.trans outcome
  obtain ⟨req, found, outcome, left⟩ := x
  obtain rfl : outcome = .ok .done := well
  cases req with
  | getLayout => rcases Attempt.amid_map h with ⟨_, none, -⟩ | ⟨_, none, -⟩ <;> cases none
  | getStatus => rcases Attempt.amid_map h with ⟨_, none, -⟩ | ⟨_, none, -⟩ <;> cases none
  | invalidate =>
    rcases Attempt.amid_map h with ⟨_, none, -⟩ | ⟨_, -, amid⟩
    · cases none
    · obtain ⟨_, -, amid⟩ := Attempt.amid_lift amid
      exact .inl (m.invalidate amid)
  | bootstrap l => exact .inr (deed _ rfl)
  | add e p => exact .inr (deed _ rfl)
  | remove e p => exact .inr (deed _ rfl)
  | reset e => exact .inr (deed _ rfl)

/-- What an exchange leaves in memory: what it answers, which was there before or was read, or nothing, or
what was there, if it was about something else. -/
theorem exchange_cases (m : Manners client memory look) (h : x.Happens client memory s) :
    (∃ l, x.outcome = .ok (.layout l) ∧ memory x.left = some l ∧
      (memory s = some l ∨ x.Reads memory look l)) ∨
    (∃ cause, x.outcome = .error cause) ∧ memory x.left = none ∨
    x.request ≠ .getLayout ∧ (∀ l, x.outcome ≠ .ok (.layout l)) ∧
      (memory x.left = none ∨ memory x.left = memory s) := by
  have deed : ∀ c, deed? client x.request = some c → (∀ l, x.outcome ≠ .ok (.layout l)) ∧
      (memory x.left = none ∨ memory x.left = memory s) := by
    intro c hc
    obtain ⟨r, outcome, amid⟩ := h.deed hc
    refine ⟨fun l told => ?_, m.deeds x.request c hc _ _ _ _ amid⟩
    cases r <;> cases outcome.symm.trans told
  obtain ⟨req, found, outcome, left⟩ := x
  cases req with
  | getLayout =>
    obtain ⟨keep, keeps, recalls⟩ := m.getLayout
    have asked := Attempt.amid_map (c := client.getLayout) h
    rw [recalls] at asked
    rcases asked with ⟨cause, rfl, amid⟩ | ⟨l, rfl, amid⟩
    · rcases amid_recollect keeps m.looks amid with ⟨l, none, -⟩ | ⟨-, none⟩
      · cases none
      · exact .inr (.inl ⟨⟨cause, rfl⟩, none⟩)
    · rcases amid_recollect keeps m.looks amid with ⟨l, same, there, known⟩ | ⟨⟨cause, none⟩, -⟩
      · cases same
        exact .inl ⟨l, rfl, there, known.imp_right fun new => ⟨rfl, new⟩⟩
      · cases none
  | getStatus =>
    refine .inr (.inr ⟨by simp, ?_⟩)
    rcases Attempt.amid_map (c := client.getStatus) h with ⟨cause, rfl, amid⟩ | ⟨r, rfl, amid⟩
    · exact ⟨fun l same => (by cases same), .inr (m.status _ _ _ _ amid)⟩
    · exact ⟨fun l same => (by cases same), .inr (m.status _ _ _ _ amid)⟩
  | invalidate =>
    refine .inr (.inr ⟨by simp, ?_⟩)
    rcases Attempt.amid_map h with ⟨cause, -, amid⟩ | ⟨_, rfl, amid⟩
    · obtain ⟨_, none, -⟩ := Attempt.amid_lift amid
      cases none
    · obtain ⟨_, -, amid⟩ := Attempt.amid_lift amid
      exact ⟨fun l same => (by cases same), .inl (m.invalidate amid)⟩
  | bootstrap l => exact .inr (.inr ⟨by simp, deed _ rfl⟩)
  | add e p => exact .inr (.inr ⟨by simp, deed _ rfl⟩)
  | remove e p => exact .inr (.inr ⟨by simp, deed _ rfl⟩)
  | reset e => exact .inr (.inr ⟨by simp, deed _ rfl⟩)

theorem habits (m : Manners client memory look)
    (cleared : ∀ {s} {x : Exchange σ}, x.Happens client memory s → clears x → memory x.left = none) :
    Habits client memory look clears where
  moves {s x} h := by
    rcases m.exchange_cases h with ⟨l, -, there, known | reads⟩ | ⟨-, none⟩ | ⟨-, -, rest⟩
    · exact .inr (.inl (there.trans known.symm))
    · exact .inr (.inr ⟨l, there, reads⟩)
    · exact .inl none
    · exact rest.imp_right .inl
  told {s l x} h told := by
    rcases m.exchange_cases h with ⟨l', same, there, -⟩ | ⟨⟨cause, refused⟩, -⟩ | ⟨-, other, -⟩
    · cases same.symm.trans told
      exact there
    · cases refused.symm.trans told
    · exact absurd told (other l)
  failed {s cause x} h asked refused := by
    rcases m.exchange_cases h with ⟨l, told, -⟩ | ⟨-, none⟩ | ⟨other, -⟩
    · cases told.symm.trans refused
    · exact none
    · exact absurd asked other
  cleared := cleared

end Manners

end clients

/-! ### The client of a gateway -/

namespace Gateway.Contact
variable {σ : Type} {c : Contact σ}

/-- The layout that the client of a contact remembers. -/
def remembered (c : Contact σ) (s : σ) : Option Layout := (c.memory.get s).layout

/-- How the client of a contact looks at the cluster. -/
def look (c : Contact σ) : Attempt σ ManagementError Layout := c.read "layout" (Layout.decode .direct)

section steps
variable (lawful : c.memory.Lawful) (carried : ∀ r, (c.carrier r).Steps (Elsewhere c.remembered))
include lawful carried

theorem steps_askEach (method : Http.Method) (path : String) (body : Option Document)
    (tried : List Endpoint) (is : List Nat) :
    (c.askEach method path body tried is).Steps (Elsewhere c.remembered) := by
  induction is generalizing tried with
  | nil => trivial
  | cons i is ih =>
    rw [askEach]
    refine .bind (.lift (carried _)) fun reply => ?_
    cases reply with
    | answered r =>
      refine .bind (.lift fun s => ⟨?_, trivial⟩) fun _ => trivial
      simp only [Elsewhere, remembered, Part.modify, lawful.get_set]
    | refused => exact .bind (.log _) fun _ => ih _
    | brokenOff => trivial
    | unusable => trivial

theorem steps_ask (method : Http.Method) (path : String) (body : Option Document) :
    (c.ask method path body).Steps (Elsewhere c.remembered) := by
  refine .bind (.lift (.read fun s => rfl)) fun m => ?_
  exact steps_askEach lawful carried method path body [] _

theorem steps_read {α : Type} (path : String) (item : Decoder α) :
    (c.read path item).Steps (Elsewhere c.remembered) := by
  refine .bind (steps_ask lawful carried .get path none) fun r => ?_
  cases Json.decode item r.body <;> trivial

theorem drops_change (method : Http.Method) (path : String) (body : Document) :
    Drops c.remembered (c.change method path body) := by
  refine drops_of_forget (steps_ask lawful carried method path (some body)) fun s => ?_
  simp only [remembered, Part.modify, lawful.get_set]

theorem drops_deed (req : Request) : ∀ op ∈ deed? c.client req, Drops c.remembered op := by
  intro op hop
  cases req <;> cases hop <;> exact drops_change lawful carried _ _ _

theorem manners : Manners c.client c.remembered c.look where
  getLayout := by
    refine ⟨fun l => c.memory.modify fun m => { m with layout := some l }, fun l s => ?_, rfl⟩
    simp only [remembered, Part.modify, lawful.get_set]
  looks := steps_read lawful carried "layout" _
  status := leavesAlone_of_steps (steps_read lawful carried "status" _)
  invalidate h := by
    obtain ⟨u, -, -, rfl⟩ := Call.Amid.of_modify h
    simp only [remembered, Part.modify, lawful.get_set]
  deeds req op hop := (drops_deed lawful carried req op hop).tame

theorem habits : Habits c.client c.remembered c.look Exchange.WentWell := by
  have m := manners lawful carried
  refine m.habits fun {s x} h well => ?_
  rcases m.wentWell_cases h well with none | ⟨op, hop, amid⟩
  · exact none
  · exact (drops_deed lawful carried x.request op hop).eq_none amid

end steps

end Gateway.Contact

/-! ### The simulated client -/

namespace Simulation.ClientState

/-- How the simulated client looks at the cluster. -/
def look : Attempt ClientState ManagementError Layout := do
  let f ← observe
  match f.layout with
  | some l => return l
  | none => Attempt.give (.error .notBootstrapped)

/-- What goes before the layout is forgotten after a change of the members. -/
def put (e : Endpoint) (next : Layout → Attempt ClientState ManagementError (Option Layout)) :
    Attempt ClientState ManagementError Unit := do
  let f ← observe
  let l ← Attempt.give (f.changeable e)
  match ← next l with
  | some layout => Attempt.lift (commit layout)
  | none => pure ()

theorem getLayout_eq_recollect :
    getLayout = recollect memory (fun l d => { d with memory := some l }) look := by
  refine congrArg (bind (Attempt.lift (Call.read memory))) (funext fun o => ?_)
  cases o with
  | some l => rfl
  | none =>
    simp only [look, bind_assoc]
    refine congrArg (bind observe) (funext fun f => ?_)
    cases f.layout <;> rfl

theorem change_eq_put (e : Endpoint) (next : Layout → Attempt ClientState ManagementError (Option Layout)) :
    change e next = put e next >>= fun _ => Attempt.lift forget := by
  simp only [change, put, bind_assoc]
  refine congrArg (bind observe) (funext fun f => ?_)
  refine congrArg (bind (Attempt.give (f.changeable e))) (funext fun l => ?_)
  refine congrArg (bind (next l)) (funext fun o => ?_)
  cases o <;> rfl

theorem steps_onFabric {α : Type} (act : Fabric → α × Fabric) :
    (onFabric act).Steps (Elsewhere memory) := .atomically fun _ => rfl

theorem steps_observe : observe.Steps (Elsewhere memory) := by
  refine .bind (.lift (steps_onFabric _)) fun (before, seen) => .give_bind fun f _ => ?_
  exact .bind (.lift (.logAll _)) fun _ => trivial

theorem steps_commit (l : Layout) : (commit l).Steps (Elsewhere memory) :=
  .bind (steps_onFabric _) fun _ => .logAll _

theorem steps_look : look.Steps (Elsewhere memory) := by
  refine .bind steps_observe fun f => ?_
  cases f.layout <;> trivial

theorem steps_getStatus : getStatus.Steps (Elsewhere memory) := by
  refine .bind steps_observe fun f => ?_
  cases f.report <;> trivial

theorem steps_withServer (e : Endpoint) (l : Layout) :
    (withServer e l).Steps (Elsewhere memory) := by
  unfold withServer
  split
  · trivial
  · refine .bind (.lift (.read fun _ => rfl)) fun up => ?_
    cases up <;> trivial

theorem steps_put {next : Layout → Attempt ClientState ManagementError (Option Layout)} (e : Endpoint)
    (steps : ∀ l, (next l).Steps (Elsewhere memory)) : (put e next).Steps (Elsewhere memory) := by
  refine .bind steps_observe fun f => .give_bind fun l _ => .bind (steps l) fun o => ?_
  cases o with
  | some m => exact .lift (steps_commit m)
  | none => trivial

theorem drops_change {next : Layout → Attempt ClientState ManagementError (Option Layout)} (e : Endpoint)
    (steps : ∀ l, (next l).Steps (Elsewhere memory)) : Drops memory (change e next) := by
  rw [change_eq_put]
  exact drops_of_forget (steps_put e steps) fun _ => rfl

/-- A first layout is taken in only if there is none in place. -/
theorem layout_of_submit {l : Layout} {f : Fabric} {fresh : Bool} (h : (f.submit l).1 = .ok fresh) :
    fresh = true ↔ f.layout = none := by
  unfold Fabric.submit at h
  simp only at h
  split at h
  · cases h
  · split at h
    · cases h
    · split at h
      · rename_i present there
        split at h
        · cases h
          simp [there]
        · cases h
      · rename_i none
        split at h
        · cases h
          simp [none]
        · cases h

/-- A first layout has the client forget if it is put in place, and leaves the memory alone if not. -/
theorem amid_bootstrap {l : Layout} {d t : ClientState} {found : List ClientState}
    {r : Except ManagementError Unit} (h : (bootstrap l).toCall.Amid (Elsewhere memory) d found r t) :
    ∃ u rest, found = u :: rest ∧ (t.memory = none ∧ u.fabric.layout = none ∨
      t.memory = d.memory ∧ (r = .ok () → u.fabric.layout ≠ none)) := by
  obtain ⟨o, v, first, rest, submitted, goesOn, rfl⟩ := Attempt.amid_lift_bind h
  cases submitted with
  | @step _ _ _ u _ _ _ others answer =>
    cases answer
    refine ⟨u, rest, rfl, ?_⟩
    have kept : u.memory = d.memory := others
    have fresh : ∀ fresh, (u.fabric.submit l).1 = .ok fresh → (fresh = true ↔ u.fabric.layout = none) :=
      fun _ => layout_of_submit
    revert goesOn fresh
    generalize (u.fabric.submit l).1 = outcome
    intro goesOn fresh
    cases outcome with
    | error cause =>
      cases goesOn
      exact .inr ⟨kept, fun none => by cases none⟩
    | ok accepted =>
      cases accepted with
      | false =>
        cases goesOn
        refine .inr ⟨kept, fun _ none => ?_⟩
        cases (fresh false rfl).mpr none
      | true =>
        refine .inl ⟨?_, (fresh true rfl).mp rfl⟩
        obtain ⟨_, _, _, _, -, forgetting, -⟩ := Attempt.amid_lift_bind (c := commit l) goesOn
        obtain ⟨_, _, _, _, forgot, noted, -⟩ := Attempt.amid_lift_bind forgetting
        obtain ⟨_, -, -, rfl⟩ := Call.Amid.of_modify forgot
        cases noted with
        | note _ ended =>
          cases ended
          rfl

theorem drops_add (e : Endpoint) (patience : Patience) : Drops memory (client.add e patience) :=
  drops_change e (steps_withServer e)

theorem drops_remove (e : Endpoint) (patience : Patience) :
    Drops memory (client.remove e patience) := by
  have steps : ∀ l, (Attempt.give (withoutServer e l) :
      Attempt ClientState ManagementError (Option Layout)).Steps (Elsewhere memory) := fun _ => trivial
  exact drops_change e steps

theorem leavesAlone_reset (e : Endpoint) : LeavesAlone memory (client.reset e) :=
  leavesAlone_of_steps (steps_onFabric (Fabric.resetMember e))

/-- Whether an exchange has the simulated client forget if it goes well: the first layout only if there was
none in place, and a reset never. -/
def Forgets (x : Exchange ClientState) : Prop :=
  match x.request with
  | .bootstrap _ => ∃ d ∈ x.found.head?, d.fabric.layout = none
  | .reset _ => False
  | _ => True

theorem manners : Manners client memory look where
  getLayout := ⟨_, fun _ _ => rfl, getLayout_eq_recollect⟩
  looks := steps_look
  status := leavesAlone_of_steps steps_getStatus
  invalidate h := by
    obtain ⟨u, -, -, rfl⟩ := Call.Amid.of_modify h
    rfl
  deeds req op hop := by
    cases req with
    | bootstrap l =>
      cases hop
      intro d found r t h
      obtain ⟨u, rest, -, ⟨none, -⟩ | ⟨same, -⟩⟩ := amid_bootstrap h
      · exact .inl none
      · exact .inr same
    | add e p =>
      cases hop
      exact (drops_add e p).tame
    | remove e p =>
      cases hop
      exact (drops_remove e p).tame
    | reset e =>
      cases hop
      exact (leavesAlone_reset e).tame
    | _ => cases hop

theorem habits : Habits client memory look fun x => x.WentWell ∧ Forgets x := by
  refine manners.habits fun {d x} h ⟨well, forgets⟩ => ?_
  rcases manners.wentWell_cases h well with none | ⟨op, hop, amid⟩
  · exact none
  obtain ⟨req, found, outcome, left⟩ := x
  cases req with
  | bootstrap l =>
    cases hop
    obtain ⟨u, rest, rfl, ⟨none, -⟩ | ⟨-, before⟩⟩ := amid_bootstrap amid
    · exact none
    · obtain ⟨v, same, empty⟩ := forgets
      cases same
      exact absurd empty (before rfl)
  | add e p =>
    cases hop
    exact (drops_add e p).eq_none amid
  | remove e p =>
    cases hop
    exact (drops_remove e p).eq_none amid
  | reset e => exact absurd forgets id
  | _ => cases hop

/-- A request after which the simulated client does not forget leaves its memory as it was. -/
theorem memory_left {d : ClientState} {x : Exchange ClientState} (h : x.Happens client memory d)
    (keeps : ¬ Forgets x) : x.left.memory = d.memory := by
  obtain ⟨req, found, outcome, left⟩ := x
  cases req with
  | bootstrap l =>
    obtain ⟨r, -, amid⟩ := h.deed rfl
    obtain ⟨u, rest, rfl, ⟨-, empty⟩ | ⟨same, -⟩⟩ := amid_bootstrap amid
    · exact absurd ⟨u, rfl, empty⟩ keeps
    · exact same
  | reset e =>
    obtain ⟨r, -, amid⟩ := h.deed rfl
    exact leavesAlone_reset e _ _ _ _ amid
  | _ => exact absurd trivial keeps

end Simulation.ClientState

namespace Simulation.ClientState

/-- Three servers with their first layout, and a client that has not read it yet. -/
def trio : ClientState where
  fabric :=
    let es : List Endpoint := [⟨"a:1"⟩, ⟨"b:1"⟩, ⟨"c:1"⟩]
    (es.foldl (fun f e => f.register e) Fabric.empty).commit (.initial es (.ofNat 7))
  memory := none

/-- The state of a client after a server was killed. -/
def outage (d : ClientState) : ClientState :=
  { d with fabric := d.fabric.update ⟨"c:1"⟩ fun m => { m with status := .killed } }

/-- The client reads the layout. -/
def reading : Exchange ClientState := .alone client .getLayout trio

/-- A server is killed, and the client has another one reset. -/
def resetting : Exchange ClientState := .alone client (.reset ⟨"a:1"⟩) reading.left.outage

/-- The client reads the layout again. -/
def rereading : Exchange ClientState := .alone client .getLayout resetting.left

theorem dialogue_rereading :
    Dialogue client memory trio [reading, resetting, rereading] rereading.left := by
  have first : Dialogue client memory trio [reading] reading.left :=
    (Dialogue.silent trio).more_alone .getLayout rfl
  have killed : Elsewhere memory reading.left reading.left.outage := rfl
  have second : Dialogue client memory trio [reading, resetting] resetting.left :=
    first.more_alone (.reset ⟨"a:1"⟩) killed
  exact second.more_alone .getLayout rfl

end Simulation.ClientState

/-- A member that shows a layout, and a client of it. -/
def Gateway.mirror : Gateway.Contact (Gateway.Memory × Layout) where
  endpoints := [⟨"a:1"⟩]
  memory := .fst
  carrier _ := Call.read fun s => .answered ⟨200, Json.write s.2.encode⟩

/-- What a member shows is what its client is told. -/
theorem Gateway.told_by_mirror {l : Layout} (named : l.Addressed) :
    (Exchange.alone mirror.client .getLayout (Memory.start, l)).outcome = .ok (.layout l) := by
  have read : Json.decode (Layout.decode .direct) (Json.write l.encode) = .ok l := by
    rw [Json.decode_write l.plain_encode]
    exact Layout.decode_encode .direct named
  have asked : Attempt.result (mirror.ask .get "layout" none) (Memory.start, l) =
      (.ok ⟨200, Json.write l.encode⟩, (Memory.start, l)) := rfl
  have looked : Attempt.result (mirror.read "layout" (Layout.decode .direct)) (Memory.start, l) =
      (.ok l, (Memory.start, l)) := by
    rw [Contact.read, Attempt.result_bind, asked]
    simp only [read, Attempt.result_pure]
  have told : (Attempt.result mirror.getLayout (Memory.start, l)).1 = .ok l := by
    rw [Contact.getLayout, Attempt.result_bind, Attempt.result_lift, Part.read, Call.result_read]
    simp only [mirror, Part.fst, Memory.start] at looked ⊢
    simp only [Attempt.result_bind, looked, Attempt.result_lift, Attempt.result_pure]
  simp only [Exchange.alone, Request.ask, Contact.client, Attempt.result_bind]
  rcases got : Attempt.result mirror.getLayout (Memory.start, l) with ⟨outcome, s⟩
  rw [got] at told
  obtain rfl : outcome = .ok l := told
  rfl

/-- **What a client answers was read after its own last change**: the client of a gateway forgets after each
change that goes well, and so does the simulated client, but for two that leave its memory as it was: a
reset, and a first layout that was in place already.  The times for changes of the members are taken to leave
room for the wait for the answer. -/
theorem own_changes_are_seen {σ : Type} (c : Gateway.Contact σ) (lawful : c.memory.Lawful)
    (carried : ∀ r, (c.carrier r).Steps (Elsewhere c.remembered)) :
    UpToDate c.client c.remembered c.look Exchange.WentWell ∧
      UpToDate ClientState.client ClientState.memory ClientState.look
        (fun x => x.WentWell ∧ ClientState.Forgets x) ∧
      ∀ d x, x.Happens ClientState.client ClientState.memory d → ¬ ClientState.Forgets x →
        x.left.memory = d.memory :=
  ⟨(Gateway.Contact.habits lawful carried).upToDate, ClientState.habits.upToDate,
    fun _ _ => ClientState.memory_left⟩

/-- A client that had a member reset is told by the gateway what the cluster has come to since, and not what
it remembered before; the simulated client still remembers it after a reset. -/
theorem own_changes_are_seen_mirror :
    let first := Layout.initial [⟨"a:1"⟩] (.ofNat 7)
    let reset := Exchange.alone Gateway.mirror.client (.reset ⟨"a:1"⟩) (⟨0, some first⟩, first)
    let next := first.addServer ⟨"b:1"⟩
    let reading := Exchange.alone Gateway.mirror.client .getLayout (Gateway.Memory.start, next)
    reset.WentWell ∧ reading.outcome = .ok (.layout next) ∧
      reading.Reads Gateway.mirror.remembered Gateway.mirror.look next ∧
      ClientState.resetting.left.memory = ClientState.reading.left.memory := by
  intro first reset next reading
  have seen := own_changes_are_seen Gateway.mirror Part.fst_lawful fun _ => .read fun _ => rfl
  have named : next.Addressed := by decide +kernel
  have told : reading.outcome = .ok (.layout next) := Gateway.told_by_mirror named
  have cleared : Dialogue Gateway.mirror.client Gateway.mirror.remembered (⟨0, some first⟩, first) [reset]
      reset.left := (Dialogue.silent _).more_alone (.reset ⟨"a:1"⟩) rfl
  have others : Elsewhere Gateway.mirror.remembered reset.left (Gateway.Memory.start, next) := rfl
  have dialogue : Dialogue Gateway.mirror.client Gateway.mirror.remembered (⟨0, some first⟩, first)
      [reset, reading] reading.left := cleared.more_alone .getLayout others
  obtain ⟨z, hz, reads⟩ := seen.1.told dialogue [reset] reading [] next rfl told [] reset [] rfl rfl
  refine ⟨rfl, told, List.mem_singleton.mp hz ▸ reads, ?_⟩
  exact seen.2.2 ClientState.reading.left.outage ClientState.resetting (Exchange.happens_alone _ _ _ _) id

/-- After a reset the simulated client answers with what it remembers from before, while a look at the cluster
would find a later epoch. -/
theorem reset_leaves_memory : ClientState.resetting.WentWell ∧
    ClientState.rereading.outcome = .ok (.layout (.initial [⟨"a:1"⟩, ⟨"b:1"⟩, ⟨"c:1"⟩] (.ofNat 7))) ∧
    ClientState.resetting.left.fabric.watched.layout.map Layout.epoch = some 1 ∧
    ¬ UpToDate ClientState.client ClientState.memory ClientState.look Exchange.WentWell := by
  have there : ClientState.resetting.left.memory =
      some (.initial [⟨"a:1"⟩, ⟨"b:1"⟩, ⟨"c:1"⟩] (.ofNat 7)) := by decide +kernel
  have well : ClientState.resetting.WentWell := by
    have up : ClientState.reading.left.outage.fabric.isUp ⟨"a:1"⟩ = true := by decide +kernel
    have answers : ClientState.reading.left.outage.fabric.managementDown = false := by decide +kernel
    change (ClientState.asked (.reset ⟨"a:1"⟩) ClientState.reading.left.outage).1 = _
    rw [ClientState.asked_reset, Fabric.resetMember, answers, if_neg Bool.false_ne_true, if_pos up]
  have told : ClientState.rereading.outcome =
      .ok (.layout (.initial [⟨"a:1"⟩, ⟨"b:1"⟩, ⟨"c:1"⟩] (.ofNat 7))) := by
    change (ClientState.asked .getLayout ClientState.resetting.left).1 = _
    rw [ClientState.asked_getLayout, there]
  refine ⟨well, told, by decide +kernel, fun upToDate => ?_⟩
  obtain ⟨z, hz, -, s, found, t, rest, steps, none, -⟩ := upToDate.told ClientState.dialogue_rereading
    [ClientState.reading, ClientState.resetting] ClientState.rereading [] _ rfl told
    [ClientState.reading] ClientState.resetting [] rfl well
  have begins : ClientState.rereading.found.head? = some ClientState.resetting.left := rfl
  rw [← List.mem_singleton.mp hz, steps, List.head?_cons] at begins
  rw [Option.some.inj begins, there] at none
  cases none

end FaultLab
