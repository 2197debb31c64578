import FaultLab.Http
import FaultLab.Proofs.Calls

/-! # Requests that are written down

A `Mail` is what there is of a client that remembers something, of the services that it writes to, and of
all its letters so far.  A `Letter` is a request with what the client remembered when it sent the request,
and with what became of it.  The services are any: `Mail.carrier` hands them the requests, lets them do and
remember what they like, and files a letter for each request.

`Attempt.Posts` says how an attempt of such a client ends and which letters it files.  It goes through
sequences (`Posts.bind`, `Posts.bind_error`), so the letters of an operation are those of its parts. -/

namespace FaultLab

namespace Http

/-- The status of the answer, if there was one. -/
def Reply.status? : Reply → Option Nat
  | .answered r => some r.status
  | .refused | .brokenOff | .unusable => none

theorem Reply.status?_eq_some {reply : Reply} {n : Nat} :
    reply.status? = some n ↔ ∃ r, reply = .answered r ∧ r.status = n := by
  unfold status?
  cases reply <;> simp

/-- A request that was sent, what its sender remembered then, and what became of it. -/
structure Letter (μ : Type) where
  request : Request
  memory : μ
  reply : Reply

/-- A client that remembers something, the world that it writes to, and its letters so far. -/
structure Mail (μ τ : Type) where
  memory : μ
  world : τ
  letters : List (Letter μ)

namespace Mail
variable {μ τ : Type} {serve : Carrier τ} {s t : Mail μ τ}

/-- No letter has been sent. -/
def start (m : μ) (w : τ) : Mail μ τ := ⟨m, w, []⟩

/-- What the client remembers. -/
def memoryPart : Part (Mail μ τ) μ := ⟨memory, fun m s => { s with memory := m }⟩

/-- The world. -/
def worldPart : Part (Mail μ τ) τ := ⟨world, fun w s => { s with world := w }⟩

theorem worldPart_lawful : (worldPart : Part (Mail μ τ) τ).LawfulOn fun _ => True :=
  ⟨fun _ _ _ => trivial, fun _ _ _ => rfl, fun _ _ _ => rfl, fun _ _ => rfl⟩

/-- A request is carried to the world, and a letter is filed. -/
def carrier (serve : Carrier τ) : Carrier (Mail μ τ) := fun request => do
  let reply ← (serve request).focus worldPart
  Call.modify fun s => { s with letters := s.letters ++ [⟨request, s.memory, reply⟩] }
  return reply

/-- The letter with a request. -/
def letter (serve : Carrier τ) (request : Request) (s : Mail μ τ) : Letter μ :=
  ⟨request, s.memory, ((serve request).result s.world).1⟩

/-- What is left after a request. -/
def after (serve : Carrier τ) (request : Request) (s : Mail μ τ) : Mail μ τ :=
  ⟨s.memory, ((serve request).result s.world).2, s.letters ++ [letter serve request s]⟩

theorem result_carrier (serve : Carrier τ) (request : Request) (s : Mail μ τ) :
    (carrier serve request).result s = ((letter serve request s).reply, after serve request s) := by
  have carried := Call.result_focus worldPart_lawful (serve request) (s := s) trivial
  simp only [carrier, Call.bind_eq, Call.result_bind, carried, Call.result_modify, Call.pure_eq,
    Call.result_done]
  rfl

end Mail

/-- A world whose replies follow a script; after its end it breaks off. -/
def scripted : Carrier (List Reply) := fun _ =>
  Call.atomically fun replies => (replies.headD .brokenOff, replies.tail)

end Http

open Http

namespace Attempt
variable {μ τ ε α β : Type} {c : Attempt (Mail μ τ) ε α} {f : α → Attempt (Mail μ τ) ε β}
  {s t u : Mail μ τ} {xs ys : List (Letter μ)} {r : Except ε α} {a : α} {e : ε}

/-- Made from a state, an attempt files some letters and ends with an outcome, in another state. -/
structure Posts (c : Attempt (Mail μ τ) ε α) (s : Mail μ τ) (xs : List (Letter μ)) (r : Except ε α)
    (t : Mail μ τ) : Prop where
  result : c.result s = (r, t)
  letters : t.letters = s.letters ++ xs

namespace Posts

theorem quiet (result : c.result s = (r, t)) (same : t.letters = s.letters) : c.Posts s [] r t :=
  ⟨result, by rw [same, List.append_nil]⟩

theorem give (r : Except ε α) (s : Mail μ τ) : (Attempt.give r).Posts s [] r s := quiet rfl rfl

theorem pure (a : α) (s : Mail μ τ) : (Pure.pure a : Attempt (Mail μ τ) ε α).Posts s [] (.ok a) s :=
  quiet rfl rfl

theorem log (event : Event) (s : Mail μ τ) :
    (Attempt.log event : Attempt (Mail μ τ) ε Unit).Posts s [] (.ok ()) s := quiet rfl rfl

theorem remembered (s : Mail μ τ) :
    (Attempt.lift Mail.memoryPart.read : Attempt (Mail μ τ) ε μ).Posts s [] (.ok s.memory) s :=
  quiet rfl rfl

theorem learn (g : μ → μ) (s : Mail μ τ) :
    (Attempt.lift (Mail.memoryPart.change g) : Attempt (Mail μ τ) ε Unit).Posts s [] (.ok ())
      { s with memory := g s.memory } := quiet rfl rfl

theorem send (serve : Carrier τ) (request : Request) (s : Mail μ τ) :
    (Attempt.lift (Mail.carrier serve request) : Attempt (Mail μ τ) ε Reply).Posts s
      [Mail.letter serve request s] (.ok (Mail.letter serve request s).reply)
      (Mail.after serve request s) := by
  refine ⟨?_, rfl⟩
  rw [Attempt.result_lift, Mail.result_carrier]

theorem ite_pos {p : Prop} [Decidable p] {d : Attempt (Mail μ τ) ε α} (hp : p) (h : c.Posts s xs r t) :
    (if p then c else d).Posts s xs r t := by rwa [if_pos hp]

theorem ite_neg {p : Prop} [Decidable p] {d : Attempt (Mail μ τ) ε α} (hp : ¬ p) (h : c.Posts s xs r t) :
    (if p then d else c).Posts s xs r t := by rwa [if_neg hp]

/-- The letters of a sequence are those of its parts. -/
theorem bind {r : Except ε β} (h : c.Posts s xs (.ok a) u) (h' : (f a).Posts u ys r t) :
    (c >>= f).Posts s (xs ++ ys) r t := by
  refine ⟨?_, ?_⟩
  · rw [Attempt.result_bind, h.result]
    exact h'.result
  · rw [h'.letters, h.letters, List.append_assoc]

theorem bind_quiet {r : Except ε β} (h : c.Posts s [] (.ok a) u) (h' : (f a).Posts u ys r t) :
    (c >>= f).Posts s ys r t := h.bind h'

theorem bind_error (h : c.Posts s xs (.error e) t) (f : α → Attempt (Mail μ τ) ε β) :
    (c >>= f).Posts s xs (.error e) t := by
  refine ⟨?_, h.letters⟩
  rw [Attempt.result_bind, h.result]

/-- What files no letter and leaves the state alone changes the outcome only. -/
theorem bind_idle {g : α → Except ε β} (h : c.Posts s xs r t) (idle : ∀ a, (f a).Posts t [] (g a) t) :
    (c >>= f).Posts s xs (r >>= g) t := by
  cases r with
  | ok a =>
    have whole := h.bind (idle a)
    rwa [List.append_nil] at whole
  | error e => exact h.bind_error f

theorem map (h : c.Posts s xs r t) (g : α → β) :
    (c >>= fun a => Pure.pure (g a)).Posts s xs (g <$> r) t := by
  have told := h.bind_idle fun a => pure (ε := ε) (g a) t
  cases r <;> exact told

theorem bind_give {g : α → Except ε β} (h : c.Posts s xs r t) :
    (c >>= fun a => Attempt.give (g a)).Posts s xs (r >>= g) t :=
  h.bind_idle fun a => give (g a) t

end Posts

end Attempt

end FaultLab
