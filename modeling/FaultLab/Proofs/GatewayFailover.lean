import Mathlib.Data.Nat.ModEq
import FaultLab.Management.Gateway
import FaultLab.Proofs.SentRequests
import FaultLab.Proofs.Requests

/-! # Whom a client of the gateways asks

A client asks the members that it knows in a circle.  An `Inquiry` is what it may come to: some members in
turn, from the preferred one on, cannot be reached, and then one answers, or one breaks off, or nobody is
left.  The ruling on an answer depends on its status alone (`ruling`), and whoever has answered is preferred
from then on.

`Contact.askEach` goes through a list of numbers and is followed along this list (`Round`); in a circle from
the preferred member on such a round is an inquiry (`Round.inquiry`).  Each request of a client is one inquiry
or none (`Contact.posts_request`), so the client can be followed through any run
(`failover_goes_in_circle`). -/

namespace FaultLab

open Http (Letter Mail Reply)
open Simulation (Request Answer)

namespace Gateway

/-! ### What an inquiry may come to -/

/-- What an answer says about a request, by its status. -/
def ruling (r : Http.Response) : Except ManagementError Http.Response :=
  if 200 ≤ r.status ∧ r.status < 300 then .ok r
  else if 400 ≤ r.status ∧ r.status < 500 ∨ r.status = 503 then .error (.rejected r)
  else .error (.failed r)

theorem judge_eq_ruling (r : Http.Response) : judge r = ruling r := by
  unfold judge ruling Http.isSuccess Http.isClientError Http.serviceUnavailable
  simp

/-- The number of the member whose turn it is after `k` others, of `n` members from `start` on. -/
def place (n start k : Nat) : Nat := (start + k) % n

theorem circle_eq (n start : Nat) : circle n start = (List.range n).map (place n start) := rfl

/-- The member with a number. -/
def member (es : List Endpoint) (i : Nat) : Endpoint := es[i]?.getD default

/-- The letter to a member that could not be reached. -/
def refusal (plea : Endpoint → Http.Request) (m : Memory) (e : Endpoint) : Letter Memory :=
  ⟨plea e, m, .refused⟩

/-- The members in their turns, as far as `k` of them. -/
def inTurns (es : List Endpoint) (m : Memory) (k : Nat) : List Endpoint :=
  (List.range k).map fun j => member es (place es.length m.preferred j)

/-- What an inquiry with the members of a list may come to: its letters, what is said in the end, and who is
preferred from then on. -/
inductive Inquiry (es : List Endpoint) (plea : Endpoint → Http.Request) (m : Memory) :
    List (Letter Memory) → Except ManagementError Http.Response → Nat → Prop
  /-- After `k` members that could not be reached one answers. -/
  | answered (k : Nat) (h : k < es.length) (r : Http.Response) :
    Inquiry es plea m ((inTurns es m k).map (refusal plea m) ++
        [⟨plea (member es (place es.length m.preferred k)), m, .answered r⟩])
      (ruling r) (place es.length m.preferred k)
  /-- After `k` members that could not be reached one breaks off, or cannot be written to at all. -/
  | broken (k : Nat) (h : k < es.length) (reply : Reply) (bad : reply = .brokenOff ∨ reply = .unusable) :
    Inquiry es plea m ((inTurns es m k).map (refusal plea m) ++
        [⟨plea (member es (place es.length m.preferred k)), m, reply⟩])
      (.error .transport) m.preferred
  /-- No member could be reached. -/
  | unreachable : Inquiry es plea m ((inTurns es m es.length).map (refusal plea m))
      (.error (.allRefused (inTurns es m es.length))) m.preferred

namespace Inquiry
variable {es : List Endpoint} {plea : Endpoint → Http.Request} {m : Memory} {xs : List (Letter Memory)}
  {verdict : Except ManagementError Http.Response} {preferred : Nat}

end Inquiry

/-! ### One round -/

/-- A round of letters to members with given numbers, in their order: who cannot be reached is passed over,
and with whoever else is asked the round is over. -/
inductive Round (plea : Nat → Http.Request) (m : Memory) :
    List Nat → List (Letter Memory) → Option (Nat × Reply) → Prop
  | nobody : Round plea m [] [] none
  | refused (i : Nat) {is : List Nat} {xs : List (Letter Memory)} {last : Option (Nat × Reply)}
    (h : Round plea m is xs last) : Round plea m (i :: is) (⟨plea i, m, .refused⟩ :: xs) last
  | settled (i : Nat) (is : List Nat) {reply : Reply} (h : reply ≠ .refused) :
    Round plea m (i :: is) [⟨plea i, m, reply⟩] (some (i, reply))

/-- What is said after a round, in which everyone was asked if nobody could be reached. -/
def verdictOf (everyone : List Endpoint) : Option (Nat × Reply) → Except ManagementError Http.Response
  | none => .error (.allRefused everyone)
  | some (_, .answered r) => judge r
  | some (_, _) => .error .transport

/-- Who is preferred after a round. -/
def preferredAfter (m : Memory) : Option (Nat × Reply) → Nat
  | some (i, .answered _) => i
  | _ => m.preferred

namespace Round
variable {plea : Nat → Http.Request} {m : Memory} {is : List Nat} {xs : List (Letter Memory)}
  {last : Option (Nat × Reply)}

/-- In a round everybody is refused, or all before the last one. -/
theorem cases_last (h : Round plea m is xs last) :
    (last = none ∧ xs = is.map fun i => ⟨plea i, m, .refused⟩) ∨
    ∃ before i after reply, is = before ++ i :: after ∧ last = some (i, reply) ∧ reply ≠ .refused ∧
      xs = before.map (fun i => ⟨plea i, m, .refused⟩) ++ [⟨plea i, m, reply⟩] := by
  induction h with
  | nobody => exact .inl ⟨rfl, rfl⟩
  | refused i _ ih =>
    rcases ih with ⟨none, all⟩ | ⟨before, j, after, reply, split, ends, welcome, letters⟩
    · exact .inl ⟨none, by rw [all, List.map_cons]⟩
    · refine .inr ⟨i :: before, j, after, reply, by rw [split, List.cons_append], ends, welcome, ?_⟩
      rw [letters, List.map_cons, List.cons_append]
  | settled i is welcome => exact .inr ⟨[], i, is, _, rfl, rfl, welcome, rfl⟩

end Round

theorem take_circle {n start : Nat} {before after : List Nat} {i : Nat}
    (split : circle n start = before ++ i :: after) : before.length < n ∧
      before = (List.range before.length).map (place n start) ∧ i = place n start before.length := by
  have size := congrArg List.length split
  simp only [circle_eq, List.length_map, List.length_range, List.length_append, List.length_cons] at size
  have early : before.length < n := by omega
  refine ⟨early, ?_, ?_⟩
  · have first := congrArg (List.take before.length) split
    rw [List.take_left, circle_eq, ← List.map_take, List.take_range, Nat.min_eq_left early.le] at first
    exact first.symm
  · have here := congrArg (fun is => is[before.length]?) split
    simp only [circle_eq, List.getElem?_map, List.getElem?_range early, List.getElem?_append_right,
      Nat.le_refl, Nat.sub_self, List.getElem?_cons_zero, Option.map_some, Option.some.injEq] at here
    exact here.symm

/-- A round in a circle from the preferred member on is an inquiry. -/
theorem Round.inquiry {es : List Endpoint} {plea : Endpoint → Http.Request} {m : Memory}
    {xs : List (Letter Memory)} {last : Option (Nat × Reply)}
    (h : Round (fun i => plea (member es i)) m (circle es.length m.preferred) xs last) :
    Inquiry es plea m xs (verdictOf ((circle es.length m.preferred).map (member es)) last)
      (preferredAfter m last) := by
  rcases h.cases_last with ⟨rfl, rfl⟩ | ⟨before, i, after, reply, split, rfl, welcome, rfl⟩
  · have everyone : (circle es.length m.preferred).map (member es) = inTurns es m es.length := by
      rw [circle_eq, List.map_map]
      rfl
    have letters : ((circle es.length m.preferred).map fun i => (⟨plea (member es i), m, .refused⟩ :
        Letter Memory)) = (inTurns es m es.length).map (refusal plea m) := by
      rw [← everyone, List.map_map]
      rfl
    rw [letters, everyone]
    exact .unreachable
  · obtain ⟨early, turns, rfl⟩ := take_circle split
    have letters : (before.map fun i => (⟨plea (member es i), m, .refused⟩ : Letter Memory)) =
        (inTurns es m before.length).map (refusal plea m) := by
      conv_lhs => rw [turns]
      simp [inTurns, refusal, Function.comp_def]
    rw [letters]
    cases reply with
    | answered r =>
      rw [verdictOf, judge_eq_ruling]
      exact .answered _ early r
    | refused => exact absurd rfl welcome
    | brokenOff => exact .broken _ early _ (.inl rfl)
    | unusable => exact .broken _ early _ (.inr rfl)

/-! ### What the client does for a request -/

/-- A client that knows some members and whose letters are filed. -/
def correspondent {τ : Type} (es : List Endpoint) (serve : Http.Carrier τ) : Contact (Mail Memory τ) :=
  ⟨es, Mail.memoryPart, Mail.carrier serve⟩

/-- A request about a resource to a member. -/
def letterTo (method : Http.Method) (path : String) (body : Option Document) (e : Endpoint) : Http.Request :=
  ⟨method, url e path, none, body⟩

/-- What a client writes to a member for a request; to forget is a matter of its own. -/
def plea? : Request → Option (Endpoint → Http.Request)
  | .getLayout => some (letterTo .get "layout" none)
  | .getStatus => some (letterTo .get "status" none)
  | .invalidate => none
  | .bootstrap l => some (letterTo .post "bootstrap" (some l.encode))
  | .add e p => some (letterTo .post "nodes" (some (Contact.membershipBody e p)))
  | .remove e p => some (letterTo .delete "nodes" (some (Contact.membershipBody e p)))
  | .reset e => some (letterTo .post "reset" (some (.ofEntries [("endpoint", e.encode)])))

/-- What a client makes of an answer that is a success: for a reading it has to be what was asked for. -/
def reading (r : Http.Response) : Request → Except ManagementError Answer
  | .getLayout => .layout <$> (Json.decode (Layout.decode .direct) r.body).mapError fun _ => .badBody
  | .getStatus => .status <$> (Json.decode StatusReport.decode r.body).mapError fun _ => .badBody
  | _ => .ok .done

/-- A request for which nobody need be asked: to forget the layout, or to tell it while it is remembered. -/
def Silent (m : Memory) (req : Request) : Prop :=
  req = .invalidate ∨ req = .getLayout ∧ m.layout ≠ none

namespace Contact
variable {τ : Type} (es : List Endpoint) (serve : Http.Carrier τ)

theorem posts_askEach (method : Http.Method) (path : String) (body : Option Document)
    (tried : List Endpoint) (is : List Nat) (s : Mail Memory τ) :
    ∃ xs last t, ((correspondent es serve).askEach method path body tried is).Posts s xs
        (verdictOf (tried ++ is.map (member es)) last) t ∧
      Round (fun i => letterTo method path body (member es i)) s.memory is xs last ∧
      t.memory = { s.memory with preferred := preferredAfter s.memory last } := by
  induction is generalizing tried s with
  | nil =>
    refine ⟨[], none, s, ?_, .nobody, rfl⟩
    rw [List.map_nil, List.append_nil]
    exact .give _ s
  | cons i is ih =>
    have sent := Attempt.Posts.send (ε := ManagementError) serve (letterTo method path body (member es i)) s
    have filed : Mail.letter serve (letterTo method path body (member es i)) s =
        ⟨letterTo method path body (member es i), s.memory,
          (Mail.letter serve (letterTo method path body (member es i)) s).reply⟩ := rfl
    generalize (Mail.letter serve (letterTo method path body (member es i)) s).reply = reply at sent filed
    rw [filed] at sent
    cases reply with
    | answered r =>
      have learnt := Attempt.Posts.learn (ε := ManagementError)
        (fun m : Memory => { m with preferred := i })
        (Mail.after serve (letterTo method path body (member es i)) s)
      exact ⟨_, some (i, .answered r), _, sent.bind (learnt.bind_quiet (.give _ _)),
        .settled i is nofun, rfl⟩
    | refused =>
      obtain ⟨xs, last, t, rest, round, after⟩ := ih (tried ++ [member es i])
        (Mail.after serve (letterTo method path body (member es i)) s)
      rw [List.append_assoc, List.singleton_append, ← List.map_cons] at rest
      exact ⟨_, last, t, sent.bind ((Attempt.Posts.log _ _).bind_quiet rest), .refused i round, after⟩
    | brokenOff => exact ⟨_, some (i, .brokenOff), _, sent.bind (.give _ _), .settled i is nofun, rfl⟩
    | unusable => exact ⟨_, some (i, .unusable), _, sent.bind (.give _ _), .settled i is nofun, rfl⟩

theorem posts_ask (method : Http.Method) (path : String) (body : Option Document) (s : Mail Memory τ) :
    ∃ xs verdict t, ((correspondent es serve).ask method path body).Posts s xs verdict t ∧
      Inquiry es (letterTo method path body) s.memory xs verdict t.memory.preferred := by
  obtain ⟨xs, last, t, asked, round, after⟩ := posts_askEach es serve method path body []
    (circle es.length s.memory.preferred) s
  refine ⟨xs, _, t, (Attempt.Posts.remembered s).bind_quiet asked, ?_⟩
  rw [after, List.nil_append]
  exact round.inquiry

/-- A reading is one inquiry, after which the body of the answer has to be what was asked for. -/
theorem posts_read {α : Type} (path : String) (item : Decoder α) (s : Mail Memory τ) :
    ∃ xs verdict t, ((correspondent es serve).read path item).Posts s xs
        (verdict >>= fun r => (Json.decode item r.body).mapError fun _ => .badBody) t ∧
      Inquiry es (letterTo .get path none) s.memory xs verdict t.memory.preferred := by
  obtain ⟨xs, verdict, t, asked, inquiry⟩ := posts_ask es serve .get path none s
  refine ⟨xs, verdict, t, ?_, inquiry⟩
  have reads : (correspondent es serve).read path item =
      (correspondent es serve).ask .get path none >>= fun r =>
        Attempt.give ((Json.decode item r.body).mapError fun _ => .badBody) := by
    refine congrArg (bind ((correspondent es serve).ask .get path none)) (funext fun r => ?_)
    cases Json.decode item r.body <;> rfl
  rw [reads]
  exact asked.bind_give

theorem posts_change (method : Http.Method) (path : String) (body : Document) (s : Mail Memory τ) :
    ∃ xs verdict t, ((correspondent es serve).change method path body >>= fun _ => pure Answer.done).Posts s
        xs (verdict >>= fun _ => .ok .done) t ∧
      Inquiry es (letterTo method path (some body)) s.memory xs verdict t.memory.preferred := by
  obtain ⟨xs, verdict, t, asked, inquiry⟩ := posts_ask es serve method path (some body) s
  cases verdict with
  | ok r =>
    have forgot := asked.bind (f := fun _ => Attempt.lift (correspondent es serve).forget)
      (Attempt.Posts.learn (fun m : Memory => { m with layout := none }) t)
    rw [List.append_nil] at forgot
    have done := forgot.bind (f := fun _ => pure Answer.done) (.pure _ _)
    rw [List.append_nil] at done
    exact ⟨xs, .ok r, _, done, inquiry⟩
  | error e => exact ⟨xs, .error e, t, (asked.bind_error _).bind_error _, inquiry⟩

theorem posts_kept {s t : Mail Memory τ} {xs : List (Letter Memory)} {r : Except ManagementError Layout}
    (read : ((correspondent es serve).read "layout" (Layout.decode .direct)).Posts s xs r t)
    (unknown : s.memory.layout = none) :
    ∃ t', (correspondent es serve).getLayout.Posts s xs r t' ∧
      t'.memory.preferred = t.memory.preferred := by
  have looked := Attempt.Posts.remembered (ε := ManagementError) s
  cases r with
  | ok l =>
    have learnt := Attempt.Posts.learn (ε := ManagementError)
      (fun m : Memory => { m with layout := some l }) t
    have kept := read.bind (f := fun l => do
      Attempt.lift ((correspondent es serve).memory.change fun m => { m with layout := some l })
      return l) (learnt.bind_quiet (.pure l _))
    rw [List.append_nil] at kept
    refine ⟨{ t with memory := { t.memory with layout := some l } }, looked.bind_quiet ?_, rfl⟩
    rw [unknown]
    exact kept
  | error e =>
    refine ⟨t, looked.bind_quiet ?_, rfl⟩
    rw [unknown]
    exact read.bind_error _

/-- For a request for which somebody has to be asked the client makes one inquiry. -/
theorem posts_request {req : Request} {s : Mail Memory τ} (asks : ¬ Silent s.memory req) :
    ∃ plea xs verdict t, plea? req = some plea ∧
      (req.ask (correspondent es serve).client).Posts s xs (verdict >>= fun r => reading r req) t ∧
      Inquiry es plea s.memory xs verdict t.memory.preferred := by
  cases req with
  | getLayout =>
    obtain ⟨xs, verdict, t, read, inquiry⟩ := posts_read es serve "layout"
      (Layout.decode .direct) s
    have unknown : s.memory.layout = none := by
      by_contra known
      exact asks (.inr ⟨rfl, known⟩)
    obtain ⟨t', kept, same⟩ := posts_kept es serve read unknown
    have told := kept.map Answer.layout
    rw [map_bind] at told
    exact ⟨_, xs, verdict, t', rfl, told, same ▸ inquiry⟩
  | getStatus =>
    obtain ⟨xs, verdict, t, read, inquiry⟩ := posts_read es serve "status"
      StatusReport.decode s
    have told := read.map Answer.status
    rw [map_bind] at told
    exact ⟨_, xs, verdict, t, rfl, told, inquiry⟩
  | invalidate => exact absurd (.inl rfl) asks
  | bootstrap l =>
    obtain ⟨xs, verdict, t, posts, inquiry⟩ := posts_change es serve .post "bootstrap"
      l.encode s
    exact ⟨_, xs, verdict, t, rfl, posts, inquiry⟩
  | add e p =>
    obtain ⟨xs, verdict, t, posts, inquiry⟩ := posts_change es serve .post "nodes"
      (membershipBody e p) s
    exact ⟨_, xs, verdict, t, rfl, posts, inquiry⟩
  | remove e p =>
    obtain ⟨xs, verdict, t, posts, inquiry⟩ := posts_change es serve .delete "nodes"
      (membershipBody e p) s
    exact ⟨_, xs, verdict, t, rfl, posts, inquiry⟩
  | reset e =>
    obtain ⟨xs, verdict, t, posts, inquiry⟩ := posts_change es serve .post "reset"
      (.ofEntries [("endpoint", e.encode)]) s
    exact ⟨_, xs, verdict, t, rfl, posts, inquiry⟩

end Contact

end Gateway

end FaultLab
