import FaultLab.Machine.Hypervisor
import FaultLab.Proofs.Views
import FaultLab.Proofs.Walls

/-! # Machines under a hypervisor

A `Body` is all that matters of a virtual machine: its power, the process of the member on it, and its
wall.  `Hypervisor.Serves` is a hypervisor that does at once what requests with a token that it knows ask
for; of other tokens it wants to hear no more, and whoever logs in gets a token that it knows for the next
request.

Whatever becomes of tokens in between, the client gets done what it asks for
(`Hypervisor.Serves.yields_send`), and what the hypervisor refuses fails
(`Hypervisor.Serves.balks_send`). -/

namespace FaultLab.Machine

open Firewall Attempt

/-- How the process of a member does. -/
inductive Process where
  | absent
  | running
  | frozen
deriving DecidableEq

/-- A virtual machine: without power there are neither processes nor rules. -/
inductive Body where
  | off
  | on (process : Process) (wall : Wall)

namespace Body

/-- A machine that has just been given power: nobody starts the process. -/
def booted : Body := .on .absent .bare

/-- The power of a machine. -/
def power : Body → PowerState
  | off => .off
  | on _ _ => .on

/-- The name of the power of a machine. -/
def powerName : Body → String
  | off => "POWERED_OFF"
  | on _ _ => "POWERED_ON"

theorem powerStateOf_powerName (b : Body) : powerStateOf b.powerName = .ok b.power := by
  cases b <;> rfl

end Body

/-- What a request about a machine asks for. -/
inductive Deed where
  | look
  | start
  | stop
  | reset
  | reboot
deriving DecidableEq

/-- The address to have something done to a machine. -/
def actionUrl (baseUrl vm action : String) : String := s!"{powerUrl baseUrl vm}?action={action}"

namespace Deed

/-- A request with a token. -/
def request (baseUrl vm : String) : Deed → String → Http.Request
  | look => fun token => ⟨.get, powerUrl baseUrl vm, some token, none⟩
  | start => fun token => ⟨.post, actionUrl baseUrl vm "start", some token, none⟩
  | stop => fun token => ⟨.post, actionUrl baseUrl vm "stop", some token, none⟩
  | reset => fun token => ⟨.post, actionUrl baseUrl vm "reset", some token, none⟩
  | reboot => fun token => ⟨.post, guestPowerUrl baseUrl vm ++ "?action=reboot", some token, none⟩

/-- What becomes of a machine; one without power cannot be started anew. -/
def effect : Deed → Body → Option Body
  | look, b => some b
  | start, .off => some .booted
  | start, .on process wall => some (.on process wall)
  | stop, _ => some .off
  | reset, .off => none
  | reset, .on _ _ => some .booted
  | reboot, .off => none
  | reboot, .on _ _ => some .booted

end Deed

/-! ### What an answer says -/

/-- A text is a record that names a state, whatever else there is in it. -/
def Names (text name : String) : Prop :=
  ∃ fields : List (String × Document),
    Json.read text = (.table (fields.map fun f => (some f.1, f.2)) true, true) ∧
      (fields.map Prod.fst).Nodup ∧ "state" ∈ fields.map Prod.fst ∧
      ∀ f ∈ fields, if f.1 = "state" then f.2 = .text name else Decoder.skippable f.2 = true

theorem scan_state {name : String} {fields : List (String × Document)} (seen : List String)
    (once : (fields.map Prod.fst).Nodup)
    (unseen : "state" ∈ fields.map Prod.fst → "state" ∉ seen)
    (fits : ∀ f ∈ fields,
      if f.1 = "state" then f.2 = .text name else Decoder.skippable f.2 = true) :
    RecordReader.scan (RecordReader.field "state" Decoder.text).slots seen
      (fields.map fun f => (some f.1, f.2)) = .ok () := by
  induction fields generalizing seen with
  | nil => rfl
  | cons f fields ih =>
    obtain ⟨k, d⟩ := f
    have fit := fits (k, d) List.mem_cons_self
    rw [List.map_cons, List.nodup_cons] at once
    have rest := fun f hf => fits f (List.mem_cons_of_mem (k, d) hf)
    by_cases state : k = "state"
    · subst state
      rw [if_pos rfl] at fit
      have fit : d = .text name := fit
      subst fit
      have fresh : seen.contains "state" = false := by
        simpa using unseen List.mem_cons_self
      have tail := ih ("state" :: seen) once.2 (fun h => absurd h once.1) rest
      simp only [List.map_cons, RecordReader.scan, RecordReader.field, List.find?, decide_true, fresh,
        Bool.false_eq_true, if_false]
      exact tail
    · rw [if_neg state] at fit
      have tail := ih seen once.2 (fun h => unseen (List.mem_cons_of_mem k h)) rest
      have other : ("state" = k) = False := eq_false fun same => state same.symm
      simp only [List.map_cons, RecordReader.scan, RecordReader.field, List.find?, other, decide_false,
        Decoder.skip, fit, if_true]
      exact tail

theorem find_state {name : String} {fields : List (String × Document)}
    (there : "state" ∈ fields.map Prod.fst)
    (fits : ∀ f ∈ fields,
      if f.1 = "state" then f.2 = .text name else Decoder.skippable f.2 = true) :
    ((fields.map fun f => (some f.1, f.2)).find? fun x => x.1 = some "state").map Prod.snd =
      some (Document.text name) := by
  induction fields with
  | nil => cases there
  | cons f fields ih =>
    have fit := fits f List.mem_cons_self
    by_cases state : f.1 = "state"
    · rw [if_pos state] at fit
      simp only [List.map_cons, List.find?, state, decide_true, Option.map_some, fit]
    · have there : "state" ∈ fields.map Prod.fst :=
        (List.mem_cons.mp there).resolve_left fun same => state same.symm
      have tail := ih there fun g hg => fits g (List.mem_cons_of_mem f hg)
      simp only [List.map_cons, List.find?, Option.some.injEq, state, decide_false]
      exact tail

theorem make_state {name : String} (look : String → Option Document)
    (found : look "state" = some (.text name)) :
    (id <$> RecordReader.field "state" Decoder.text).make look = .ok name := by
  have field : (RecordReader.field "state" Decoder.text).make look = .ok name := by
    rw [RecordReader.field]
    simp only [found]
    rfl
  exact congrArg (Except.map id) field

theorem stateOf_of_names {r : Http.Response} {b : Body} (h : Names r.body b.powerName) :
    Hypervisor.stateOf r = .ok b.power := by
  obtain ⟨fields, read, once, there, fits⟩ := h
  have scanned := scan_state [] once (fun _ => List.not_mem_nil) fits
  have made := make_state
    (fun name => ((fields.map fun f => (some f.1, f.2)).find? fun x => x.1 = some name).map Prod.snd)
    (find_state there fits)
  have decoded : Json.decode (RecordReader.decode (id <$> RecordReader.field "state" Decoder.text)
      "PowerInfo" .direct) r.body = .ok b.powerName := by
    have slots : (id <$> RecordReader.field "state" Decoder.text).slots =
        (RecordReader.field "state" Decoder.text).slots := rfl
    rw [Json.decode, read]
    simp only [RecordReader.decode, slots, scanned, made]
    rfl
  rw [Hypervisor.stateOf, decoded]
  exact b.powerStateOf_powerName

/-! ### The client -/

namespace Hypervisor
variable {σ γ : Type} {h : Hypervisor σ} {vm : String} {view : σ → Body × γ}
  {knows : σ → String → Prop} {deed : Deed} {b b' : Body} {c : γ} {s : σ}

/-- A hypervisor does at once what it is asked for with a token that it knows, as far as that can be. -/
structure Serves (h : Hypervisor σ) (vm : String) (view : σ → Body × γ)
    (knows : σ → String → Prop) : Prop where
  login : ∀ s, ∃ r token t, (h.carrier h.loginRequest).result s = (.answered r, t) ∧
    Http.isSuccess r.status = true ∧ Json.read r.body = (.text token, true) ∧ knows t token ∧
    view t = view s
  unknown : ∀ deed token s, ¬ knows s token → ∃ r t,
    (h.carrier (Deed.request h.baseUrl vm deed token)).result s = (.answered r, t) ∧
    r.status = Http.unauthorized ∧ view t = view s
  done : ∀ deed token s b, knows s token → deed.effect (view s).1 = some b → ∃ r t,
    (h.carrier (Deed.request h.baseUrl vm deed token)).result s = (.answered r, t) ∧
    Http.isSuccess r.status = true ∧ (deed = .look → Names r.body b.powerName) ∧
    view t = (b, (view s).2)
  refused : ∀ deed token s, knows s token → deed.effect (view s).1 = none → ∃ r t,
    (h.carrier (Deed.request h.baseUrl vm deed token)).result s = (.answered r, t) ∧
    r.status ≠ Http.unauthorized ∧ Http.isSuccess r.status = false ∧ view t = view s
  get_set : ∀ token s, h.session.get (h.session.set token s) = token
  view_set : ∀ token s, view (h.session.set token s) = view s
  knows_set : ∀ token s, knows (h.session.set token s) = knows s

theorem ne_of_isSuccess {status other : Nat} (well : Http.isSuccess status = true)
    (ill : Http.isSuccess other = false) : status ≠ other := by
  rintro rfl
  rw [well] at ill
  cases ill

theorem judge_of_success {r : Http.Response} (well : Http.isSuccess r.status = true) :
    judge vm r = .ok r := by
  rw [judge, if_neg (ne_of_isSuccess well rfl), well]
  rfl

theorem result_ask {request : Http.Request} {r : Http.Response} {t : σ}
    (answered : (h.carrier request).result s = (.answered r, t)) :
    (h.ask request).result s = (.ok r, t) := by
  simp only [ask, Attempt.result_bind, Attempt.result_lift, answered, answerOf, Attempt.result_give]

namespace Serves

/-- Who has no token logs in, and gets one that is known. -/
theorem result_token (serves : h.Serves vm view knows) (none : h.session.get s = none) :
    ∃ token t, h.token.result s = (.ok token, t) ∧ knows t token ∧ view t = view s := by
  obtain ⟨r, token, t, answered, well, read, known, still⟩ := serves.login s
  have told : h.tokenOf r = .ok token := by
    have decoded : Json.decode Decoder.text r.body = .ok token := by
      rw [Json.decode, read]
      rfl
    rw [tokenOf, if_neg (ne_of_isSuccess well rfl), well, decoded]
    rfl
  refine ⟨token, h.session.set (some token) t, ?_, ?_, (serves.view_set _ t).trans still⟩
  · have asked := result_ask answered
    rw [Hypervisor.token, Attempt.result_bind, Attempt.result_lift, Part.read, Call.result_read, none]
    simp only [Attempt.result_bind, asked, told, Attempt.result_give, Attempt.result_log,
      Attempt.result_lift, Part.write, Call.result_modify, Attempt.result_pure]
  · rw [serves.knows_set]
    exact known

theorem exists_token (serves : h.Serves vm view knows) (s : σ) :
    ∃ token t, h.token.result s = (.ok token, t) ∧ view t = view s := by
  cases held : h.session.get s with
  | none =>
    obtain ⟨token, t, made, -, still⟩ := serves.result_token held
    exact ⟨token, t, made, still⟩
  | some token =>
    refine ⟨token, s, ?_, rfl⟩
    rw [Hypervisor.token, Attempt.result_bind, Attempt.result_lift, Part.read, Call.result_read, held]
    rfl

theorem answered (serves : h.Serves vm view knows) (deed : Deed) {token : String}
    (known : knows s token) : ∃ r t,
      (h.carrier (Deed.request h.baseUrl vm deed token)).result s = (.answered r, t) ∧
      r.status ≠ Http.unauthorized := by
  cases effect : deed.effect (view s).1 with
  | some b =>
    obtain ⟨r, t, answered, well, -⟩ := serves.done deed token s b known effect
    exact ⟨r, t, answered, ne_of_isSuccess well rfl⟩
  | none =>
    obtain ⟨r, t, answered, known, -⟩ := serves.refused deed token s known effect
    exact ⟨r, t, answered, known⟩

/-- In the end a request is made with a token that is known, and its answer is judged. -/
theorem exists_send (serves : h.Serves vm view knows) (deed : Deed) (s : σ) :
    ∃ token r t u, knows t token ∧ view t = view s ∧
      (h.carrier (Deed.request h.baseUrl vm deed token)).result t = (.answered r, u) ∧
      (h.send vm (Deed.request h.baseUrl vm deed)).result s = (judge vm r, u) := by
  obtain ⟨token, t, made, still⟩ := serves.exists_token s
  by_cases known : knows t token
  · obtain ⟨r, u, answered, welcome⟩ := serves.answered deed known
    refine ⟨token, r, t, u, known, still, answered, ?_⟩
    have asked := result_ask answered
    simp only [send, Attempt.result_bind, made, asked, if_neg welcome, Attempt.result_give]
  · obtain ⟨r, u, answered, unwelcome, still'⟩ := serves.unknown deed token t known
    obtain ⟨token', v, made', known', still''⟩ :=
      serves.result_token (serves.get_set none u)
    obtain ⟨r', w, answered', -⟩ := serves.answered deed known'
    refine ⟨token', r', v, w, known', ?_, answered', ?_⟩
    · exact (still''.trans (serves.view_set none u)).trans (still'.trans still)
    · have asked := result_ask answered
      have asked' := result_ask answered'
      simp only [send, Attempt.result_bind, made, asked, if_pos unwelcome, Attempt.result_lift,
        Part.write, Call.result_modify, made', asked', Attempt.result_give]

theorem yields_send (serves : h.Serves vm view knows) (deed : Deed) (effect : deed.effect b = some b') :
    (h.send vm (Deed.request h.baseUrl vm deed)).Yields view (b, c)
      (fun r => deed = .look → Names r.body b'.powerName) (b', c) := by
  intro s hs
  obtain ⟨token, r, t, u, known, still, answered, sent⟩ := serves.exists_send deed s
  have here : view t = (b, c) := still.trans hs
  obtain ⟨r', u', answered', well, names, after⟩ :=
    serves.done deed token t b' known (by rw [here]; exact effect)
  obtain ⟨same, rfl⟩ := Prod.mk.inj (answered'.symm.trans answered)
  obtain rfl : r' = r := Http.Reply.answered.inj same
  rw [here] at after
  exact ⟨r', u', sent.trans (by rw [judge_of_success well]), names, after⟩

theorem yields_powerState (serves : h.Serves vm view knows) (b : Body) (c : γ) :
    (h.powerState vm).Yields view (b, c) (· = b.power) (b, c) := by
  refine (serves.yields_send .look rfl).bind fun r names => ?_
  rw [stateOf_of_names (names rfl)]
  exact yields_pure (· = b.power) rfl _

theorem leads_powerOn (serves : h.Serves vm view knows) (c : γ) :
    (h.powerOn vm).Leads view (.off, c) (.booted, c) := by
  refine (serves.yields_powerState .off c).bind ?_
  rintro _ rfl
  exact (serves.yields_send .start rfl).bind fun _ _ => leads_log _ _

end Serves

end Hypervisor

end FaultLab.Machine
