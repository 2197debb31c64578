import Mathlib.Data.List.Basic
import FaultLab.Proofs.Tokens

/-! # Who is turned away

A hypervisor can refuse a user in two ways: it turns a login away, or it grants a token and then turns away what
comes with it.  Only the first is reported as such, and exactly then (`Sending.refused_iff`).  A request that is
turned away with the new token too is the last one, and fails like any other that was answered with a bad status
(`Rebuffed`). -/

namespace FaultLab.Machine

open Http (Letter Mail Reply)

theorem HypervisorError.message_failed_unauthorized (body : String) :
    (failed ⟨Http.unauthorized, body⟩).message = "http error: 401 Unauthorized: " ++ body := by
  have status : Http.describe Http.unauthorized = "401 Unauthorized" := by decide
  have opening : "http error: " ++ ("401 Unauthorized" ++ ": ") = "http error: 401 Unauthorized: " := rfl
  rw [← opening, String.append_assoc, ← status]
  rfl

namespace Hypervisor
variable {σ τ : Type} {h : Hypervisor σ} {vm user : String} {deed : Deed} {m n : Option String}
  {xs ys before after : List Missive} {x y : Missive}
  {r : Except HypervisorError Http.Response}

/-! ### Locked out -/

theorem grant_eq_refused_iff {reply : Reply} :
    h.grant reply = .error (.refused user) ↔ user = h.username ∧ reply.status? = some Http.unauthorized := by
  cases reply with
  | answered answer =>
    change h.tokenOf answer = .error (.refused user) ↔ user = h.username ∧
      some answer.status = some Http.unauthorized
    rw [Option.some.injEq]
    unfold tokenOf
    split
    · rename_i turned
      simp [turned, eq_comm]
    · rename_i heard
      refine iff_of_false (fun told => ?_) fun locked => heard locked.2
      split at told
      · cases told
      · split at told <;> cases told
  | refused => exact iff_of_false nofun nofun
  | brokenOff => exact iff_of_false nofun nofun
  | unusable => exact iff_of_false nofun nofun

/-- What a request about a machine is told does not say that the user is refused. -/
theorem judged_ne_refused (reply : Reply) : (answerOf reply >>= judge vm) ≠ .error (.refused user) := by
  intro told
  cases reply with
  | answered answer =>
    change judge vm answer = _ at told
    unfold judge at told
    split at told
    · cases told
    · split at told <;> cases told
  | refused => cases told
  | brokenOff => cases told
  | unusable => cases told

/-- The last letter was to get a token, and was turned away. -/
def LockedOut (h : Hypervisor σ) (xs : List Missive) : Prop :=
  ∃ reply, xs.getLast? = some (h.login reply) ∧ reply.status? = some Http.unauthorized

theorem lockedOut_iff {reply : Reply} (last : xs.getLast? = some (h.login reply)) :
    h.LockedOut xs ↔ reply.status? = some Http.unauthorized := by
  unfold LockedOut
  rw [last]
  refine ⟨?_, fun turned => ⟨reply, rfl, turned⟩⟩
  rintro ⟨reply', same, turned⟩
  have replies : reply = reply' := congrArg Letter.reply (Option.some.inj same)
  rwa [replies]

theorem not_lockedOut (last : xs.getLast? = some x) (other : h.isLogin x = false) : ¬ h.LockedOut xs := by
  rintro ⟨reply, same, -⟩
  rw [last] at same
  have login := congrArg h.isLogin (Option.some.inj same)
  rw [other, isLogin_login] at login
  cases login

/-- A user counts as refused exactly if the last letter was a login that was turned away. -/
theorem Sending.refused_iff (sent : Sending h vm deed m xs r n) :
    r = .error (.refused user) ↔ user = h.username ∧ h.LockedOut xs := by
  cases sent with
  | shut refused =>
    rw [lockedOut_iff rfl, ← grant_eq_refused_iff, refused, Except.error.injEq, Except.error.injEq]
  | once entry reply known =>
    exact iff_of_false (judged_ne_refused reply) fun locked =>
      not_lockedOut (List.getLast?_append_cons ..) (h.isLogin_plea ..) locked.2
  | locked entry turned refused =>
    rw [lockedOut_iff (List.getLast?_append_cons ..), ← grant_eq_refused_iff, refused, Except.error.injEq,
      Except.error.injEq]
  | twice entry turned granted last =>
    exact iff_of_false (judged_ne_refused last) fun locked =>
      not_lockedOut (List.getLast?_append_cons ..) (h.isLogin_plea ..) locked.2

theorem Sending.getLast?_append (sent : Sending h vm deed m ys r n) (xs : List Missive) :
    (xs ++ ys).getLast? = ys.getLast? := by
  refine List.getLast?_append_of_ne_nil xs ?_
  cases sent <;> simp

theorem bind_eq_refused_iff {g : Http.Response → Except HypervisorError Unit}
    (mute : ∀ answer, g answer ≠ .error (.refused user)) :
    r >>= g = .error (.refused user) ↔ r = .error (.refused user) := by
  cases r with
  | ok answer => exact iff_of_false (mute answer) nofun
  | error e =>
    change Except.error e = _ ↔ _
    rw [Except.error.injEq, Except.error.injEq]

theorem Fulfilled.refused_iff {outcome : Except HypervisorError Unit}
    (fulfilled : Fulfilled h vm m xs outcome n) :
    outcome = .error (.refused user) ↔ user = h.username ∧ h.LockedOut xs := by
  cases fulfilled with
  | one sent g mute => rw [bind_eq_refused_iff fun answer => mute answer user, sent.refused_iff]
  | @two deed _ _ _ xs ys answer q look act =>
    have last : h.LockedOut (xs ++ ys) ↔ h.LockedOut ys := by
      unfold LockedOut
      rw [act.getLast?_append]
    rw [last, ← act.refused_iff]
    exact bind_eq_refused_iff fun _ => nofun

/-! ### Turned away twice -/

/-- A request ends with a letter about a machine, for whose answer it fails; the token is kept. -/
structure Rebuffed {α : Type} (xs : List Missive) (y : Missive)
    (r : Except HypervisorError α) (m : Option String) : Prop where
  last : xs.getLast? = some y
  failed : ∃ answer, y.reply = .answered answer ∧ r = .error (.failed answer)
  kept : m = y.memory

theorem judge_unauthorized {answer : Http.Response} (turned : answer.status = Http.unauthorized) :
    judge vm answer = .error (.failed answer) := by
  unfold judge
  rw [turned]
  rfl

theorem Sending.rebuffed (sent : Sending h vm deed m xs r n)
    (pleas : h.pleas xs = before ++ x :: y :: after) (first : h.turnedAway x = true)
    (second : h.turnedAway y = true) : after = [] ∧ Rebuffed xs y r n := by
  have size := congrArg List.length pleas
  simp only [List.length_append, List.length_cons] at size
  have few := sent.thrifty.pleas
  obtain rfl : before = [] := List.length_eq_zero_iff.mp (by omega)
  obtain rfl : after = [] := List.length_eq_zero_iff.mp (by omega)
  refine ⟨rfl, ?_⟩
  cases sent with
  | shut refused => simp at size
  | once entry reply known => simp [entry.pleas_eq] at size
  | locked entry turned refused => simp [entry.pleas_eq] at size
  | twice entry turned granted last =>
    simp only [pleas_append, entry.pleas_eq, pleas_plea, pleas_login, pleas_nil, List.nil_append,
      List.cons.injEq, and_true] at pleas
    obtain ⟨rfl, rfl⟩ := pleas
    simp only [turnedAway_plea, decide_eq_true_eq] at second
    obtain ⟨answer, rfl, status⟩ := Http.Reply.status?_eq_some.mp second
    exact ⟨List.getLast?_append_cons .., ⟨answer, rfl, judge_unauthorized status⟩, rfl⟩

theorem Sending.heard {answer : Http.Response} (sent : Sending h vm deed m xs (.ok answer) n)
    (pleas : h.pleas xs = before ++ [x]) : h.turnedAway x = false := by
  obtain ⟨well, earlier, token, ends⟩ := sent.answered
  have last : x = h.plea vm deed token (.answered answer) := by
    rw [pleas] at ends
    exact List.singleton_inj.mp (List.append_inj' ends rfl).2
  rw [last, turnedAway_plea]
  exact decide_eq_false fun turned => ne_of_isSuccess well rfl (Option.some.inj turned)

theorem Fulfilled.rebuffed {outcome : Except HypervisorError Unit} (fulfilled : Fulfilled h vm m xs outcome n)
    (pleas : h.pleas xs = before ++ x :: y :: after) (first : h.turnedAway x = true)
    (second : h.turnedAway y = true) : after = [] ∧ Rebuffed xs y outcome n := by
  cases fulfilled with
  | one sent g mute =>
    obtain ⟨rfl, last, ⟨answer, reply, rfl⟩, kept⟩ := sent.rebuffed pleas first second
    exact ⟨rfl, last, ⟨answer, reply, rfl⟩, kept⟩
  | @two deed _ _ _ xs ys answer q look act =>
    rw [pleas_append] at pleas
    -- both letters are about what is done: the look has succeeded
    have both : ∃ between, h.pleas ys = between ++ x :: y :: after := by
      rcases List.append_eq_append_iff.mp pleas with ⟨between, -, rest⟩ | ⟨between, early, rest⟩
      · exact ⟨between, rest⟩
      · match between, early, rest with
        | [], _, rest => exact ⟨[], rest.symm⟩
        | [z], early, rest =>
          rw [List.singleton_append, List.cons.injEq] at rest
          obtain ⟨rfl, -⟩ := rest
          rw [look.heard early] at first
          cases first
        | z :: w :: between, early, rest =>
          simp only [List.cons_append, List.cons.injEq] at rest
          obtain ⟨rfl, rfl, -⟩ := rest
          obtain ⟨-, -, ⟨answer', -, failed⟩, -⟩ := look.rebuffed early first second
          cases failed
    obtain ⟨between, pleas⟩ := both
    obtain ⟨rfl, last, ⟨answer, reply, rfl⟩, kept⟩ := act.rebuffed pleas first second
    exact ⟨rfl, (act.getLast?_append xs).trans last, ⟨answer, reply, rfl⟩, kept⟩

/-- **Who is turned away with a new token too does not count as refused.**  Whatever a client is told to do, with
a token or without one: two letters about a machine in a row that are turned away are the last two, the new token
is kept, and the failure is the one of any request with a bad answer.  The user only counts as refused if the last
letter was a login that was turned away. -/
theorem turned_away_twice_fails (baseUrl username password : String) (serve : Http.Carrier τ) (vm : String)
    (wish : Wish) (s : Mail (Option String) τ) :
    let h := console baseUrl username password serve
    ∃ xs outcome t, (wish.ask h vm).Posts s xs outcome t ∧
      (∀ before x y after, h.pleas xs = before ++ x :: y :: after → h.turnedAway x = true →
        h.turnedAway y = true → after = [] ∧ xs.getLast? = some y ∧ t.memory = y.memory ∧
          ∃ body e, y.reply = .answered ⟨Http.unauthorized, body⟩ ∧ outcome = .error e ∧ e.kind = .http ∧
            e.message = "http error: 401 Unauthorized: " ++ body) ∧
      ∀ user, outcome = .error (.refused user) ↔ user = username ∧ h.LockedOut xs := by
  intro h
  have filed := filed_console baseUrl username password serve
  obtain ⟨xs, outcome, t, posts, fulfilled⟩ := filed.posts_wish vm wish s
  refine ⟨xs, outcome, t, posts, fun before x y after pleas first second => ?_, fun user =>
    fulfilled.refused_iff⟩
  obtain ⟨none, last, ⟨⟨status, body⟩, reply, failed⟩, kept⟩ := fulfilled.rebuffed pleas first second
  have turned : status = Http.unauthorized := by
    unfold turnedAway at second
    rw [reply] at second
    simpa [Reply.status?] using (Bool.and_eq_true_iff.mp second).2
  subst turned
  exact ⟨none, last, kept, body, _, reply, failed, rfl, HypervisorError.message_failed_unauthorized body⟩

/-! ### A client whose hypervisor follows a script -/

section patient
variable {token token' : String} {login : Reply} {replies : List Reply} {ls : List Missive}

theorem result_ask_patient (request : Http.Request) (m : Option String) (reply : Reply) :
    (patient.ask request).result ⟨m, reply :: replies, ls⟩ =
      (answerOf reply, ⟨m, replies, ls ++ [⟨request, m, reply⟩]⟩) := rfl

theorem result_token_held :
    patient.token.result ⟨some token, replies, ls⟩ = (.ok token, ⟨some token, replies, ls⟩) := rfl

theorem result_token_granted (granted : patient.grant login = .ok token) :
    patient.token.result ⟨none, login :: replies, ls⟩ =
      (.ok token, ⟨some token, replies, ls ++ [patient.login login]⟩) := by
  have looked : (Attempt.lift patient.session.read : Attempt _ HypervisorError _).result
      ⟨none, login :: replies, ls⟩ = (.ok none, ⟨none, login :: replies, ls⟩) := rfl
  rw [grant] at granted
  cases answered : answerOf login with
  | error e =>
    rw [answered] at granted
    cases granted
  | ok r =>
    rw [answered] at granted
    replace granted : patient.tokenOf r = .ok token := granted
    simp only [Hypervisor.token, Attempt.result_bind, looked, result_ask_patient, answered, granted,
      Attempt.result_give]
    rfl

/-- A request with a token that is known is sent once. -/
theorem result_send_known (vm : String) (deed : Deed) {r : Http.Response}
    (known : r.status ≠ Http.unauthorized) :
    (patient.send vm (deed.request patient.baseUrl vm)).result ⟨some token, .answered r :: replies, ls⟩ =
      (judge vm r, ⟨some token, replies, ls ++ [patient.plea vm deed token (.answered r)]⟩) := by
  simp only [send, Attempt.result_bind, result_token_held, result_ask_patient, answerOf, if_neg known,
    Attempt.result_give, Hypervisor.plea]

/-- A request with a token that is turned away is sent once more, with a new one. -/
theorem result_send_turned_away (granted : patient.grant login = .ok token') (vm : String) (deed : Deed)
    (body : String) (r : Http.Response) :
    (patient.send vm (deed.request patient.baseUrl vm)).result
        ⟨some token, .answered ⟨401, body⟩ :: login :: .answered r :: replies, ls⟩ =
      (judge vm r, ⟨some token', replies, ls ++ [patient.plea vm deed token (.answered ⟨401, body⟩),
        patient.login login, patient.plea vm deed token' (.answered r)]⟩) := by
  have turned : 401 = Http.unauthorized := rfl
  have forgot : ∀ ls, (Attempt.lift (patient.session.write none) : Attempt _ HypervisorError _).result
      ⟨some token, login :: .answered r :: replies, ls⟩ = (.ok (), ⟨none, login :: .answered r :: replies, ls⟩) :=
    fun _ => rfl
  simp only [send, Attempt.result_bind, result_token_held, result_ask_patient, answerOf, if_pos turned,
    forgot, result_token_granted granted, Attempt.result_give, List.append_assoc, Hypervisor.plea]
  rfl

end patient

/-- A hypervisor that grants a token and turns it away at once. -/
def fickle : List Reply := [.answered ⟨401, ""⟩, .answered ⟨201, "\"b\""⟩, .answered ⟨401, "no"⟩]

theorem grant_fickle : patient.grant (.answered ⟨201, "\"b\""⟩) = .ok "b" := by decide +kernel

/-- The answer about a machine that is on. -/
def isOn : Reply := .answered ⟨200, "\x7b\"state\":\"POWERED_ON\"\x7d"⟩

theorem stateOf_isOn : stateOf ⟨200, "\x7b\"state\":\"POWERED_ON\"\x7d"⟩ = .ok .on := by decide +kernel

/-- A machine that is on is to be powered off.  The token does for the look but not for what is done, and neither
does the new one. -/
theorem turned_away_twice_fails_fickle :
    ∃ xs e t, (Wish.powerOff.ask patient "m").Posts ⟨some "a", isOn :: fickle, []⟩ xs (.error e) t ∧
      xs = [patient.plea "m" .look "a" isOn, patient.plea "m" .stop "a" (.answered ⟨401, ""⟩),
        patient.login (.answered ⟨201, "\"b\""⟩), patient.plea "m" .stop "b" (.answered ⟨401, "no"⟩)] ∧
      t.memory = some "b" ∧ e.message = "http error: 401 Unauthorized: " ++ "no" := by
  obtain ⟨xs, outcome, t, posts, rebuffed, -⟩ := turned_away_twice_fails "h" "u" "p" Http.scripted "m" .powerOff
    ⟨some "a", isOn :: fickle, []⟩
  have left : ((Wish.powerOff.ask patient "m").result ⟨some "a", isOn :: fickle, []⟩).2 = t :=
    congrArg Prod.snd posts.result
  have letters : xs = [patient.plea "m" .look "a" isOn, patient.plea "m" .stop "a" (.answered ⟨401, ""⟩),
      patient.login (.answered ⟨201, "\"b\""⟩), patient.plea "m" .stop "b" (.answered ⟨401, "no"⟩)] := by
    have filed : t.letters = xs := posts.letters
    have looked : (patient.powerState "m").result ⟨some "a", isOn :: fickle, []⟩ =
        (.ok .on, ⟨some "a", fickle, [patient.plea "m" .look "a" isOn]⟩) := by
      change Attempt.result (patient.send "m" (Deed.look.request patient.baseUrl "m") >>= _) _ = _
      rw [Attempt.result_bind, isOn, result_send_known "m" .look (by decide), judge_of_success rfl]
      simp only [Attempt.result_give, stateOf_isOn]
      rfl
    rw [← filed, ← left, Wish.ask, powerOff, Attempt.result_bind, looked]
    change (Attempt.result (patient.send "m" (Deed.stop.request patient.baseUrl "m") >>= _) _).2.letters = _
    rw [Attempt.result_bind, fickle, result_send_turned_away grant_fickle]
    rfl
  have pleas : patient.pleas xs = [patient.plea "m" .look "a" isOn] ++
      patient.plea "m" .stop "a" (.answered ⟨401, ""⟩) :: patient.plea "m" .stop "b" (.answered ⟨401, "no"⟩) ::
        [] := by
    rw [letters]
    simp
  obtain ⟨-, -, kept, body, e, reply, rfl, -, words⟩ := rebuffed _ _ _ _ pleas
    ((turnedAway_plea ..).trans rfl) ((turnedAway_plea ..).trans rfl)
  cases reply
  exact ⟨xs, e, t, posts, letters, kept, words⟩

/-- Two letters in a row are turned away although the login between them is granted, and yet the user does not
count as refused. -/
theorem turned_away_twice_not_refused :
    let made := (Wish.powerState.ask patient "m").result ⟨some "a", fickle, []⟩
    made.2.letters = [patient.plea "m" .look "a" (.answered ⟨401, ""⟩),
      patient.login (.answered ⟨201, "\"b\""⟩), patient.plea "m" .look "b" (.answered ⟨401, "no"⟩)] ∧
    patient.grant (.answered ⟨201, "\"b\""⟩) = .ok "b" ∧ made.1 ≠ .error (.refused patient.username) := by
  intro made
  have looked : made = (.error (.failed ⟨401, "no"⟩), ⟨some "b", [],
      [patient.plea "m" .look "a" (.answered ⟨401, ""⟩), patient.login (.answered ⟨201, "\"b\""⟩),
        patient.plea "m" .look "b" (.answered ⟨401, "no"⟩)]⟩) := by
    change Attempt.result (patient.send "m" (Deed.look.request patient.baseUrl "m") >>= _ >>= _) _ = _
    rw [Attempt.result_bind, Attempt.result_bind, fickle, result_send_turned_away grant_fickle]
    rfl
  rw [looked]
  exact ⟨rfl, grant_fickle, nofun⟩

end Hypervisor

end FaultLab.Machine
