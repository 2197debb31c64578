import FaultLab.Proofs.HypervisorCalls
import FaultLab.Proofs.SentRequests

/-! # The tokens of a hypervisor

The client of a hypervisor keeps one token.  It writes two kinds of letters: to get a token, and about a
machine, with a token.  Two accounts are given of what it writes.

`Sending` lists the letters of one request about a machine: there are few, and the request goes out a second
time only if the first was turned away and a new token was granted in between (`Sending.thrifty`).

`Course` follows the token from letter to letter, over any number of requests.  A course says whose token a
letter carries (`Course.carries`), and there are not many more tokens in it than letters that were turned
away (`Course.length_granted`). -/

namespace FaultLab.Machine

open Http (Letter Mail Reply)

theorem Deed.url_request_ne (baseUrl vm token : String) (deed : Deed) :
    (deed.request baseUrl vm token).url ≠ baseUrl ++ "/api/session" := by
  intro same
  have chars := congrArg String.toList same
  cases deed <;> simp [request, actionUrl, powerUrl, guestPowerUrl, toString] at chars

namespace Hypervisor
variable {σ τ : Type}

/-! ### Two kinds of letters -/

/-- A letter of a client, who remembers its token. -/
abbrev Missive := Letter (Option String)

/-- A client whose letters are filed. -/
def console (baseUrl username password : String) (serve : Http.Carrier τ) :
    Hypervisor (Mail (Option String) τ) :=
  ⟨baseUrl, username, password, Mail.memoryPart, Mail.carrier serve⟩

/-- The letter to get a token, which is written by who has none. -/
def login (h : Hypervisor σ) (reply : Reply) : Missive := ⟨h.loginRequest, none, reply⟩

/-- A letter about a machine, with the token that is kept. -/
def plea (h : Hypervisor σ) (vm : String) (deed : Deed) (token : String) (reply : Reply) : Missive :=
  ⟨deed.request h.baseUrl vm token, some token, reply⟩

/-- Whether a letter is to get a token. -/
def isLogin (h : Hypervisor σ) (x : Missive) : Bool := x.request.url = h.baseUrl ++ "/api/session"

/-- What becomes of a letter to get a token. -/
def grant (h : Hypervisor σ) (reply : Reply) : Except HypervisorError String := answerOf reply >>= h.tokenOf

/-- The token that a letter has brought. -/
def granted? (h : Hypervisor σ) (x : Missive) : Option String :=
  if h.isLogin x then (h.grant x.reply).toOption else none

/-- The tokens that letters have brought. -/
def granted (h : Hypervisor σ) (xs : List Missive) : List String := xs.filterMap h.granted?

/-- The letters about machines. -/
def pleas (h : Hypervisor σ) (xs : List Missive) : List Missive := xs.filter fun x => !h.isLogin x

/-- Whether a letter about a machine was turned away for its token. -/
def turnedAway (h : Hypervisor σ) (x : Missive) : Bool :=
  !h.isLogin x && x.reply.status? = some Http.unauthorized

section letters
variable (h : Hypervisor σ) (vm token : String) (deed : Deed) (reply : Reply)

@[simp] theorem isLogin_login : h.isLogin (h.login reply) = true := by
  simp [isLogin, login, loginRequest]

@[simp] theorem isLogin_plea : h.isLogin (h.plea vm deed token reply) = false := by
  simp [isLogin, plea, Deed.url_request_ne]

@[simp] theorem granted?_login : h.granted? (h.login reply) = (h.grant reply).toOption := by
  rw [granted?, isLogin_login]
  rfl

@[simp] theorem granted?_plea : h.granted? (h.plea vm deed token reply) = none := by
  simp [granted?]

@[simp] theorem turnedAway_login : h.turnedAway (h.login reply) = false := by simp [turnedAway]

@[simp] theorem turnedAway_plea : h.turnedAway (h.plea vm deed token reply) =
    decide (reply.status? = some Http.unauthorized) := by
  rw [turnedAway, isLogin_plea]
  rfl

@[simp] theorem granted_nil : h.granted [] = [] := rfl

@[simp] theorem granted_login (xs : List Missive) :
    h.granted (h.login reply :: xs) = (h.grant reply).toOption.toList ++ h.granted xs := by
  unfold granted
  cases brought : (h.grant reply).toOption <;> simp [brought]

@[simp] theorem granted_plea (xs : List Missive) :
    h.granted (h.plea vm deed token reply :: xs) = h.granted xs := by
  simp [granted]

@[simp] theorem pleas_nil : h.pleas [] = [] := rfl

@[simp] theorem pleas_append (xs ys : List Missive) : h.pleas (xs ++ ys) = h.pleas xs ++ h.pleas ys :=
  List.filter_append ..

@[simp] theorem pleas_login (xs : List Missive) : h.pleas (h.login reply :: xs) = h.pleas xs := by
  simp [pleas]

@[simp] theorem pleas_plea (xs : List Missive) :
    h.pleas (h.plea vm deed token reply :: xs) = h.plea vm deed token reply :: h.pleas xs := by
  simp [pleas]

end letters

/-! ### The token from letter to letter -/

/-- Letters in their order, and the token before and after them.  Whoever has no token logs in and keeps what
is granted; a letter about a machine takes the token along, which may be forgotten if the letter is turned
away. -/
inductive Course (h : Hypervisor σ) : Option String → List Missive → Option String → Prop
  | nil (m : Option String) : Course h m [] m
  | login (reply : Reply) {xs : List Missive} {m : Option String}
    (rest : Course h (h.grant reply).toOption xs m) : Course h none (h.login reply :: xs) m
  | plea (vm : String) (deed : Deed) (token : String) (reply : Reply) {xs : List Missive}
    {m : Option String} (rest : Course h (some token) xs m) :
    Course h (some token) (h.plea vm deed token reply :: xs) m
  | lost (vm : String) (deed : Deed) (token : String) {reply : Reply}
    (turned : reply.status? = some Http.unauthorized) {xs : List Missive} {m : Option String}
    (rest : Course h none xs m) : Course h (some token) (h.plea vm deed token reply :: xs) m

namespace Course
variable {h : Hypervisor σ} {m n o : Option String} {xs ys before after : List Missive} {x : Missive}

theorem append (first : Course h m xs n) (second : Course h n ys o) : Course h m (xs ++ ys) o := by
  induction first with
  | nil m => exact second
  | login reply _ ih => exact .login reply (ih second)
  | plea vm deed token reply _ ih => exact .plea vm deed token reply (ih second)
  | lost vm deed token turned _ ih => exact .lost vm deed token turned (ih second)

theorem of_append (whole : Course h m (xs ++ ys) o) : ∃ n, Course h m xs n ∧ Course h n ys o := by
  induction xs generalizing m with
  | nil => exact ⟨m, .nil m, whole⟩
  | cons x xs ih =>
    cases whole with
    | login reply rest =>
      obtain ⟨n, first, second⟩ := ih rest
      exact ⟨n, .login reply first, second⟩
    | plea vm deed token reply rest =>
      obtain ⟨n, first, second⟩ := ih rest
      exact ⟨n, .plea vm deed token reply first, second⟩
    | lost vm deed token turned rest =>
      obtain ⟨n, first, second⟩ := ih rest
      exact ⟨n, .lost vm deed token turned first, second⟩

/-- The token before some letters is what the first of them was written with; if there is none, it stays. -/
theorem memory_eq (course : Course h m xs n) : (xs.head?.map Letter.memory).getD n = m := by
  cases course <;> rfl

/-- The token that is kept is the last one that was granted. -/
theorem getLast?_granted {token : String} (course : Course h m xs (some token)) :
    (m.toList ++ h.granted xs).getLast? = some token := by
  generalize kept : some token = n at course
  induction course with
  | nil m =>
    subst kept
    rfl
  | login reply _ ih => simpa using ih kept
  | plea vm deed token' reply _ ih => simpa using ih kept
  | lost vm deed token' turned _ ih =>
    have later : (h.granted _).getLast? = _ := ih kept
    rw [granted_plea, List.getLast?_append, later, ← kept]
    rfl

/-- Each token but the one that is kept was lost with a letter that was turned away. -/
theorem length_granted (course : Course h m xs n) :
    m.toList.length + (h.granted xs).length ≤ n.toList.length + xs.countP h.turnedAway := by
  induction course with
  | nil m => simp
  | login reply _ ih => simpa [List.countP_cons] using ih
  | plea vm deed token reply _ ih =>
    simp only [granted_plea, List.countP_cons]
    omega
  | lost vm deed token turned _ ih =>
    simp [turned] at ih ⊢
    omega

/-- Only who has no token logs in, and who is granted none has none. -/
theorem of_isLogin (course : Course h m (before ++ x :: after) n) (login : h.isLogin x = true) :
    x = h.login x.reply ∧ (h.granted? x = none → (after.head?.map Letter.memory).getD n = none) := by
  obtain ⟨o, -, rest⟩ := course.of_append
  cases rest with
  | login reply rest =>
    refine ⟨rfl, fun refused => ?_⟩
    rw [granted?_login] at refused
    rw [rest.memory_eq, refused]
  | plea vm deed token reply rest => simp at login
  | lost vm deed token turned rest => simp at login

theorem carries (course : Course h none (before ++ x :: after) n) (other : h.isLogin x = false) :
    ∃ vm deed token, x = h.plea vm deed token x.reply ∧ (h.granted before).getLast? = some token := by
  obtain ⟨o, first, rest⟩ := course.of_append
  cases rest with
  | login reply rest => simp at other
  | plea vm deed token reply rest => exact ⟨vm, deed, token, rfl, first.getLast?_granted⟩
  | lost vm deed token turned rest => exact ⟨vm, deed, token, rfl, first.getLast?_granted⟩

end Course

/-! ### One request about a machine -/

/-- How one may come by a token: it is at hand, or one logs in. -/
inductive Entry (h : Hypervisor σ) :
    Option String → List Missive → Except HypervisorError String → Prop
  | held (token : String) : Entry h (some token) [] (.ok token)
  | login (reply : Reply) : Entry h none [h.login reply] (h.grant reply)

/-- What a request about a machine may come to: its letters, its outcome, and the token before and after. -/
inductive Sending (h : Hypervisor σ) (vm : String) (deed : Deed) : Option String →
    List Missive → Except HypervisorError Http.Response → Option String → Prop
  /-- There is no token to be had. -/
  | shut {reply : Reply} {e : HypervisorError} (refused : h.grant reply = .error e) :
    Sending h vm deed none [h.login reply] (.error e) none
  /-- The letter is not turned away. -/
  | once {m : Option String} {xs : List Missive} {token : String}
    (entry : Entry h m xs (.ok token)) (reply : Reply) (known : reply.status? ≠ some Http.unauthorized) :
    Sending h vm deed m (xs ++ [h.plea vm deed token reply]) (answerOf reply >>= judge vm) (some token)
  /-- The letter is turned away, and there is no other token to be had. -/
  | locked {m : Option String} {xs : List Missive} {token : String}
    (entry : Entry h m xs (.ok token)) {first : Reply} (turned : first.status? = some Http.unauthorized)
    {reply : Reply} {e : HypervisorError} (refused : h.grant reply = .error e) :
    Sending h vm deed m (xs ++ [h.plea vm deed token first, h.login reply]) (.error e) none
  /-- The letter is turned away, and goes out once more with another token. -/
  | twice {m : Option String} {xs : List Missive} {token : String}
    (entry : Entry h m xs (.ok token)) {first : Reply} (turned : first.status? = some Http.unauthorized)
    {reply : Reply} {fresh : String} (granted : h.grant reply = .ok fresh) (last : Reply) :
    Sending h vm deed m (xs ++ [h.plea vm deed token first, h.login reply, h.plea vm deed fresh last])
      (answerOf last >>= judge vm) (some fresh)

/-- The rules for the letters of a request about a machine. -/
structure Thrifty (h : Hypervisor σ) (vm : String) (deed : Deed) (xs : List Missive) : Prop where
  logins : xs.countP h.isLogin ≤ 2
  pleas : (h.pleas xs).length ≤ 2
  same : ∀ x ∈ h.pleas xs, ∃ token, x.request = deed.request h.baseUrl vm token
  /-- Between the two letters a new token was granted, and the second one carries it. -/
  again : ∀ x y, h.pleas xs = [x, y] → x.reply.status? = some Http.unauthorized ∧
    ∃ before l fresh, xs = before ++ [x, l, y] ∧ h.granted? l = some fresh ∧
      y.request = deed.request h.baseUrl vm fresh

section sending
variable {h : Hypervisor σ} {vm : String} {deed : Deed} {m n : Option String} {xs : List Missive}

theorem Entry.course {r : Except HypervisorError String} (entry : Entry h m xs r) :
    Course h m xs r.toOption := by
  cases entry with
  | held token => exact .nil _
  | login reply => exact .login reply (.nil _)

theorem Entry.pleas_eq {r : Except HypervisorError String} (entry : Entry h m xs r) :
    h.pleas xs = [] := by
  cases entry <;> simp

theorem Entry.of_error {e : HypervisorError} (entry : Entry h m xs (.error e)) :
    ∃ reply, m = none ∧ xs = [h.login reply] ∧ h.grant reply = .error e := by
  generalize failed : Except.error e = r at entry
  cases entry with
  | held token => cases failed
  | login reply => exact ⟨reply, rfl, rfl, rfl⟩

theorem Entry.logins_le {r : Except HypervisorError String} (entry : Entry h m xs r) :
    xs.countP h.isLogin ≤ 1 := by
  cases entry <;> simp

theorem Sending.course {r : Except HypervisorError Http.Response} (sent : Sending h vm deed m xs r n) :
    Course h m xs n := by
  cases sent with
  | shut refused =>
    refine .login _ ?_
    rw [refused]
    exact .nil none
  | once entry reply known => exact entry.course.append (.plea vm deed _ _ (.nil _))
  | locked entry turned refused =>
    refine entry.course.append (.lost vm deed _ turned (.login _ ?_))
    rw [refused]
    exact .nil none
  | twice entry turned granted last =>
    refine entry.course.append (.lost vm deed _ turned (.login _ ?_))
    rw [granted]
    exact .plea vm deed _ last (.nil _)

theorem Entry.isLogin_of_mem {r : Except HypervisorError String} {x : Missive}
    (entry : Entry h m xs r) (hx : x ∈ xs) : h.isLogin x = true := by
  cases entry with
  | held token => cases hx
  | login reply =>
    rw [List.mem_singleton.mp hx]
    exact h.isLogin_login reply

/-- All its letters but those to get a token are the same request. -/
theorem Sending.eq_plea_of_mem {r : Except HypervisorError Http.Response} {x : Missive}
    (sent : Sending h vm deed m xs r n) (hx : x ∈ xs) (other : h.isLogin x = false) :
    ∃ token reply, x = h.plea vm deed token reply := by
  have apart : ∀ y, h.isLogin y = true → x ≠ y := by
    rintro y login rfl
    rw [other] at login
    cases login
  cases sent with
  | shut refused => exact absurd (List.mem_singleton.mp hx) (apart _ (h.isLogin_login _))
  | once entry reply known =>
    rcases List.mem_append.mp hx with hx | hx
    · exact absurd rfl (apart x (entry.isLogin_of_mem hx))
    · simp only [List.mem_singleton] at hx
      exact ⟨_, _, hx⟩
  | locked entry turned refused =>
    rcases List.mem_append.mp hx with hx | hx
    · exact absurd rfl (apart x (entry.isLogin_of_mem hx))
    · simp only [List.mem_cons, List.not_mem_nil, or_false, apart _ (h.isLogin_login _)] at hx
      exact ⟨_, _, hx⟩
  | twice entry turned granted last =>
    rcases List.mem_append.mp hx with hx | hx
    · exact absurd rfl (apart x (entry.isLogin_of_mem hx))
    · simp only [List.mem_cons, List.not_mem_nil, or_false, apart _ (h.isLogin_login _), false_or] at hx
      rcases hx with hx | hx
      · exact ⟨_, _, hx⟩
      · exact ⟨_, _, hx⟩

theorem Sending.thrifty {r : Except HypervisorError Http.Response} (sent : Sending h vm deed m xs r n) :
    Thrifty h vm deed xs := by
  have same : ∀ x ∈ h.pleas xs, ∃ token, x.request = deed.request h.baseUrl vm token := by
    intro x hx
    obtain ⟨there, other⟩ := List.mem_filter.mp hx
    obtain ⟨token, reply, rfl⟩ := sent.eq_plea_of_mem there (by simpa using other)
    exact ⟨token, rfl⟩
  cases sent with
  | shut refused => exact ⟨by simp, by simp, same, by simp⟩
  | once entry reply known =>
    have few := entry.logins_le
    have pleas := entry.pleas_eq
    refine ⟨?_, by simp [pleas], same, by simp [pleas]⟩
    simp [List.countP_append]
    omega
  | locked entry turned refused =>
    have few := entry.logins_le
    have pleas := entry.pleas_eq
    refine ⟨?_, by simp [pleas], same, by simp [pleas]⟩
    simp [List.countP_append]
    omega
  | twice entry turned granted last =>
    have few := entry.logins_le
    have pleas := entry.pleas_eq
    refine ⟨?_, by simp [pleas], same, fun x y both => ?_⟩
    · simp [List.countP_append]
      omega
    · simp only [pleas_append, pleas, pleas_plea, pleas_login, pleas_nil, List.nil_append, List.cons.injEq,
        and_true] at both
      obtain ⟨rfl, rfl⟩ := both
      exact ⟨turned, _, _, _, rfl, by simp [granted, Except.toOption], rfl⟩

theorem judge_eq_ok {r answer : Http.Response} (judged : judge vm r = .ok answer) :
    r = answer ∧ Http.isSuccess answer.status = true := by
  unfold judge at judged
  split at judged
  · cases judged
  · split at judged
    · cases judged
    · rename_i well
      cases judged
      exact ⟨rfl, by simpa using well⟩

theorem answered_of_judged {reply : Reply} {answer : Http.Response}
    (judged : answerOf reply >>= judge vm = .ok answer) :
    reply = .answered answer ∧ Http.isSuccess answer.status = true := by
  cases reply with
  | answered r =>
    obtain ⟨rfl, well⟩ := judge_eq_ok judged
    exact ⟨rfl, well⟩
  | refused => cases judged
  | brokenOff => cases judged
  | unusable => cases judged

theorem Sending.answered {answer : Http.Response} (sent : Sending h vm deed m xs (.ok answer) n) :
    Http.isSuccess answer.status = true ∧
      ∃ before token, h.pleas xs = before ++ [h.plea vm deed token (.answered answer)] := by
  generalize done : Except.ok answer = r at sent
  cases sent with
  | shut refused => cases done
  | @once _ _ token entry reply known =>
    obtain ⟨rfl, well⟩ := answered_of_judged done.symm
    exact ⟨well, [], token, by simp [entry.pleas_eq]⟩
  | locked entry turned refused => cases done
  | @twice _ _ token entry first turned reply fresh granted last =>
    obtain ⟨rfl, well⟩ := answered_of_judged done.symm
    exact ⟨well, [h.plea vm deed token first], fresh, by simp [entry.pleas_eq]⟩

end sending

/-! ### Switching a machine on or off -/

/-- Whether a letter is to have something done to a machine. -/
def isAct (h : Hypervisor σ) (x : Missive) : Bool := !h.isLogin x && x.request.method = .post

/-- What it may come to that somebody looks at the state of a machine and, unless it is as it should be, has
something done about it. -/
inductive Switching (h : Hypervisor σ) (vm : String) (deed : Deed) (settled : PowerState) : Option String →
    List Missive → Except HypervisorError Unit → Option String → Prop
  /-- The state is as it should be, or cannot be told. -/
  | looks {m n : Option String} {xs : List Missive}
    {r : Except HypervisorError Http.Response} (look : Sending h vm .look m xs r n)
    (idle : ∀ state, r >>= stateOf = .ok state → state = settled) :
    Switching h vm deed settled m xs (r >>= stateOf >>= fun _ => .ok ()) n
  /-- The state is another one. -/
  | acts {m n o : Option String} {xs ys : List Missive}
    {answer : Http.Response} {state : PowerState} {r : Except HypervisorError Http.Response}
    (look : Sending h vm .look m xs (.ok answer) n) (told : stateOf answer = .ok state)
    (other : state ≠ settled) (act : Sending h vm deed n ys r o) :
    Switching h vm deed settled m (xs ++ ys) (r >>= fun _ => .ok ()) o

/-- The rules for the letters with which a machine is switched. -/
structure Guarded (h : Hypervisor σ) (vm : String) (deed : Deed) (settled : PowerState)
    (xs : List Missive) : Prop where
  /-- Something is done only after a look that said that there was something to do. -/
  looked : ∀ before x after, xs = before ++ x :: after → h.isAct x = true →
    (∃ token reply, x = h.plea vm deed token reply) ∧
    ∃ token answer state, h.plea vm .look token (.answered answer) ∈ before ∧
      Http.isSuccess answer.status = true ∧ stateOf answer = .ok state ∧ state ≠ settled
  /-- It is asked for once, or twice if the first letter was turned away. -/
  once : (xs.filter h.isAct).length ≤ 1 ∨
    ∃ x y, xs.filter h.isAct = [x, y] ∧ x.reply.status? = some Http.unauthorized

section switching
variable {h : Hypervisor σ} {vm : String} {deed : Deed} {settled : PowerState} {m n : Option String}
  {xs : List Missive}

theorem isAct_plea (token : String) (reply : Reply) :
    h.isAct (h.plea vm deed token reply) = decide (deed ≠ .look) := by
  unfold isAct
  rw [isLogin_plea]
  cases deed <;> rfl

theorem isAct_eq_false {x : Missive} (login : h.isLogin x = true) : h.isAct x = false := by
  simp [isAct, login]

theorem Sending.isAct_of_look {r : Except HypervisorError Http.Response} {x : Missive}
    (look : Sending h vm .look m xs r n) (hx : x ∈ xs) : h.isAct x = false := by
  cases login : h.isLogin x with
  | true => exact isAct_eq_false login
  | false =>
    obtain ⟨token, reply, rfl⟩ := look.eq_plea_of_mem hx login
    exact isAct_plea token reply

theorem Sending.filter_isAct {r : Except HypervisorError Http.Response}
    (sent : Sending h vm deed m xs r n) (does : deed ≠ .look) : xs.filter h.isAct = h.pleas xs := by
  refine List.filter_congr fun x hx => ?_
  cases login : h.isLogin x with
  | true => exact isAct_eq_false login
  | false =>
    obtain ⟨token, reply, rfl⟩ := sent.eq_plea_of_mem hx login
    rw [isAct_plea, decide_eq_true does]
    rfl

theorem Guarded.of_look {r : Except HypervisorError Http.Response} (look : Sending h vm .look m xs r n) :
    Guarded h vm deed settled xs := by
  refine ⟨fun before x after split acts => ?_, .inl ?_⟩
  · have idle := look.isAct_of_look (x := x) (by simp [split])
    rw [acts] at idle
    cases idle
  · rw [List.filter_eq_nil_iff.mpr fun x hx => by simp [look.isAct_of_look hx]]
    exact Nat.zero_le 1

theorem Guarded.of_look_act {ys : List Missive} {answer : Http.Response}
    {state : PowerState} {r : Except HypervisorError Http.Response} {o : Option String}
    (does : deed ≠ .look) (look : Sending h vm .look m xs (.ok answer) n)
    (told : stateOf answer = .ok state) (other : state ≠ settled) (act : Sending h vm deed n ys r o) :
    Guarded h vm deed settled (xs ++ ys) := by
  refine ⟨fun before x after split acts => ?_, ?_⟩
  · obtain ⟨well, earlier, token, pleas⟩ := look.answered
    have asked : h.plea vm .look token (.answered answer) ∈ xs := by
      have there : h.plea vm .look token (.answered answer) ∈ h.pleas xs := by simp [pleas]
      exact (List.mem_filter.mp there).1
    have late : x ∉ xs := by
      intro hx
      rw [look.isAct_of_look hx] at acts
      cases acts
    -- the letters of the look all stand before the first act
    have early : ∃ between, before = xs ++ between ∧ ys = between ++ x :: after := by
      rcases List.append_eq_append_iff.mp split with found | ⟨between, first, rest⟩
      · exact found
      · cases between with
        | nil => exact ⟨[], by simpa using first.symm, by simpa using rest.symm⟩
        | cons y between =>
          rw [List.cons_append, List.cons.injEq] at rest
          exact absurd (by simp [first, rest.1]) late
    obtain ⟨between, rfl, rfl⟩ := early
    refine ⟨?_, token, answer, state, List.mem_append_left _ asked, well, told, other⟩
    cases login : h.isLogin x with
    | true =>
      rw [isAct_eq_false login] at acts
      cases acts
    | false => exact act.eq_plea_of_mem (by simp) login
  · rw [List.filter_append, List.filter_eq_nil_iff.mpr fun x hx => by simp [look.isAct_of_look hx],
      List.nil_append, act.filter_isAct does]
    obtain ⟨-, few, -, again⟩ := act.thrifty
    match pleas : h.pleas ys, few with
    | [], _ => exact .inl (Nat.zero_le 1)
    | [_], _ => exact .inl (Nat.le_refl 1)
    | [x, y], _ => exact .inr ⟨x, y, rfl, (again x y pleas).1⟩

theorem Switching.guarded {r : Except HypervisorError Unit} (switched : Switching h vm deed settled m xs r n)
    (does : deed ≠ .look) : Guarded h vm deed settled xs := by
  cases switched with
  | looks look idle => exact .of_look look
  | acts look told other act => exact .of_look_act does look told other act

end switching

/-! ### Whatever the client is told to do -/

/-- What a client of a hypervisor can be told to do. -/
inductive Wish where
  | powerState
  | powerOn
  | powerOff
  | reset
  | guestReboot
deriving DecidableEq

/-- Have a client do something; what it says of a state does not matter here. -/
def Wish.ask (h : Hypervisor σ) (vm : String) : Wish → Attempt σ HypervisorError Unit
  | powerState => h.powerState vm >>= fun _ => pure ()
  | powerOn => h.powerOn vm
  | powerOff => h.powerOff vm
  | reset => h.reset vm
  | guestReboot => h.guestReboot vm

/-- What anything that a client is told to do may come to: it is one request about a machine, of whose answer
something is made, or a second request follows a look that was answered. -/
inductive Fulfilled (h : Hypervisor σ) (vm : String) : Option String → List Missive →
    Except HypervisorError Unit → Option String → Prop
  | one {deed : Deed} {m n : Option String} {xs : List Missive}
    {r : Except HypervisorError Http.Response} (sent : Sending h vm deed m xs r n)
    (g : Http.Response → Except HypervisorError Unit)
    (mute : ∀ answer user, g answer ≠ .error (.refused user)) : Fulfilled h vm m xs (r >>= g) n
  | two {deed : Deed} {m n o : Option String} {xs ys : List Missive}
    {answer : Http.Response} {r : Except HypervisorError Http.Response}
    (look : Sending h vm .look m xs (.ok answer) n) (act : Sending h vm deed n ys r o) :
    Fulfilled h vm m (xs ++ ys) (r >>= fun _ => .ok ()) o

theorem stateOf_eq_error {r : Http.Response} {e : HypervisorError} (read : stateOf r = .error e) :
    e = .badBody ∨ ∃ text, e = .unknownState text := by
  unfold stateOf powerStateOf at read
  dsimp only at read
  split at read
  · split at read
    · cases read
    · cases read
      exact .inr ⟨_, rfl⟩
  · cases read
    exact .inl rfl

theorem stateOf_ne_refused (r : Http.Response) (user : String) :
    (stateOf r >>= fun _ => .ok ()) ≠ (.error (.refused user) : Except HypervisorError Unit) := by
  intro told
  cases read : stateOf r with
  | ok state =>
    rw [read] at told
    cases told
  | error e =>
    rw [read] at told
    cases told
    rcases stateOf_eq_error read with none | ⟨text, none⟩ <;> cases none

section requests
variable {h : Hypervisor σ} {vm : String} {deed : Deed} {m n : Option String}
  {xs : List Missive} {q : Except HypervisorError Http.Response}
  {r : Except HypervisorError Unit}

theorem Fulfilled.course (fulfilled : Fulfilled h vm m xs r n) : Course h m xs n := by
  cases fulfilled with
  | one sent g mute => exact sent.course
  | two look act => exact look.course.append act.course

theorem Sending.fulfilled (sent : Sending h vm deed m xs q n) :
    Fulfilled h vm m xs (q >>= fun _ => .ok ()) n := .one sent _ nofun

theorem Sending.fulfilled_look (look : Sending h vm .look m xs q n) :
    Fulfilled h vm m xs (q >>= stateOf >>= fun _ => .ok ()) n := by
  rw [bind_assoc]
  exact .one look _ stateOf_ne_refused

theorem Switching.fulfilled {settled : PowerState} (switched : Switching h vm deed settled m xs r n) :
    Fulfilled h vm m xs r n := by
  cases switched with
  | looks look idle => exact look.fulfilled_look
  | acts look told other act => exact .two look act

end requests

/-- The letters of a client are filed, and all that it remembers is its token. -/
structure Filed (h : Hypervisor (Mail (Option String) τ)) (serve : Http.Carrier τ) : Prop where
  session : h.session = Mail.memoryPart
  carrier : h.carrier = Mail.carrier serve

namespace Filed
variable {h : Hypervisor (Mail (Option String) τ)} {serve : Http.Carrier τ}

theorem posts_ask (filed : Filed h serve) (request : Http.Request) (s : Mail (Option String) τ) :
    ∃ reply t, (h.ask request).Posts s [⟨request, s.memory, reply⟩] (answerOf reply) t ∧
      t.memory = s.memory := by
  unfold ask
  rw [filed.carrier]
  exact ⟨_, _, (Attempt.Posts.send serve request s).bind (.give _ _), rfl⟩

/-- A client comes by a token, or not. -/
theorem posts_token (filed : Filed h serve) (s : Mail (Option String) τ) :
    ∃ xs r t, h.token.Posts s xs r t ∧ Entry h s.memory xs r ∧ t.memory = r.toOption := by
  have looked := Attempt.Posts.remembered (ε := HypervisorError) s
  unfold token
  rw [filed.session]
  cases held : s.memory with
  | some token =>
    refine ⟨[], .ok token, s, looked.bind_quiet ?_, .held token, held⟩
    rw [held]
    exact .pure token s
  | none =>
    obtain ⟨reply, t, asked, same⟩ := filed.posts_ask h.loginRequest s
    have brought := asked.bind_give (g := h.tokenOf)
    change Attempt.Posts _ s _ (h.grant reply) t at brought
    rw [held] at brought
    cases granted : h.grant reply with
    | error e =>
      rw [granted] at brought
      refine ⟨[h.login reply], .error e, t, looked.bind_quiet ?_, granted ▸ .login reply, same.trans held⟩
      rw [held]
      dsimp only
      rw [← bind_assoc]
      exact brought.bind_error _
    | ok token =>
      rw [granted] at brought
      have learnt := Attempt.Posts.learn (ε := HypervisorError) (fun _ : Option String => some token) t
      refine ⟨[h.login reply], .ok token, { t with memory := some token }, looked.bind_quiet ?_,
        granted ▸ .login reply, rfl⟩
      rw [held]
      dsimp only
      rw [← bind_assoc]
      exact brought.bind ((Attempt.Posts.log _ t).bind_quiet (learnt.bind_quiet (.pure token _)))

theorem posts_again (filed : Filed h serve) (vm : String) (deed : Deed) (s : Mail (Option String) τ) :
    ∃ reply xs r t, (do
        Attempt.lift (h.session.write none)
        let token ← h.token
        let r ← h.ask (deed.request h.baseUrl vm token)
        Attempt.give (judge vm r)).Posts s (h.login reply :: xs) r t ∧
      ((∃ e, h.grant reply = .error e ∧ xs = [] ∧ r = .error e ∧ t.memory = none) ∨
        ∃ fresh last, h.grant reply = .ok fresh ∧ xs = [h.plea vm deed fresh last] ∧
          r = (answerOf last >>= judge vm) ∧ t.memory = some fresh) := by
  have forgot := Attempt.Posts.learn (ε := HypervisorError) (fun _ : Option String => none) s
  obtain ⟨ys, r, t, got, entry, kept⟩ := filed.posts_token { s with memory := none }
  rw [filed.session]
  cases entry with
  | login reply =>
    cases granted : h.grant reply with
    | error e =>
      rw [granted] at got kept
      exact ⟨reply, [], .error e, t, forgot.bind_quiet (got.bind_error _), .inl ⟨e, granted, rfl, rfl, kept⟩⟩
    | ok fresh =>
      rw [granted] at got kept
      obtain ⟨last, u, asked, same⟩ := filed.posts_ask (deed.request h.baseUrl vm fresh) t
      rw [kept] at asked same
      exact ⟨reply, _, _, u, forgot.bind_quiet (got.bind asked.bind_give),
        .inr ⟨fresh, last, granted, rfl, rfl, same⟩⟩

theorem posts_send (filed : Filed h serve) (vm : String) (deed : Deed) (s : Mail (Option String) τ) :
    ∃ xs r t, (h.send vm (deed.request h.baseUrl vm)).Posts s xs r t ∧
      Sending h vm deed s.memory xs r t.memory := by
  obtain ⟨xs, r, u, got, entry, kept⟩ := filed.posts_token s
  unfold send
  cases r with
  | error e =>
    refine ⟨xs, .error e, u, got.bind_error _, ?_⟩
    obtain ⟨reply, start, rfl, refused⟩ := entry.of_error
    rw [kept, start]
    exact .shut refused
  | ok token =>
    obtain ⟨first, v, asked, same⟩ := filed.posts_ask (deed.request h.baseUrl vm token) u
    rw [kept] at asked same
    cases first with
    | answered answer =>
      by_cases turned : answer.status = Http.unauthorized
      · obtain ⟨reply, ys, r, t, again, ends⟩ := filed.posts_again vm deed v
        refine ⟨_, r, t, got.bind (asked.bind (.ite_pos turned again)), ?_⟩
        have status : (Reply.answered answer).status? = some Http.unauthorized := congrArg some turned
        rcases ends with ⟨e, granted, rfl, rfl, none⟩ | ⟨fresh, last, granted, rfl, rfl, memory⟩
        · rw [none]
          exact .locked entry status granted
        · rw [memory]
          exact .twice entry status granted last
      · refine ⟨_, _, v, got.bind (asked.bind (.ite_neg turned (.give (judge vm answer) v))), ?_⟩
        rw [same]
        exact .once entry (.answered answer) (by simpa [Reply.status?] using turned)
    | refused => exact ⟨_, _, v, got.bind (asked.bind_error _), same.symm ▸ .once entry .refused nofun⟩
    | brokenOff => exact ⟨_, _, v, got.bind (asked.bind_error _), same.symm ▸ .once entry .brokenOff nofun⟩
    | unusable => exact ⟨_, _, v, got.bind (asked.bind_error _), same.symm ▸ .once entry .unusable nofun⟩

theorem posts_powerState (filed : Filed h serve) (vm : String) (s : Mail (Option String) τ) :
    ∃ xs r t, (h.powerState vm).Posts s xs (r >>= stateOf) t ∧ Sending h vm .look s.memory xs r t.memory := by
  obtain ⟨xs, r, t, posts, sent⟩ := filed.posts_send vm .look s
  exact ⟨xs, r, t, posts.bind_give, sent⟩

theorem posts_reported (filed : Filed h serve) (vm : String) (deed : Deed) (event : Event)
    (s : Mail (Option String) τ) :
    ∃ xs r t, (h.send vm (deed.request h.baseUrl vm) >>= fun _ => Attempt.log event).Posts s xs
        (r >>= fun _ => .ok ()) t ∧ Sending h vm deed s.memory xs r t.memory := by
  obtain ⟨xs, r, t, posts, sent⟩ := filed.posts_send vm deed s
  exact ⟨xs, r, t, posts.bind_idle fun _ => .log event t, sent⟩

theorem posts_switch (filed : Filed h serve) (vm : String) (deed : Deed) (settled : PowerState)
    (event : Event) (s : Mail (Option String) τ) :
    ∃ xs r t, (do
        let state ← h.powerState vm
        if state = settled then return () else do
          let _ ← h.send vm (deed.request h.baseUrl vm)
          Attempt.log event).Posts s xs r t ∧
      Switching h vm deed settled s.memory xs r t.memory := by
  obtain ⟨xs, q, u, looked, look⟩ := filed.posts_powerState vm s
  cases told : q >>= stateOf with
  | error e =>
    have looks : Switching h vm deed settled s.memory xs (q >>= stateOf >>= fun _ => .ok ()) u.memory :=
      .looks look fun state read => by rw [told] at read; cases read
    rw [told] at looked looks
    exact ⟨xs, _, u, looked.bind_error _, looks⟩
  | ok state =>
    by_cases done : state = settled
    · have looks : Switching h vm deed settled s.memory xs (q >>= stateOf >>= fun _ => .ok ()) u.memory :=
        .looks look fun state' read => by rw [told] at read; cases read; exact done
      rw [told] at looked looks
      rw [← List.append_nil xs] at looks
      exact ⟨_, _, u, looked.bind (.ite_pos done (.pure () u)), looks⟩
    · rw [told] at looked
      cases q with
      | error e => cases told
      | ok answer =>
        obtain ⟨ys, r, t, acted, act⟩ := filed.posts_reported vm deed event u
        exact ⟨_, _, t, looked.bind (.ite_neg done acted), .acts look told done act⟩

theorem posts_powerOn (filed : Filed h serve) (vm : String) (s : Mail (Option String) τ) :
    ∃ xs r t, (h.powerOn vm).Posts s xs r t ∧ Switching h vm .start .on s.memory xs r t.memory :=
  filed.posts_switch vm .start .on
    (.info "hypervisor power action" [("vm", .fixed vm), ("action", .fixed "start")]) s

theorem posts_powerOff (filed : Filed h serve) (vm : String) (s : Mail (Option String) τ) :
    ∃ xs r t, (h.powerOff vm).Posts s xs r t ∧ Switching h vm .stop .off s.memory xs r t.memory :=
  filed.posts_switch vm .stop .off
    (.info "hypervisor power action" [("vm", .fixed vm), ("action", .fixed "stop")]) s

theorem posts_wish (filed : Filed h serve) (vm : String) (wish : Wish) (s : Mail (Option String) τ) :
    ∃ xs r t, (wish.ask h vm).Posts s xs r t ∧ Fulfilled h vm s.memory xs r t.memory := by
  cases wish with
  | powerState =>
    obtain ⟨xs, r, t, looked, look⟩ := filed.posts_powerState vm s
    exact ⟨xs, _, t, looked.bind_idle fun _ => .pure () t, look.fulfilled_look⟩
  | powerOn =>
    obtain ⟨xs, r, t, posts, switched⟩ := filed.posts_powerOn vm s
    exact ⟨xs, r, t, posts, switched.fulfilled⟩
  | powerOff =>
    obtain ⟨xs, r, t, posts, switched⟩ := filed.posts_powerOff vm s
    exact ⟨xs, r, t, posts, switched.fulfilled⟩
  | reset =>
    obtain ⟨xs, r, t, posts, sent⟩ := filed.posts_reported vm .reset
      (.info "hypervisor power action" [("vm", .fixed vm), ("action", .fixed "reset")]) s
    exact ⟨xs, _, t, posts, sent.fulfilled⟩
  | guestReboot =>
    obtain ⟨xs, r, t, posts, sent⟩ := filed.posts_reported vm .reboot
      (.info "guest reboot requested" [("vm", .fixed vm)]) s
    exact ⟨xs, _, t, posts, sent.fulfilled⟩

end Filed

theorem filed_console (baseUrl username password : String) (serve : Http.Carrier τ) :
    Filed (console baseUrl username password serve) serve := ⟨rfl, rfl⟩

/-- The rules for all letters of a client, and the token that it keeps after them. -/
structure Orderly (h : Hypervisor σ) (xs : List Missive) (m : Option String) : Prop where
  /-- Only who has no token logs in, and who is granted none has none. -/
  login : ∀ before x after, xs = before ++ x :: after → h.isLogin x = true →
    x = h.login x.reply ∧ (h.granted? x = none → (after.head?.map Letter.memory).getD m = none)
  /-- All others are about a machine and carry the last token that was granted. -/
  plea : ∀ before x after, xs = before ++ x :: after → h.isLogin x = false →
    ∃ vm deed token, x = h.plea vm deed token x.reply ∧ (h.granted before).getLast? = some token
  /-- There are not many more tokens than letters that were turned away. -/
  bound : (h.granted xs).length ≤ 1 + xs.countP h.turnedAway

theorem Course.orderly {h : Hypervisor σ} {xs : List Missive} {m : Option String}
    (course : Course h none xs m) : Orderly h xs m := by
  refine ⟨?_, ?_, ?_⟩
  · rintro before x after rfl login
    exact course.of_isLogin login
  · rintro before x after rfl other
    exact course.carries other
  · have tokens := course.length_granted
    have one : m.toList.length ≤ 1 := by cases m <;> simp
    simp only [Option.toList_none, List.length_nil] at tokens
    omega

/-- The letters of everything that a client was told to do so far. -/
theorem Filed.course_inTurn {h : Hypervisor (Mail (Option String) τ)} {serve : Http.Carrier τ}
    (filed : Filed h serve) (w : τ) (wishes : List (String × Wish)) :
    let s := Call.inTurn (wishes.map fun x => (x.2.ask h x.1).toCall) (.start none w)
    Course h none s.letters s.memory := by
  refine Call.inTurn_induct (I := fun s : Mail (Option String) τ => Course h none s.letters s.memory) ?_ ?_
  · intro call hcall s hs
    obtain ⟨⟨vm, wish⟩, -, rfl⟩ := List.mem_map.mp hcall
    obtain ⟨xs, r, t, posts, fulfilled⟩ := filed.posts_wish vm wish s
    have left : ((wish.ask h vm).toCall.result s).2 = t := congrArg Prod.snd posts.result
    rw [left, posts.letters]
    exact hs.append fulfilled.course
  · exact .nil none

/-- **A client logs in only for want of a token, and switches a machine only after a look.**  Whatever a client
has been told to do so far, one call after the other, its letters are in order: one is to get a token only if
there is none, all others carry the last token that was granted, and there are few tokens.  A request about a
machine then goes out once, or twice with another token for the second time; and a machine is only switched on
or off after a look that said that it was not, in the same call. -/
theorem session_keeps_rules (baseUrl username password : String) (serve : Http.Carrier τ) (w : τ)
    (wishes : List (String × Wish)) :
    let h := console baseUrl username password serve
    let s := Call.inTurn (wishes.map fun x => (x.2.ask h x.1).toCall) (.start none w)
    Orderly h s.letters s.memory ∧
    (∀ vm deed, ∃ xs r t, (h.send vm (deed.request h.baseUrl vm)).Posts s xs r t ∧ Thrifty h vm deed xs) ∧
    (∀ vm, ∃ xs r t, (h.powerOn vm).Posts s xs r t ∧ Guarded h vm .start .on xs) ∧
    ∀ vm, ∃ xs r t, (h.powerOff vm).Posts s xs r t ∧ Guarded h vm .stop .off xs := by
  intro h s
  have filed := filed_console baseUrl username password serve
  refine ⟨(filed.course_inTurn w wishes).orderly, fun vm deed => ?_, fun vm => ?_, fun vm => ?_⟩
  · obtain ⟨xs, r, t, posts, sent⟩ := filed.posts_send vm deed s
    exact ⟨xs, r, t, posts, sent.thrifty⟩
  · obtain ⟨xs, r, t, posts, switched⟩ := filed.posts_powerOn vm s
    exact ⟨xs, r, t, posts, switched.guarded nofun⟩
  · obtain ⟨xs, r, t, posts, switched⟩ := filed.posts_powerOff vm s
    exact ⟨xs, r, t, posts, switched.guarded nofun⟩

/-- A hypervisor that soon no longer knows a token that it has granted. -/
def forgetful : List Reply :=
  let off := Reply.answered ⟨200, "\x7b\"state\":\"POWERED_OFF\"\x7d"⟩
  [.answered ⟨201, "\"a\""⟩, off, .answered ⟨401, ""⟩, .answered ⟨201, "\"b\""⟩, off,
    .answered ⟨401, ""⟩, .answered ⟨201, "\"c\""⟩, .answered ⟨204, ""⟩]

/-- The client of this hypervisor. -/
def patient : Hypervisor (Mail (Option String) (List Reply)) := console "h" "u" "p" Http.scripted

/-- A client that has looked at a machine once before powers it on.  Its token is turned away at the look, and so
is the next one between the look and what is done. -/
theorem session_keeps_rules_forgetful :
    let s := Call.inTurn [(Wish.powerState.ask patient "m").toCall] (.start none forgetful)
    s.memory = some "a" ∧
    ∃ xs t, (patient.powerOn "m").Posts s xs (.ok ()) t ∧ Guarded patient "m" .start .on xs ∧
      t.letters.map (fun x => (x.request.url, x.memory)) =
        [("h/api/session", none), ("h/api/vcenter/vm/m/power", some "a"),
          ("h/api/vcenter/vm/m/power", some "a"), ("h/api/session", none),
          ("h/api/vcenter/vm/m/power", some "b"), ("h/api/vcenter/vm/m/power?action=start", some "b"),
          ("h/api/session", none), ("h/api/vcenter/vm/m/power?action=start", some "c")] := by
  obtain ⟨-, -, on, -⟩ := session_keeps_rules "h" "u" "p" Http.scripted forgetful [("m", .powerState)]
  obtain ⟨xs, r, t, posts, guarded⟩ := on "m"
  have left : t = ((patient.powerOn "m").result
      (Call.inTurn [(Wish.powerState.ask patient "m").toCall] (.start none forgetful))).2 :=
    (congrArg Prod.snd posts.result).symm
  have granted : ((patient.powerOn "m").result
      (Call.inTurn [(Wish.powerState.ask patient "m").toCall] (.start none forgetful))).1.toOption =
        some () := by decide +kernel
  obtain rfl : r = .ok () :=
    congrArg Prod.fst (posts.result.symm.trans (Attempt.eq_ok_of_toOption granted))
  refine ⟨by decide +kernel, xs, t, posts, guarded, ?_⟩
  rw [left]
  decide +kernel

end Hypervisor

end FaultLab.Machine
