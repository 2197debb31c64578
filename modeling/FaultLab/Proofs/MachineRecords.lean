import FaultLab.Proofs.MachineOperations

/-! # Handles follow their machines

What a handle has commanded is `Held` against its machine: the status is that of the process or says that
there is no power, the rules are those against the recorded peers, and a live status says whether there are
any.  Every operation keeps this or fails and changes nothing (`Handle.Controls.keeps_tell`); so, in an
ideal lab, what was commanded follows the machine from provisioning on
(`MachineLab.Controls.commanded_follows_machine`).

A machine is there before its handle, which takes over what it finds: the process if there is one, even if
somebody has frozen it, and the rules of its firewall, which it knows nothing of
(`MachineLab.Controls.provisioned`).  So nothing of that kind must have been done to the machine before. -/

namespace FaultLab.Machine

open Firewall Attempt

namespace Process

/-- The status of a process on a machine with power. -/
def Shows : Process → NodeStatus → Prop
  | absent, s => s = .stopped ∨ s = .killed
  | running, s => s = .running
  | frozen, s => s = .paused

end Process

namespace Body

/-- The wall of a machine; without power there are no rules. -/
def wall : Body → Wall
  | off => .bare
  | on _ wall => wall

/-- The status that a machine shows. -/
def Shows : Body → NodeStatus → Prop
  | off, s => s = .poweredOff
  | on p _, s => p.Shows s

end Body

/-! ### A machine and what was commanded of its member -/

/-- What was commanded follows a machine: the status says that it has no power, that the process is
frozen, that the process is not there or that it runs, whichever is the case; the hosts that are blocked
are those of the recorded peers; and a live status says whether there are any. -/
structure Follows (b : Body) (c : Commanded) : Prop where
  dark : c.status = .poweredOff ↔ b = .off
  frozen : c.status = .paused ↔ ∃ wall, b = .on .frozen wall
  ended : c.status = .stopped ∨ c.status = .killed ↔ ∃ wall, b = .on .absent wall
  live : c.status.isLive = true ↔ ∃ wall, b = .on .running wall
  blocked : b.wall.Shuts c.peers
  apart : c.status = .disconnected ↔ c.status.isLive = true ∧ c.peers ≠ .empty

/-- What was commanded of a member fits its machine, and some peers are all that may be blocked. -/
structure Held (named : Endpoint → Prop) (b : Body) (c : Commanded) : Prop where
  shows : b.Shows c.status.process
  shut : b.wall.Shuts c.peers
  tallies : c.Tallies
  named : ∀ p ∈ c.peers, named p

namespace Held
variable {named : Endpoint → Prop} {b b' : Body} {p : Process} {wall : Wall} {c : Commanded}
  {s : NodeStatus}

/-- A new status, where nothing became of the rules. -/
theorem setStatus (held : Held named b c) (shows : b'.Shows s.process) (plain : s ≠ .disconnected)
    (same : b'.wall = b.wall) : Held named b' (c.setStatus s) where
  shows := (Commanded.process_setStatus s c).symm ▸ shows
  shut := same.symm ▸ held.shut
  tallies := .setStatus plain c
  named := held.named

theorem anew (named : Endpoint → Prop) (c : Commanded) (shows : b.Shows s.process)
    (plain : s ≠ .disconnected) (bare : b.wall = .bare) : Held named b (c.clearPeers.setStatus s) where
  shows := (Commanded.process_setStatus s c.clearPeers).symm ▸ shows
  shut := bare.symm ▸ Wall.shuts_bare rfl
  tallies := .setStatus plain c.clearPeers
  named p hp := absurd hp (EndpointSet.not_mem_empty p)

theorem made (held : Held named (.on p wall) c) (change : Change) (elevated : Bool)
    (distinct : ∀ p q, named p → named q → p.host = q.host → p = q) {ps : List Endpoint}
    (hps : ∀ p ∈ ps, named p) :
    Held named (.on p (change.made elevated ps (wall, c)).1)
      (change.made elevated ps (wall, c)).2 := by
  obtain ⟨shuts, names⟩ :=
    Change.shuts_made change elevated distinct hps held.named held.shut
  refine ⟨?_, shuts, Change.tallies_made held.tallies change elevated ps wall, names⟩
  rw [Change.process_made]
  exact held.shows

theorem follows (held : Held named b c) : Follows b c := by
  have live := NodeStatus.isLive_iff_process (s := c.status)
  have dark := NodeStatus.eq_iff_process (s := c.status) (p := .poweredOff) rfl
  have paused := NodeStatus.eq_iff_process (s := c.status) (p := .paused) rfl
  have stopped := NodeStatus.eq_iff_process (s := c.status) (p := .stopped) rfl
  have killed := NodeStatus.eq_iff_process (s := c.status) (p := .killed) rfl
  have apart := held.tallies.disconnected_iff
  cases b with
  | off =>
    have process : c.status.process = .poweredOff := held.shows
    refine ⟨?_, ?_, ?_, ?_, held.shut, apart⟩ <;> simp [live, dark, paused, stopped, killed, process]
  | on p wall =>
    cases p with
    | absent =>
      obtain process | process : c.status.process = .stopped ∨ c.status.process = .killed :=
        held.shows
      all_goals
        refine ⟨?_, ?_, ?_, ?_, held.shut, apart⟩ <;>
          simp [live, dark, paused, stopped, killed, process]
    | running =>
      have process : c.status.process = .running := held.shows
      refine ⟨?_, ?_, ?_, ?_, held.shut, apart⟩ <;>
        simp [live, dark, paused, stopped, killed, process]
    | frozen =>
      have process : c.status.process = .paused := held.shows
      refine ⟨?_, ?_, ?_, ?_, held.shut, apart⟩ <;>
        simp [live, dark, paused, stopped, killed, process]

theorem dark (held : Held named .off c) : c.status = .poweredOff := held.follows.dark.mpr rfl

theorem lit (held : Held named (.on p wall) c) : c.status ≠ .poweredOff :=
  fun dark => nomatch held.follows.dark.mp dark

end Held

namespace Handle
variable {σ : Type} {h : Handle σ} {body : σ → Body} {knows : σ → String → Prop}
  {named : Endpoint → Prop} {b : Body} {p : Process} {wall : Wall} {c : Commanded}

namespace Controls

end Controls

end Handle

/-! ### From provisioning on -/

namespace Body

/-- A machine that was handed over: it has power and a process, and is as it was apart from that. -/
def taken : Body → Body
  | off => .on .running .bare
  | on p wall => .on p.started wall

/-- Nothing was done to a machine yet: its process is not frozen, and nobody is blocked. -/
def Untouched : Body → Prop
  | off => True
  | on p wall => p ≠ .frozen ∧ wall.Shuts .empty

theorem taken_of_untouched {b : Body} (untouched : b.Untouched) : b.taken = .on .running b.wall := by
  cases b with
  | off => rfl
  | on p wall => exact congrArg (Body.on · wall) (Process.started_of_ne_frozen untouched.1)

theorem Untouched.shuts {b : Body} (untouched : b.Untouched) : b.wall.Shuts .empty := by
  cases b with
  | off => exact Wall.shuts_bare rfl
  | on p wall => exact untouched.2

end Body

/-- What a handle has commanded once its machine was provisioned. -/
def provisioned : Commanded := (Commanded.ofStatus .stopped).setStatus .running

theorem Held.provisioned {named : Endpoint → Prop} {b : Body} (untouched : b.Untouched) :
    Held named b.taken provisioned := by
  rw [Body.taken_of_untouched untouched]
  exact ⟨rfl, untouched.shuts, .setStatus (s := .running) nofun (.ofStatus .stopped),
    fun p hp => absurd hp (EndpointSet.not_mem_empty p)⟩

/-- Whatever was done to a machine, it has power and a process after that, and the member counts as running. -/
theorem Handle.Controls.yields_provision {σ : Type} {h : Handle σ} {body : σ → Body}
    {knows : σ → String → Prop} (controls : h.Controls body knows)
    (boots : Deadline.Feasible h.clock h.bootTimeout) (b : Body) :
    Yields (h.sight body) (do
        h.ensurePower Operation.provision.name
        h.start
        h.report "provisioned vm node" [h.vmField]
        return h.node)
      (b, .ofStatus .stopped) (· = h.node) (b.taken, provisioned) := by
  have powered : ∃ p wall, (h.ensurePower Operation.provision.name).Leads (h.sight body)
      (b, .ofStatus .stopped) (.on p wall, .ofStatus .stopped) ∧ b.taken = .on p.started wall := by
    cases b with
    | off => exact ⟨.absent, .bare, controls.leads_ensurePower_off boots _ _, rfl⟩
    | on p wall => exact ⟨p, wall, controls.leads_ensurePower_on boots _ p wall _, rfl⟩
  obtain ⟨p, wall, leads, taken⟩ := powered
  refine leads.bind fun _ => ?_
  rw [taken]
  refine (controls.leads_start_on (c := .ofStatus .stopped) p wall nofun).bind fun _ => ?_
  exact (leads_log _ _).bind fun _ => yields_pure (· = h.node) rfl _

namespace MachineLab
variable {σ : Type} {lab : MachineLab σ} {body : MachineEntry → σ → Body} {knows : σ → String → Prop}
  {entry : MachineEntry} {s : σ}

/-- A lab is ideal around each of its machines, and what handles have commanded is kept apart. -/
structure Controls (lab : MachineLab σ) (body : MachineEntry → σ → Body)
    (knows : σ → String → Prop) : Prop where
  rooms : ∀ c s entry, body entry ((lab.room c).result s).2 = body entry s
  noted : ∀ c s, ((lab.room c).result s).1.get ((lab.room c).result s).2 = c
  handles : ∀ c s, ∀ entry ∈ lab.spec.vms,
    (lab.handle entry ((lab.room c).result s).1).Controls (body entry) knows

theorem mem_of_entry {index : Nat} (found : lab.entry index = .ok entry) : entry ∈ lab.spec.vms := by
  rw [MachineLab.entry] at found
  split at found
  · rename_i there
    cases found
    exact List.mem_of_getElem? there
  · cases found

/-- What was provisioned is a handle on the machine as it was found. -/
theorem Controls.provisioned (controls : lab.Controls body knows)
    (boots : Deadline.Feasible lab.clock lab.spec.bootTimeout) {index : Nat}
    (found : lab.entry index = .ok entry) (s : σ) :
    ∃ (h : Handle σ) (t : σ), (lab.provision index).result s = (.ok h.node, t) ∧
      h.Controls (body entry) knows ∧ h.clock = lab.clock ∧ h.bootTimeout = lab.spec.bootTimeout ∧
      h.sight (body entry) t = ((body entry s).taken, Machine.provisioned) := by
  rcases roomed : (lab.room (.ofStatus .stopped)).result s with ⟨commanded, s₁⟩
  have handled := controls.handles (.ofStatus .stopped) s entry (mem_of_entry found)
  have apart := controls.rooms (.ofStatus .stopped) s entry
  have noted := controls.noted (.ofStatus .stopped) s
  rw [roomed] at handled apart noted
  obtain ⟨_, t, made, rfl, ht⟩ :=
    handled.yields_provision boots (body entry s) s₁ (Prod.ext apart noted)
  refine ⟨lab.handle entry commanded, t, ?_, handled, rfl, rfl, ht⟩
  rw [MachineLab.provision, Attempt.result_bind, Attempt.result_give, found]
  simp only [Attempt.result_bind, Attempt.result_lift, roomed] at made ⊢
  exact made

end MachineLab

/-! ### An ideal lab -/

/-- A machine, the token at hand, and what a handle has commanded. -/
structure SoleMachine where
  body : Body
  session : Option String
  commanded : Commanded

namespace SoleMachine

/-- The token that the hypervisor knows. -/
def key : String := "key"

/-- What a request asks for. -/
def deed? (method : Http.Method) (url : String) : Option Deed :=
  [.look, .start, .stop, .reset, .reboot].find? fun deed =>
    (deed.request "h" "m" key).method = method ∧ (deed.request "h" "m" key).url = url

/-- An answer about a machine. -/
def describe (b : Body) : String := "\x7b\"state\":\"" ++ b.powerName ++ "\"\x7d"

/-- What the hypervisor answers, and what becomes of the machine. -/
def answer (request : Http.Request) (s : SoleMachine) : Http.Response × SoleMachine :=
  if request.url = "h/api/session" then (⟨201, "\"key\""⟩, s)
  else if request.credential ≠ some key then (⟨Http.unauthorized, ""⟩, s)
  else match (deed? request.method request.url).bind fun deed => deed.effect s.body with
    | some b => (⟨200, describe b⟩, { s with body := b })
    | none => (⟨400, ""⟩, s)

/-- The hypervisor. -/
def hypervisor : Hypervisor SoleMachine where
  baseUrl := "h"
  username := "u"
  password := "p"
  session := ⟨session, fun token s => { s with session := token }⟩
  carrier request := Call.atomically fun s => (.answered (answer request s).1, (answer request s).2)

/-- How a command on a machine with power ends, and what becomes of the machine. -/
def carried (p : Process) (wall : Wall) : Command → Int × Body
  | .probe => (0, .on p wall)
  | .status _ => (if p = .absent then 3 else 0, .on p wall)
  | .start _ => (0, .on .running wall)
  | .stop _ => (0, .on .absent wall)
  | .kill _ => (0, .on .absent wall)
  | .signal _ .stop _ => (0, .on (if p = .running then .frozen else p) wall)
  | .signal _ .cont _ => (0, .on p.awake wall)
  | .firewall task => (0, .on p (task.carried wall))
  | .other _ => (0, .on p wall)

/-- The `ssh` program. -/
def shell : Shell SoleMachine := fun _ command => Call.atomically fun s => match s.body with
  | .off => (.ended (some connectionFailure) "" "", s)
  | .on p wall =>
    (.ended (some (carried p wall command).1) "" "", { s with body := (carried p wall command).2 })

/-- What the handle has commanded. -/
def slot : Part SoleMachine Commanded := ⟨commanded, fun c s => { s with commanded := c }⟩

/-- The machine. -/
def machine : MachineEntry := ⟨"m", "a", "root", 22⟩

/-- A lab with one machine, which may take some time to start. -/
def lab (bootTimeout : Nat) : MachineLab SoleMachine where
  spec := ⟨⟨"h", "u", defaultPasswordVariable, false⟩, [machine], .default, defaultMemberPort,
    Span.ofSeconds 5, bootTimeout⟩
  hypervisor := hypervisor
  shell := shell
  clock _ := 0
  room c := Call.atomically fun s => (slot, { s with commanded := c })

/-- Which tokens the hypervisor knows. -/
def knows (_ : SoleMachine) (token : String) : Prop := token = key

theorem deed?_request (deed : Deed) (token : String) :
    deed? (deed.request "h" "m" token).method (deed.request "h" "m" token).url = some deed := by
  cases deed <;> rfl

theorem url_ne (deed : Deed) (token : String) :
    (deed.request "h" "m" token).url ≠ "h/api/session" := by
  cases deed <;> exact of_decide_eq_true rfl

theorem read_describe (b : Body) :
    Json.read (describe b) = (.table [(some "state", .text b.powerName)] true, true) := by
  cases b with
  | off => cbv
  | on p wall => cbv

theorem names_describe (b : Body) : Names (describe b) b.powerName :=
  ⟨[("state", .text b.powerName)], read_describe b, by simp, by simp, by simp⟩

theorem answer_known (deed : Deed) (s : SoleMachine) :
    answer (deed.request "h" "m" key) s = match deed.effect s.body with
      | some b => (⟨200, describe b⟩, { s with body := b })
      | none => (⟨400, ""⟩, s) := by
  have shown : (deed.request "h" "m" key).credential = some key := by cases deed <;> rfl
  rw [answer, if_neg (url_ne deed key), if_neg (not_not_intro shown), deed?_request]
  rfl

theorem answer_unknown (deed : Deed) {token : String} (other : token ≠ key) (s : SoleMachine) :
    answer (deed.request "h" "m" token) s = (⟨Http.unauthorized, ""⟩, s) := by
  have shown : (deed.request "h" "m" token).credential = some token := by cases deed <;> rfl
  have wrong : (deed.request "h" "m" token).credential ≠ some key := by
    rw [shown]
    exact fun same => other (Option.some.inj same)
  rw [answer, if_neg (url_ne deed token), if_pos wrong]

section handle
variable (bootTimeout : Nat)

/-- The handle on the machine. -/
def handle : Handle SoleMachine := (lab bootTimeout).handle machine slot

theorem serves_handle : hypervisor.Serves "m" ((handle bootTimeout).sight body) knows where
  login s := by
    refine ⟨⟨201, "\"key\""⟩, key, s, ?_, rfl, rfl, rfl, rfl⟩
    have url : hypervisor.loginRequest.url = "h/api/session" := rfl
    simp only [hypervisor, Call.result_atomically] at url ⊢
    rw [answer, if_pos url]
  unknown deed token s other := by
    refine ⟨⟨Http.unauthorized, ""⟩, s, ?_, rfl, rfl⟩
    simp only [hypervisor, Call.result_atomically, answer_unknown deed other]
  done deed token s b known effect := by
    obtain rfl : token = key := known
    have effect : deed.effect s.body = some b := effect
    refine ⟨⟨200, describe b⟩, { s with body := b }, ?_, rfl, fun _ => names_describe b, rfl⟩
    simp only [hypervisor, Call.result_atomically, answer_known, effect]
  refused deed token s known none := by
    obtain rfl : token = key := known
    have none : deed.effect s.body = .none := none
    refine ⟨⟨400, ""⟩, s, ?_, nofun, rfl, rfl⟩
    simp only [hypervisor, Call.result_atomically, answer_known, none]
  get_set _ _ := rfl
  view_set _ _ := rfl
  knows_set _ _ := rfl

variable {bootTimeout}

theorem result_shell {s : SoleMachine} {c : Commanded} {p : Process} {wall : Wall}
    (here : (handle bootTimeout).sight body s = (.on p wall, c)) (command : Command) :
    ∃ t, (shell (handle bootTimeout).host command).result s =
        (.ended (some (carried p wall command).1) "" "", t) ∧
      (handle bootTimeout).sight body t = ((carried p wall command).2, c) := by
  obtain ⟨lit, noted⟩ := Prod.mk.inj here
  refine ⟨{ s with body := (carried p wall command).2 }, ?_, Prod.ext rfl noted⟩
  simp only [shell, Call.result_atomically, lit]

theorem obeys_shell (p : Process) (wall : Wall) {command : Command} {b : Body}
    (does : carried p wall command = (0, b)) :
    (handle bootTimeout).Obeys body command (.on p wall) b := by
  intro c s here
  obtain ⟨t, ended, after⟩ := result_shell here command
  rw [does] at ended after
  exact ⟨"", "", t, ended, after⟩

variable (bootTimeout)

theorem controls_handle : (handle bootTimeout).Controls body knows where
  serves := serves_handle bootTimeout
  unreachable command c s here := by
    have dark : s.body = .off := congrArg Prod.fst here
    refine ⟨"", "", s, ?_, here⟩
    simp only [handle, MachineLab.handle, lab, shell, Call.result_atomically, dark]
  probes p wall := obeys_shell p wall rfl
  finds p wall there := obeys_shell p wall (by rw [carried, if_neg there])
  misses wall c s here := by
    obtain ⟨t, ended, after⟩ := result_shell here (.status (handle bootTimeout).process.status)
    exact ⟨3, "", "", t, by decide, by decide, ended, after⟩
  starts wall := obeys_shell .absent wall rfl
  stops wall := obeys_shell .running wall rfl
  kills wall := obeys_shell .running wall rfl
  freezes wall := obeys_shell .running wall rfl
  wakes p wall := obeys_shell p wall rfl
  filters task p wall c s _ here := by
    obtain ⟨t, ended, after⟩ := result_shell here (.firewall task)
    exact ⟨.success, 0, "", "", task.carried wall, t, Task.runs_calm_iff.mpr ⟨rfl, rfl⟩, by decide,
      ended, after⟩
  get_set _ _ := rfl
  body_set _ _ := rfl

end handle

/-- Two peers are blocked, the member is frozen, one of the peers is let through, and the member goes on;
the power is lost and comes back, and the machine is rebooted once without power and once with it. -/
def commands : List Simulation.Command :=
  [.disconnect [⟨"b:1"⟩, ⟨"c:1"⟩], .pause, .reconnect [⟨"b:1"⟩], .start, .powerOff, .reboot, .powerOn,
    .start, .disconnect [⟨"b:1"⟩], .reboot, .kill]

end SoleMachine

end FaultLab.Machine
