import FaultLab.Container.Backend
import FaultLab.Proofs.Aborts

/-! # What a failed deployment in containers leaves behind

The history of a daemon lists what becomes of its networks and containers (`Container.Entry`).  A daemon
is honest (`Watched.Honest`) if it does what it says: a container that it has made stands until it is
removed, and a container that is to be removed is removed.  Any other call may fail at any time.

`Watched.Adding` says what a call adds to the history for each of its answers.  It goes through sequences
(`Watched.adding_bind`), so each function has one lemma: making a member adds its container
(`adding_provision`), also where the container is then not started and the member is lost; destroying a
member removes it (`adding_destroy`).  From the ways in which a deployment fails
(`Orchestrator.deploy_fails`) this gives the whole course of a failed deployment. -/

namespace FaultLab

/-- Whether a container was made and then could not be started. -/
def Failure.Unstarted (e : Failure) : Prop :=
  ∃ node status reason, e = .unavailable node "start" (.daemon status reason)

namespace Container

/-! ### Histories -/

/-- What becomes of a daemon's networks and containers. -/
inductive Entry where
  | networkMade (name : String)
  /-- The removal of a network was asked for. -/
  | networkRemoval (name : String)
  | made (container : String)
  | removed (container : String)
deriving DecidableEq

namespace Entry

/-- The entry of a call that does something if it succeeds. -/
def ifOk {ε α : Type} (entry : Entry) : Except ε α → List Entry
  | .ok _ => [entry]
  | .error _ => []

/-- The containers that stand after an entry, given those before it. -/
def standing (up : List String) : Entry → List String
  | made container => up ++ [container]
  | removed container => up.filter fun c => c ≠ container
  | _ => up

end Entry

/-- The containers of a history that stand at its end. -/
def standing (history : List Entry) : List String := history.foldl Entry.standing []

/-- A project whose daemon keeps a history. -/
structure Watched (σ : Type) where
  project : Project σ
  history : σ → List Entry

namespace Watched
variable {σ α β ε ε' : Type} {w : Watched σ} {s t u : σ} {es es' : List Entry}

/-- Some entries are added, and whether the network counts as made stays as it is. -/
structure Adds (w : Watched σ) (es : List Entry) (s t : σ) : Prop where
  history : w.history t = w.history s ++ es
  network : w.project.networkMade.get t = w.project.networkMade.get s

theorem Adds.refl (w : Watched σ) (s : σ) : w.Adds [] s s := ⟨(List.append_nil _).symm, rfl⟩

theorem Adds.trans (h : w.Adds es s t) (h' : w.Adds es' t u) : w.Adds (es ++ es') s u where
  history := by rw [h'.history, h.history, List.append_assoc]
  network := h'.network.trans h.network

/-- What a call adds, for each answer. -/
def Adding (w : Watched σ) (post : α → List Entry → Prop) (c : Call σ α) : Prop :=
  ∀ s r t, c.result s = (r, t) → ∃ es, post r es ∧ w.Adds es s t

/-! ### Sequences -/

section sequences
variable {P : α → List Entry → Prop} {Q : β → List Entry → Prop}

theorem adding_done {a : α} (h : P a []) : w.Adding P (.done a) := by
  intro s r t left
  cases left
  exact ⟨[], h, .refl w s⟩

theorem Adding.mono {P' : α → List Entry → Prop} {c : Call σ α} (h : w.Adding P c)
    (weaker : ∀ a es, P a es → P' a es) : w.Adding P' c := by
  intro s r t left
  obtain ⟨es, post, adds⟩ := h s r t left
  exact ⟨es, weaker r es post, adds⟩

theorem Adding.bind {c : Call σ α} {f : α → Call σ β} (h : w.Adding P c)
    (next : ∀ a es, P a es → w.Adding (fun b es' => Q b (es ++ es')) (f a)) :
    w.Adding Q (Call.bind c f) := by
  intro s r t left
  rw [Call.result_bind] at left
  obtain ⟨es, first, adds⟩ := h s _ _ rfl
  obtain ⟨es', post, adds'⟩ := next _ es first _ r t left
  exact ⟨es ++ es', post, adds.trans adds'⟩

end sequences

section attempts
variable {P : Except ε α → List Entry → Prop} {Q : Except ε β → List Entry → Prop}

theorem adding_bind {c : Attempt σ ε α} {f : α → Attempt σ ε β} (h : w.Adding P c.toCall)
    (next : ∀ a es, P (.ok a) es → w.Adding (fun r es' => Q r (es ++ es')) (f a).toCall)
    (failed : ∀ e es, P (.error e) es → Q (.error e) es) : w.Adding Q (c >>= f).toCall := by
  refine Adding.bind (c := c.toCall) h fun outcome es post => ?_
  cases outcome with
  | ok a => exact next a es post
  | error e =>
    refine adding_done ?_
    rw [List.append_nil]
    exact failed e es post

theorem adding_give {r : Except ε α} (h : P r []) : w.Adding P (Attempt.give r).toCall :=
  adding_done h

theorem adding_give_bind {r : Except ε α} {f : α → Attempt σ ε β}
    (next : ∀ a, r = .ok a → w.Adding Q (f a).toCall) (failed : ∀ e, r = .error e → Q (.error e) []) :
    w.Adding Q (Attempt.give r >>= f).toCall := by
  cases r with
  | ok a => exact next a rfl
  | error e => exact adding_done (failed e rfl)

theorem adding_lift {R : α → List Entry → Prop} {c : Call σ α} {f : α → Attempt σ ε β}
    (h : w.Adding R c) (next : ∀ a es, R a es → w.Adding (fun r es' => Q r (es ++ es')) (f a).toCall) :
    w.Adding Q (Attempt.lift c >>= f).toCall := by
  refine adding_bind (P := fun r es => ∃ a, r = .ok a ∧ R a es) ?_ ?_ ?_
  · refine Adding.bind h fun a es post => adding_done ?_
    rw [List.append_nil]
    exact ⟨a, rfl, post⟩
  · rintro a es ⟨_, ⟨⟩, post⟩
    exact next a es post
  · rintro e es ⟨a, ⟨⟩, -⟩

theorem adding_log {event : Event} {f : Unit → Attempt σ ε β} (next : w.Adding Q (f ()).toCall) :
    w.Adding Q (Attempt.log event >>= f).toCall := next

theorem adding_mapError {f : ε → ε'} {c : Attempt σ ε α} {P : Except ε' α → List Entry → Prop}
    (h : w.Adding (fun r es => P (r.mapError f) es) c.toCall) :
    w.Adding P (c.mapError f).toCall := by
  refine Adding.bind (c := c.toCall) h fun outcome es post => ?_
  cases outcome with
  | ok a =>
    refine adding_done ?_
    rw [List.append_nil]
    exact post
  | error e =>
    refine adding_done ?_
    rw [List.append_nil]
    exact post

end attempts

/-! ### Honest daemons -/

/-- A daemon that does what it says.  Its networks and containers are made if it says so, containers are
removed when it is asked for it, and nothing else makes or removes any. -/
structure Honest (w : Watched σ) : Prop where
  makes : ∀ name plan, w.Adding (fun r es => es = (Entry.made name).ifOk r)
    (w.project.daemon.make name plan).toCall
  inspects : ∀ name, w.Adding (fun _ es => es = []) (w.project.daemon.inspect name).toCall
  starts : ∀ name, w.Adding (fun _ es => es = []) (w.project.daemon.start name).toCall
  unpauses : ∀ name, w.Adding (fun _ es => es = []) (w.project.daemon.unpause name).toCall
  removes : ∀ name, w.Adding (fun r es => r = .ok () ∧ es = [.removed name])
    (w.project.daemon.remove name).toCall
  makesNetwork : ∀ plan, w.Adding (fun r es => es = (Entry.networkMade plan.name).ifOk r)
    (w.project.daemon.makeNetwork plan).toCall
  removesNetwork : ∀ name, w.Adding (fun _ es => es = [.networkRemoval name])
    (w.project.daemon.removeNetwork name).toCall
  /-- The project's note that the network was made. -/
  notes : ∀ s, w.history (w.project.networkMade.set true s) = w.history s ∧
    w.project.networkMade.get (w.project.networkMade.set true s) = true
  /-- What the handles have commanded is no business of the daemon. -/
  keeps : ∀ c, w.Adding (fun room es => es = [] ∧ ∀ c s, w.Adds [] s (room.set c s))
    (w.project.room c)

/-- A management that has nothing to do with the daemon. -/
structure Aside (w : Watched σ) (connector : Connector σ) : Prop where
  connects : ∀ ids, w.Adding (fun r es => es = [] ∧ ∀ client, r = .ok client → ∀ layout,
    w.Adding (fun _ es => es = []) (client.bootstrap layout).toCall) (connector ids).toCall

/-! ### Members -/

/-- A handle of a project, whose notes are no business of the daemon. -/
structure Owns (w : Watched σ) (h : Handle σ) : Prop where
  daemon : h.daemon = w.project.daemon
  keeps : ∀ c s, w.Adds [] s (h.commanded.set c s)

section members
variable {h : Handle σ}

theorem adding_record (owns : w.Owns h) (f : Commanded → Commanded) :
    w.Adding (fun r es => r = .ok () ∧ es = []) (h.record f).toCall := by
  intro s r t left
  cases left
  exact ⟨[], ⟨rfl, rfl⟩, owns.keeps _ s⟩

/-- Nothing is added, and what fails is that the container is not started. -/
def OnlyUnstarted (r : Except Failure α) (es : List Entry) : Prop :=
  es = [] ∧ ∀ e, r = .error e → e.Unstarted

theorem onlyUnstarted_ok (a : α) : OnlyUnstarted (.ok a : Except Failure α) [] := by
  refine ⟨rfl, fun e failed => ?_⟩
  cases failed

theorem onlyUnstarted_bind {c : Attempt σ Failure α} {f : α → Attempt σ Failure β}
    (first : w.Adding OnlyUnstarted c.toCall) (next : ∀ a, w.Adding OnlyUnstarted (f a).toCall) :
    w.Adding OnlyUnstarted (c >>= f).toCall := by
  refine adding_bind first ?_ ?_
  · rintro a es ⟨rfl, -⟩
    exact next a
  · rintro e es ⟨rfl, unstarted⟩
    refine ⟨rfl, ?_⟩
    rintro e' ⟨⟩
    exact unstarted e rfl

theorem onlyUnstarted_ask {c : Attempt σ DaemonError α}
    (told : w.Adding (fun _ es => es = []) c.toCall) :
    w.Adding OnlyUnstarted (h.ask "start" c).toCall := by
  refine adding_mapError (told.mono ?_)
  rintro r es rfl
  refine ⟨rfl, fun e failed => ?_⟩
  cases r with
  | ok a => cases failed
  | error cause =>
    cases failed
    exact ⟨h.id.text, cause.status, cause.reason, rfl⟩

theorem onlyUnstarted_record (owns : w.Owns h) (f : Commanded → Commanded) :
    w.Adding OnlyUnstarted (h.record f).toCall := by
  refine (adding_record owns f).mono ?_
  rintro r es ⟨rfl, rfl⟩
  exact onlyUnstarted_ok ()

theorem onlyUnstarted_unfreeze (honest : w.Honest) (owns : w.Owns h) :
    w.Adding OnlyUnstarted (h.unfreeze "start").toCall := by
  unfold Handle.unfreeze Handle.condition
  rw [owns.daemon]
  refine onlyUnstarted_bind ?_ fun condition => ?_
  · exact onlyUnstarted_bind (onlyUnstarted_ask (honest.inspects _)) fun state =>
      adding_give (onlyUnstarted_ok _)
  · split
    · exact onlyUnstarted_bind (onlyUnstarted_ask (honest.unpauses _)) fun _ =>
        adding_give (onlyUnstarted_ok _)
    · exact adding_give (onlyUnstarted_ok _)

theorem onlyUnstarted_start (honest : w.Honest) (owns : w.Owns h) :
    w.Adding OnlyUnstarted h.start.toCall := by
  have last : w.Adding OnlyUnstarted (do
      h.record (Commanded.setStatus .running)
      h.report "started" []).toCall :=
    onlyUnstarted_bind (onlyUnstarted_record owns _) fun _ => adding_done (onlyUnstarted_ok ())
  unfold Handle.start
  rw [owns.daemon]
  refine onlyUnstarted_bind (onlyUnstarted_unfreeze honest owns) fun condition => ?_
  split
  · refine onlyUnstarted_bind (onlyUnstarted_ask (honest.starts _)) fun _ => ?_
    exact onlyUnstarted_bind (onlyUnstarted_record owns _) fun _ => last
  · exact last

theorem adding_destroy (honest : w.Honest) (owns : w.Owns h) :
    w.Adding (fun _ es => es = [.removed h.container]) h.node.destroy.toCall := by
  change w.Adding _ h.destroy.toCall
  unfold Handle.destroy
  rw [owns.daemon]
  refine adding_bind (P := fun r es => r = .ok () ∧ es = [.removed h.container]) ?_ ?_ ?_
  · refine adding_mapError ((honest.removes h.container).mono ?_)
    rintro r es ⟨rfl, rfl⟩
    exact ⟨rfl, rfl⟩
  · rintro _ es ⟨-, rfl⟩
    refine adding_bind (adding_record owns _) ?_ ?_
    · rintro _ es ⟨-, rfl⟩
      exact adding_done rfl
    · rintro e es ⟨⟨⟩, -⟩
  · rintro e es ⟨⟨⟩, -⟩

end members

/-! ### The project -/

section project
variable {fixture : Fixture} {index count left : Nat} {node : Node σ} {nodes before : List (Node σ)}
  {d : Nat} {e : Failure}

/-- A member whose destruction removes a container, and does nothing else. -/
def Holds (w : Watched σ) (node : Node σ) (container : String) : Prop :=
  w.Adding (fun _ es => es = [.removed container]) node.destroy.toCall

/-- What the making of a member adds: its container, if it comes to that.  If the member is lost after
that, its container could not be started. -/
inductive Provisions (w : Watched σ) (name : String) :
    Except Failure (Node σ) → List Entry → Prop
  | done {node : Node σ} (holds : w.Holds node name) : Provisions w name (.ok node) [.made name]
  | refused {e : Failure} (other : ¬ e.Unstarted) : Provisions w name (.error e) []
  | lost {e : Failure} (unstarted : e.Unstarted) : Provisions w name (.error e) [.made name]

theorem not_unstarted_specOf (failed : specOf fixture = .error e) : ¬ e.Unstarted := by
  unfold specOf at failed
  split at failed
  · cases failed
  · cases failed
    rintro ⟨node, status, reason, same⟩
    cases same

theorem adding_provision (honest : w.Honest) (index : Nat) (fixture : Fixture) :
    w.Adding (w.Provisions (containerName w.project.name index))
      (w.project.provision index fixture).toCall := by
  unfold Project.provision
  refine adding_give_bind (fun spec _ => ?_) fun e failed => .refused (not_unstarted_specOf failed)
  refine adding_give_bind (fun address _ => ?_) fun e failed => .refused ?_
  · refine adding_bind
      (P := fun r es => es = (Entry.made (containerName w.project.name index)).ifOk r ∧
        ∀ e, r = .error e → ¬ e.Unstarted) ?_ ?_ ?_
    · refine adding_mapError ((honest.makes _ _).mono ?_)
      rintro r es rfl
      cases r with
      | ok _ =>
        refine ⟨rfl, ?_⟩
        rintro e ⟨⟩
      | error cause =>
        refine ⟨rfl, ?_⟩
        rintro e ⟨⟩ ⟨node, status, reason, same⟩
        simp [Failure.ofNode] at same
    · rintro _ es ⟨rfl, -⟩
      refine adding_lift (honest.keeps _) ?_
      rintro room es ⟨rfl, keeps⟩
      have owns : w.Owns ⟨Endpoint.ofParts address spec.memberPort,
          containerName w.project.name index, fixture.faults.stopGrace, w.project.daemon, room⟩ :=
        ⟨rfl, keeps⟩
      refine adding_bind (onlyUnstarted_start honest owns) ?_ ?_
      · rintro _ es ⟨rfl, -⟩
        exact adding_log (adding_done (.done (adding_destroy honest owns)))
      · rintro e es ⟨rfl, unstarted⟩
        exact .lost (unstarted e rfl)
    · rintro e es ⟨rfl, other⟩
      exact .refused (other e rfl)
  · cases address : nodeAddress spec.subnet index with
    | ok a =>
      rw [address] at failed
      cases failed
    | error cause =>
      rw [address] at failed
      cases failed
      rintro ⟨node, status, reason, same⟩
      cases same

/-- What the making of members adds that begins at an index: the containers of the members, and at most
one more, whose member is lost. -/
inductive Musters (w : Watched σ) (index left : Nat) :
    Nat → Option String → Except Failure Unit → Prop
  | all : Musters w index left left none (.ok ())
  | refused {count : Nat} {e : Failure} (few : count < left) (other : ¬ e.Unstarted) :
    Musters w index left count none (.error e)
  | lost {count : Nat} {e : Failure} (few : count < left) (unstarted : e.Unstarted) :
    Musters w index left count (some (containerName w.project.name (index + count))) (.error e)

theorem Musters.succ {stray : Option String} {outcome : Except Failure Unit}
    (h : w.Musters (index + 1) left count stray outcome) :
    w.Musters index (left + 1) (count + 1) stray outcome := by
  cases h with
  | all => exact .all
  | refused few other => exact .refused (Nat.succ_lt_succ few) other
  | lost few unstarted =>
    rw [Nat.add_assoc, Nat.add_comm 1 count]
    exact .lost (Nat.succ_lt_succ few) unstarted

/-- The names of the containers of some members. -/
def names (w : Watched σ) (index count : Nat) : List String :=
  (List.range' index count).map (containerName w.project.name)

/-- Members are made up to the first that fails, and can be destroyed; this one may be lost. -/
theorem adds_provisionAll {connector : Connector σ} {outcome : Except Failure Unit} (honest : w.Honest)
    (h : (Orchestrator.provisionAll ⟨w.project.backend, connector⟩ fixture index before left).result s =
      ((outcome, nodes), t)) :
    ∃ count stray, ∃ new : List (Node σ), w.Musters index left count stray outcome ∧
      nodes = before ++ new ∧ List.Forall₂ w.Holds new (w.names index count) ∧
      w.Adds ((w.names index count).map Entry.made ++ stray.toList.map Entry.made) s t := by
  induction left generalizing index before s with
  | zero =>
    cases h
    exact ⟨0, none, [], .all, (List.append_nil _).symm, .nil, .refl w s⟩
  | succ left ih =>
    unfold Orchestrator.provisionAll at h
    rw [Call.bind_eq, Call.result_bind] at h
    have made := adding_provision honest index fixture s
    change ∀ r t, (w.project.backend.provision index fixture).toCall.result s = (r, t) → _ at made
    rcases provisioned : (w.project.backend.provision index fixture).toCall.result s with ⟨r, u⟩
    rw [provisioned] at h
    obtain ⟨es, post, adds⟩ := made r u provisioned
    cases post with
    | @done node holds =>
      obtain ⟨count, stray, new, musters, rfl, all, rest⟩ := ih h
      refine ⟨count + 1, stray, node :: new, musters.succ, ?_, .cons holds all, adds.trans rest⟩
      rw [List.append_assoc]
      rfl
    | refused other =>
      cases h
      exact ⟨0, none, [], .refused (Nat.succ_pos left) other, (List.append_nil _).symm, .nil, adds⟩
    | lost unstarted =>
      cases h
      exact ⟨0, some _, [], .lost (Nat.succ_pos left) unstarted, (List.append_nil _).symm, .nil, adds⟩

/-- Members that are told to be destroyed have their containers removed, in their order. -/
theorem adds_razes {names : List String} (holds : List.Forall₂ w.Holds nodes names)
    (h : Orchestrator.Razes nodes s t d) : w.Adds (names.map Entry.removed) s t := by
  induction holds generalizing s d with
  | nil =>
    cases h
    exact .refl w _
  | cons here _ ih =>
    cases h with
    | cons told rest =>
      obtain ⟨es, rfl, adds⟩ := here _ _ _ told.result
      exact adds.trans (ih rest)

/-- The removal of the network is asked for if the network counts as made. -/
theorem adds_release {outcome : Except Failure Unit} (honest : w.Honest)
    (h : Attempt.result w.project.release s = (outcome, t)) :
    w.history t = w.history s ++ if w.project.networkMade.get s = true then
      [.networkRemoval (networkName w.project.name)] else [] := by
  unfold Project.release at h
  rw [Attempt.result_bind, Attempt.result_lift] at h
  by_cases noted : w.project.networkMade.get s = true
  · change Attempt.result (if w.project.networkMade.get s = true then _ else _) s = _ at h
    rw [if_pos noted] at h ⊢
    have removing : w.Adding (fun _ es => es = [.networkRemoval (networkName w.project.name)])
        (do
          (w.project.daemon.removeNetwork (networkName w.project.name)).mapError fun e =>
            .ofFleet "remove network" (.daemon e.status e.reason)
          Attempt.log (.info "removed cluster network"
            [("project", .fixed w.project.name)]) : Attempt σ Failure Unit).toCall := by
      refine adding_bind (P := fun _ es => es = [.networkRemoval (networkName w.project.name)])
        (adding_mapError (honest.removesNetwork _)) ?_ ?_
      · rintro _ es rfl
        exact adding_done rfl
      · rintro e es rfl
        rfl
    obtain ⟨es, rfl, adds⟩ := removing s outcome t h
    exact adds.history
  · change Attempt.result (if w.project.networkMade.get s = true then _ else _) s = _ at h
    rw [if_neg noted] at h ⊢
    cases h
    exact (List.append_nil _).symm

theorem adds_prepare {outcome : Except Failure Unit} (honest : w.Honest)
    (h : Attempt.result (w.project.prepare fixture) s = (outcome, t)) :
    (∃ e, outcome = .error e ∧ ¬ e.Unstarted ∧ w.Adds [] s t) ∨
      (outcome = .ok () ∧ w.project.networkMade.get t = true ∧
        w.history t = w.history s ++ [.networkMade (networkName w.project.name)]) := by
  unfold Project.prepare at h
  rw [Attempt.result_bind, Attempt.result_give] at h
  cases wanted : specOf fixture with
  | error e =>
    rw [wanted] at h
    cases h
    exact .inl ⟨e, rfl, not_unstarted_specOf wanted, .refl w s⟩
  | ok spec =>
    rw [wanted] at h
    have making := honest.makesNetwork (w.project.network spec) s
    simp only at h
    rw [Attempt.result_bind, Attempt.mapError, Attempt.result_ofCall, Call.result_bind] at h
    rcases made : (w.project.daemon.makeNetwork (w.project.network spec)).toCall.result s with
      ⟨r, u⟩
    rw [made] at h
    obtain ⟨es, rfl, adds⟩ := making r u made
    cases r with
    | error cause =>
      cases h
      refine .inl ⟨_, rfl, ?_, adds⟩
      rintro ⟨node, status, reason, same⟩
      simp [Failure.ofFleet] at same
    | ok _ =>
      cases h
      obtain ⟨kept, noted⟩ := honest.notes u
      refine .inr ⟨rfl, noted, ?_⟩
      exact kept.trans adds.history

theorem adding_submit {client : ManagementClient σ} {layout : Layout} {policy : BootstrapPolicy}
    (aside : w.Adding (fun _ es => es = []) (client.bootstrap layout).toCall) {attempt : Nat}
    {lastError : String} : w.Adding (fun r es => es = [] ∧ ∀ e, r = .error e → ¬ e.Unstarted)
      (Orchestrator.submit client layout policy attempt lastError left).toCall := by
  induction left generalizing attempt lastError with
  | zero =>
    refine adding_give ⟨rfl, ?_⟩
    rintro e ⟨⟩ ⟨node, status, reason, same⟩
    cases same
  | succ left ih =>
    unfold Orchestrator.submit
    refine adding_lift aside ?_
    rintro outcome es rfl
    cases outcome with
    | ok _ =>
      refine adding_done ⟨rfl, ?_⟩
      rintro e ⟨⟩
    | error cause =>
      refine adding_log ?_
      split
      · refine adding_lift (R := fun _ es => es = []) (adding_done rfl) ?_
        rintro _ es rfl
        exact ih
      · exact ih

end project

end Watched

/-! ### A daemon with a history -/

/-- A daemon that cannot start some containers, with its history and the notes of a project. -/
structure Ledger where
  history : List Entry
  networkMade : Bool
  /-- What each handle has commanded. -/
  commanded : List Commanded
  unstartable : List String

namespace Ledger

/-- A daemon that has done nothing yet. -/
def blank (unstartable : List String) : Ledger := ⟨[], false, [], unstartable⟩

/-- Do something and enter it. -/
def enter (e : Entry) : Attempt Ledger DaemonError Unit :=
  Attempt.ofCall (Call.atomically fun s => (.ok (), { s with history := s.history ++ [e] }))

/-- Answer without doing anything. -/
def reply {α : Type} (answer : Ledger → Except DaemonError α) : Attempt Ledger DaemonError α :=
  Attempt.ofCall (Call.read answer)

/-- The daemon. -/
def daemon : Daemon Ledger where
  makeNetwork plan := enter (.networkMade plan.name)
  removeNetwork name := enter (.networkRemoval name)
  make name _ := enter (.made name)
  inspect name := reply fun s =>
    if name ∈ standing s.history then .ok (some .created) else .error ⟨404, "No such container"⟩
  start name := reply fun s =>
    if name ∈ s.unstartable then .error ⟨500, "cannot start container"⟩ else .ok ()
  stop _ _ := reply fun _ => .ok ()
  kill _ := reply fun _ => .ok ()
  pause _ := reply fun _ => .ok ()
  unpause _ := reply fun _ => .ok ()
  restart _ _ := reply fun _ => .ok ()
  remove name := enter (.removed name)
  prepareCommand _ _ := reply fun _ => .ok 0
  runCommand _ := reply fun _ => .ok ("", "")
  inspectCommand _ := reply fun _ => .ok (some 0)

/-- What the handle with a number has commanded. -/
def commandedBy (number : Nat) : Part Ledger Commanded where
  get s := s.commanded[number]?.getD (.ofStatus .stopped)
  set c s := { s with commanded := s.commanded.set number c }

/-- A project on the daemon. -/
def watched : Watched Ledger where
  project.name := projectName "fx" (.ofNat 7)
  project.daemon := daemon
  project.networkMade := ⟨networkMade, fun noted s => { s with networkMade := noted }⟩
  project.room c := Call.atomically fun s =>
    (commandedBy s.commanded.length, { s with commanded := s.commanded ++ [c] })
  history := history

theorem adding_enter (e : Entry) :
    watched.Adding (fun r es => r = .ok () ∧ es = [e]) (enter e).toCall := by
  intro s r t left
  cases left
  exact ⟨[e], ⟨rfl, rfl⟩, rfl, rfl⟩

theorem adding_reply {α : Type} (answer : Ledger → Except DaemonError α) :
    watched.Adding (fun _ es => es = []) (reply answer).toCall := by
  intro s r t left
  cases left
  exact ⟨[], rfl, .refl _ s⟩

theorem honest_watched : watched.Honest where
  makes name _ := (adding_enter (.made name)).mono (by rintro r es ⟨rfl, rfl⟩; rfl)
  inspects _ := adding_reply _
  starts _ := adding_reply _
  unpauses _ := adding_reply _
  removes name := adding_enter (.removed name)
  makesNetwork plan := (adding_enter (.networkMade plan.name)).mono (by rintro r es ⟨rfl, rfl⟩; rfl)
  removesNetwork name := (adding_enter (.networkRemoval name)).mono (by rintro r es ⟨rfl, rfl⟩; rfl)
  notes _ := ⟨rfl, rfl⟩
  keeps c := by
    intro s room t left
    cases left
    exact ⟨[], ⟨rfl, fun c s => ⟨(List.append_nil _).symm, rfl⟩⟩, (List.append_nil _).symm, rfl⟩

/-- A management that is down. -/
def down : Connector Ledger := fun _ => Attempt.give (.error .gatewayDown)

theorem aside_down : watched.Aside down where
  connects _ := Watched.adding_give ⟨rfl, by rintro client ⟨⟩⟩

/-- A fixture with some members in containers. -/
def fixture (n : Nat) : Fixture :=
  { Fixture.simulated n with
    backend := .containers ⟨"img:1", defaultMemberPort, [], [], defaultSubnet⟩ }

end Ledger

namespace Watched
variable {σ : Type} {w : Watched σ} {s t : σ}

/-! ### Failed deployments -/

/-- The course of a failed deployment: the network is made, the containers of some members are made, and
perhaps a stray one; then the containers of these members are removed, and then the network. -/
def course (w : Watched σ) (network closing : Bool) (count : Nat) (stray : Option String) :
    List Entry :=
  (if network = true then [.networkMade (networkName w.project.name)] else []) ++
    ((w.names 0 count).map Entry.made ++ stray.toList.map Entry.made) ++
    (w.names 0 count).map Entry.removed ++
    if closing = true then [.networkRemoval (networkName w.project.name)] else []

theorem containerName_inj {project : String} {i j : Nat} :
    containerName project i = containerName project j ↔ i = j := by
  refine ⟨fun same => ?_, fun same => by rw [same]⟩
  exact Text.toString_inj.mp ((String.append_right_inj _).mp same)

theorem containerName_notMem_names (w : Watched σ) (count : Nat) :
    containerName w.project.name count ∉ w.names 0 count := by
  intro mem
  obtain ⟨i, hi, same⟩ := List.mem_map.mp mem
  rw [List.mem_range'_1] at hi
  have := containerName_inj.mp same
  omega

theorem foldl_standing_made (up names : List String) :
    (names.map Entry.made).foldl Entry.standing up = up ++ names := by
  induction names generalizing up with
  | nil => simp
  | cons name names ih => simp [Entry.standing, ih]

theorem foldl_standing_removed (up names : List String) :
    (names.map Entry.removed).foldl Entry.standing up = up.filter fun c => c ∉ names := by
  induction names generalizing up with
  | nil => simp
  | cons name names ih =>
    rw [List.map_cons, List.foldl_cons, ih, Entry.standing, List.filter_filter]
    refine List.filter_congr fun c _ => ?_
    simp [not_or, Bool.and_comm]

/-- At the end of the course the stray container stands, if there is one, and nothing else. -/
theorem standing_course {network closing : Bool} {count : Nat} {stray : Option String}
    (other : ∀ c ∈ stray, c ∉ w.names 0 count) :
    standing (w.course network closing count stray) = stray.toList := by
  have opened : (if network = true then [Entry.networkMade (networkName w.project.name)]
      else []).foldl Entry.standing [] = [] := by
    cases network <;> rfl
  have closed : ∀ up, (if closing = true then [Entry.networkRemoval (networkName w.project.name)]
      else []).foldl Entry.standing up = up := by
    intro up
    cases closing <;> rfl
  have left : stray.toList.filter (fun c => c ∉ w.names 0 count) = stray.toList := by
    rw [List.filter_eq_self]
    intro c hc
    simpa using other c (Option.mem_toList.mp hc)
  have gone : (w.names 0 count).filter (fun c => c ∉ w.names 0 count) = [] := by
    simp [List.filter_eq_nil_iff]
  unfold standing course
  rw [List.foldl_append, List.foldl_append, List.foldl_append, List.foldl_append, opened, closed,
    foldl_standing_made, foldl_standing_made, foldl_standing_removed, List.nil_append,
    List.filter_append, gone, left, List.nil_append]

section aftermath
variable {connector : Connector σ} {fixture : Fixture} {identity : Uuid} {nodes : List (Node σ)}
  {names : List String} {e : Failure} {d : Nat}

/-- What was made before a deployment failed has its containers removed, and then the network. -/
theorem history_of_clears (honest : w.Honest) (holds : List.Forall₂ w.Holds nodes names)
    (cleared : Orchestrator.Clears ⟨w.project.backend, connector⟩ nodes s t d) :
    w.history t = w.history s ++ names.map Entry.removed ++
      if w.project.networkMade.get s = true then [.networkRemoval (networkName w.project.name)]
      else [] := by
  cases cleared with
  | @intro t u outcome d₁ d₂ razed released =>
    have removed := adds_razes holds razed
    rw [adds_release honest released.result, removed.history, removed.network]

/-- Once the network was made, a deployment that fails takes the whole course. -/
theorem history_of_failed {s₁ s₂ u : σ} {count : Nat} {stray : Option String} (honest : w.Honest)
    (noted : w.project.networkMade.get s₁ = true)
    (prepared : w.history s₁ = w.history s ++ [.networkMade (networkName w.project.name)])
    (made : w.Adds ((w.names 0 count).map Entry.made ++ stray.toList.map Entry.made) s₁ s₂)
    (then' : w.Adds [] s₂ u) (holds : List.Forall₂ w.Holds nodes (w.names 0 count))
    (cleared : Orchestrator.Clears ⟨w.project.backend, connector⟩ nodes u t d) :
    w.history t = w.history s ++ w.course true true count stray := by
  have still : w.project.networkMade.get u = true := then'.network.trans (made.network.trans noted)
  rw [history_of_clears honest holds cleared, if_pos still, then'.history, made.history, prepared]
  simp [course]

/-- **What a failed deployment in containers leaves behind.**  All containers that the daemon has made
are removed, each in its turn, and after that the removal of the network is asked for if it was made;
but a container that was made and could not be started is not removed. -/
theorem failed_deployment_leaves_stray (honest : w.Honest) (aside : w.Aside connector)
    (h : (Orchestrator.deploy ⟨w.project.backend, connector⟩ fixture identity).toCall.Leaves s
      (.error e) t d) :
    ∃ network closing count stray,
      w.history t = w.history s ++ w.course network closing count stray ∧
      (network = true → closing = true) ∧
      standing (w.course network closing count stray) = stray.toList ∧
      (¬ e.Unstarted ∧ stray = none ∨
        e.Unstarted ∧ count < fixture.nodeCount ∧
          stray = some (containerName w.project.name count)) := by
  cases Orchestrator.deploy_fails h with
  | @invalid cause invalid =>
    refine ⟨false, false, 0, none, ?_, ?_, standing_course (by simp), .inl ⟨?_, rfl⟩⟩
    · exact (List.append_nil _).symm
    · simp
    · rintro ⟨node, status, reason, same⟩
      cases same
  | unprepared valid failed cleared =>
    obtain ⟨e', same, other, adds⟩ | ⟨⟨⟩, -⟩ := adds_prepare honest failed.result
    cases same
    refine ⟨false, w.project.networkMade.get s, 0, none, ?_, ?_, standing_course (by simp),
      .inl ⟨other, rfl⟩⟩
    · rw [history_of_clears honest .nil cleared, adds.history, adds.network]
      simp [course, Watched.names]
    · simp
  | unmade valid prepared failed cleared =>
    obtain ⟨e', ⟨⟩, -⟩ | ⟨-, noted, opened⟩ := adds_prepare honest prepared.result
    obtain ⟨count, stray, new, musters, rfl, holds, made⟩ := adds_provisionAll honest failed.result
    have course := history_of_failed honest noted opened made (.refl w _) holds cleared
    cases musters with
    | refused few other =>
      refine ⟨true, true, count, none, course, fun _ => rfl, standing_course (by simp), ?_⟩
      exact .inl ⟨other, rfl⟩
    | lost few unstarted =>
      rw [Nat.zero_add] at course
      refine ⟨true, true, count, _, course, fun _ => rfl, standing_course ?_, ?_⟩
      · rintro c ⟨⟩
        exact w.containerName_notMem_names count
      · exact .inr ⟨unstarted, few, rfl⟩
  | unreached valid prepared made failed cleared =>
    obtain ⟨e', ⟨⟩, -⟩ | ⟨-, noted, opened⟩ := adds_prepare honest prepared.result
    obtain ⟨count, stray, new, musters, rfl, holds, made⟩ := adds_provisionAll honest made.result
    obtain ⟨_, ⟨rfl, -⟩, connected⟩ := aside.connects _ _ _ _ failed.result
    have course := history_of_failed honest noted opened made connected holds cleared
    cases musters
    refine ⟨true, true, fixture.nodeCount, none, course, fun _ => rfl, standing_course (by simp),
      .inl ⟨?_, rfl⟩⟩
    rintro ⟨node, status, reason, same⟩
    cases same
  | untaken valid prepared made reached failed cleared =>
    obtain ⟨e', ⟨⟩, -⟩ | ⟨-, noted, opened⟩ := adds_prepare honest prepared.result
    obtain ⟨count, stray, new, musters, rfl, holds, made⟩ := adds_provisionAll honest made.result
    obtain ⟨_, ⟨rfl, asides⟩, connected⟩ := aside.connects _ _ _ _ reached.result
    obtain ⟨_, ⟨rfl, other⟩, submitted⟩ :=
      adding_submit (asides _ rfl _) _ _ _ failed.result
    have course := history_of_failed honest noted opened made (connected.trans submitted) holds
      cleared
    cases musters
    exact ⟨true, true, fixture.nodeCount, none, course, fun _ => rfl, standing_course (by simp),
      .inl ⟨other _ rfl, rfl⟩⟩

end aftermath

end Watched

/-- Of two members the second one cannot be started: it stays behind, and the first one does not. -/
theorem Ledger.failed_deployment_leaves_stray_second : ∃ e t d,
    (Orchestrator.deploy ⟨watched.project.backend, down⟩ (fixture 2) (.ofNat 8)).toCall.Leaves
      (blank [containerName watched.project.name 1]) (.error e) t d ∧
    t.history = watched.course true true 1 (some (containerName watched.project.name 1)) ∧
    e.Unstarted ∧ standing t.history = [containerName watched.project.name 1] := by
  have fails : ((Orchestrator.deploy ⟨watched.project.backend, down⟩ (fixture 2)
      (.ofNat 8)).toCall.result (blank [containerName watched.project.name 1])).1.toOption.isNone =
        true := by decide +kernel
  have entered : ((Orchestrator.deploy ⟨watched.project.backend, down⟩ (fixture 2)
      (.ofNat 8)).toCall.result (blank [containerName watched.project.name 1])).2.history =
        watched.course true true 1 (some (containerName watched.project.name 1)) := by decide +kernel
  have ran := Call.Leaves.refl
    (Orchestrator.deploy ⟨watched.project.backend, down⟩ (fixture 2) (.ofNat 8)).toCall
    (blank [containerName watched.project.name 1])
  generalize ((Orchestrator.deploy ⟨watched.project.backend, down⟩ (fixture 2)
    (.ofNat 8)).toCall.result (blank [containerName watched.project.name 1])).1 = outcome at fails ran
  cases outcome with
  | ok g => cases fails
  | error e =>
    obtain ⟨network, closing, count, stray, history, -, stands, why⟩ :=
      Watched.failed_deployment_leaves_stray honest_watched aside_down ran
    have left : standing (watched.course true true 1
        (some (containerName watched.project.name 1))) = [containerName watched.project.name 1] := by
      decide +kernel
    have same : watched.course true true 1 (some (containerName watched.project.name 1)) =
        watched.course network closing count stray := entered.symm.trans history
    rw [← same, left] at stands
    refine ⟨e, _, _, ran, entered, ?_, ?_⟩
    · rcases why with ⟨-, rfl⟩ | ⟨unstarted, -⟩
      · cases stands
      · exact unstarted
    · rw [entered]
      exact left

/-- A failed deployment of one member, whose container cannot be started, leaves this container
behind, although the daemon removes all that it is asked to. -/
theorem Ledger.unstartable_container_stays : ∃ e t d, watched.Honest ∧ watched.Aside down ∧
    (Orchestrator.deploy ⟨watched.project.backend, down⟩ (fixture 1) (.ofNat 8)).toCall.Leaves
      (blank [containerName watched.project.name 0]) (.error e) t d ∧
    standing t.history = [containerName watched.project.name 0] := by
  have fails : ((Orchestrator.deploy ⟨watched.project.backend, down⟩ (fixture 1)
      (.ofNat 8)).toCall.result (blank [containerName watched.project.name 0])).1.toOption.isNone =
        true := by decide +kernel
  have left : standing ((Orchestrator.deploy ⟨watched.project.backend, down⟩ (fixture 1)
      (.ofNat 8)).toCall.result (blank [containerName watched.project.name 0])).2.history =
        [containerName watched.project.name 0] := by decide +kernel
  have ran := Call.Leaves.refl
    (Orchestrator.deploy ⟨watched.project.backend, down⟩ (fixture 1) (.ofNat 8)).toCall
    (blank [containerName watched.project.name 0])
  generalize ((Orchestrator.deploy ⟨watched.project.backend, down⟩ (fixture 1)
    (.ofNat 8)).toCall.result (blank [containerName watched.project.name 0])).1 = outcome
    at fails ran
  cases outcome with
  | ok g => cases fails
  | error e => exact ⟨e, _, _, honest_watched, aside_down, ran, left⟩

end Container

end FaultLab
