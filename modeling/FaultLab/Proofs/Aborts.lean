import FaultLab.Proofs.Deployments

/-! # Deployments that fail

A deployment fails in one of five ways (`Orchestrator.Fails`): the fixture is not valid, the backend
cannot be prepared, a member cannot be made, the management cannot be reached, or the first layout is
not taken.  But for the first way, the failure is followed by a cleanup (`Orchestrator.Clears`): all
members that were made are told to be destroyed, each once, in the order in which they were made and
whatever comes of it (`Orchestrator.Razes`), and then the backend is released.  The failure that is
reported is always the one before the cleanup (`Orchestrator.deploy_fails`). -/

namespace FaultLab

namespace Attempt
variable {σ ε α β : Type} {s t : σ} {e : ε} {d : Nat}

theorem leaves_give {r r' : Except ε α} (h : (give r : Attempt σ ε α).toCall.Leaves s r' t d) :
    r' = r ∧ t = s ∧ d = 0 := by
  obtain ⟨result, elapsed⟩ := h
  cases result
  exact ⟨rfl, rfl, elapsed.symm⟩

theorem leaves_lift {c : Call σ α} {r : Except ε α}
    (h : (lift c : Attempt σ ε α).toCall.Leaves s r t d) : ∃ a, r = .ok a ∧ c.Leaves s a t d := by
  obtain ⟨a, u, d₁, d₂, first, ⟨result, elapsed⟩, rfl⟩ := Call.Leaves.of_bind (c := c) h
  cases result
  cases elapsed
  exact ⟨a, rfl, first⟩

/-! ### Sequences that fail -/

theorem error_of_give {r : Except ε α} {f : α → Attempt σ ε β}
    (h : (give r >>= f).toCall.Leaves s (.error e) t d) :
    (r = .error e ∧ t = s ∧ d = 0) ∨ ∃ a, r = .ok a ∧ (f a).toCall.Leaves s (.error e) t d := by
  rcases error_of_bind h with failed | ⟨a, u, d₁, d₂, given, rest, rfl⟩
  · obtain ⟨refused, rfl, rfl⟩ := leaves_give failed
    exact .inl ⟨refused.symm, rfl, rfl⟩
  · obtain ⟨accepted, rfl, rfl⟩ := leaves_give given
    rw [Nat.zero_add]
    exact .inr ⟨a, accepted.symm, rest⟩

theorem error_of_lift {c : Call σ α} {f : α → Attempt σ ε β}
    (h : (lift c >>= f).toCall.Leaves s (.error e) t d) :
    ∃ a u d₁ d₂, c.Leaves s a u d₁ ∧ (f a).toCall.Leaves u (.error e) t d₂ ∧ d = d₁ + d₂ := by
  rcases error_of_bind h with failed | ⟨a, u, d₁, d₂, made, rest, rfl⟩
  · obtain ⟨a, same, -⟩ := leaves_lift failed
    cases same
  · obtain ⟨a', same, made⟩ := leaves_lift made
    cases same
    exact ⟨a, u, d₁, d₂, made, rest, rfl⟩

theorem error_of_log {event : Event} {f : Unit → Attempt σ ε β}
    (h : (log event >>= f).toCall.Leaves s (.error e) t d) :
    (f ()).toCall.Leaves s (.error e) t d := by
  obtain ⟨_, u, d₁, d₂, ⟨result, elapsed⟩, rest, rfl⟩ := error_of_lift h
  cases result
  cases elapsed
  rw [Call.elapsed, Call.log, Call.run, Call.run, Nat.zero_add]
  exact rest

end Attempt

namespace Orchestrator
variable {σ α β : Type} {o : Orchestrator σ} {s t u : σ} {d : Nat} {node : Node σ}
  {nodes : List (Node σ)} {fixture : Fixture} {identity : Uuid} {e : Failure}

/-! ### The cleanup -/

/-- Some members are told to be destroyed, each once and one after the other, whatever comes of it. -/
inductive Razes : List (Node σ) → σ → σ → Nat → Prop
  | nil (s : σ) : Razes [] s s 0
  | cons {s t u : σ} {node : Node σ} {nodes : List (Node σ)} {outcome : Except Failure Unit}
    {d₁ d₂ : Nat} (told : node.destroy.toCall.Leaves s outcome t d₁) (rest : Razes nodes t u d₂) :
    Razes (node :: nodes) s u (d₁ + d₂)

/-- Some members are told to be destroyed, and then the backend is released. -/
inductive Clears (o : Orchestrator σ) (nodes : List (Node σ)) (s : σ) : σ → Nat → Prop
  | intro {t u : σ} {outcome : Except Failure Unit} {d₁ d₂ : Nat} (razed : Razes nodes s t d₁)
    (released : o.backend.release.toCall.Leaves t outcome u d₂) : Clears o nodes s u (d₁ + d₂)

theorem razes_of_destroyAll {note : Node σ → Failure → Event} {failures : List Failure}
    (h : (destroyAll note nodes).Leaves s failures t d) : Razes nodes s t d := by
  induction nodes generalizing s failures d with
  | nil =>
    obtain ⟨result, elapsed⟩ := h
    cases result
    cases elapsed
    exact .nil s
  | cons node nodes ih =>
    obtain ⟨outcome, u, d₁, d₂, told, rest, rfl⟩ := Call.Leaves.of_bind h
    cases outcome with
    | ok _ => exact .cons told (ih rest)
    | error e =>
      have noted : (Call.bind (destroyAll note nodes) fun failures => .done (e :: failures)).Leaves
          u failures t d₂ := ⟨rest.result, rest.elapsed⟩
      obtain ⟨failures', t', d₃, d₄, razed, ⟨result, elapsed⟩, rfl⟩ := Call.Leaves.of_bind noted
      cases result
      cases elapsed
      exact .cons told (ih razed)

theorem leaves_pass {refusal : String} {next now phase : Phase}
    (h : (pass refusal next now).Leaves s phase t d) : t = s ∧ d = 0 := by
  unfold pass at h
  cases may : now.advance next with
  | ok phase' =>
    rw [may] at h
    obtain ⟨result, elapsed⟩ := h
    cases result
    exact ⟨rfl, elapsed.symm⟩
  | error e =>
    rw [may] at h
    obtain ⟨result, elapsed⟩ := h
    cases result
    exact ⟨rfl, elapsed.symm⟩

theorem clears_of_releaseAll {note : Failure → Event} {failures : List Failure} {d' : Nat}
    (razed : Razes nodes s u d') (h : (o.releaseAll note).Leaves u failures t d) :
    o.Clears nodes s t (d' + d) := by
  obtain ⟨outcome, v, d₁, d₂, released, ⟨result, elapsed⟩, rfl⟩ := Call.Leaves.of_bind h
  cases outcome with
  | ok _ =>
    cases result
    cases elapsed
    exact .intro razed released
  | error e =>
    cases result
    cases elapsed
    exact .intro razed released

theorem clears_of_abort {phase phase' : Phase} (h : (o.abort phase nodes).Leaves s phase' t d) :
    o.Clears nodes s t d := by
  obtain ⟨now, s₁, d₁, d₂, passed, h₁, rfl⟩ := Call.Leaves.of_bind h
  obtain ⟨rfl, rfl⟩ := leaves_pass passed
  obtain ⟨failures, s₂, d₃, d₄, razed, h₂, rfl⟩ := Call.Leaves.of_bind h₁
  obtain ⟨more, s₃, d₅, d₆, released, passed, rfl⟩ := Call.Leaves.of_bind h₂
  obtain ⟨rfl, rfl⟩ := leaves_pass passed
  have cleared := clears_of_releaseAll (razes_of_destroyAll razed) released
  rw [Nat.zero_add, Nat.add_zero]
  exact cleared

/-- Where a sequence fails whose first attempt is cleaned up after, this attempt has failed and was
cleaned up after, or the second one fails. -/
theorem error_of_orAbort {phase : Phase} {c : Attempt σ Failure α} {f : α → Attempt σ Failure β}
    (h : (o.orAbort phase nodes c >>= f).toCall.Leaves s (.error e) t d) :
    (∃ u d₁ d₂, c.toCall.Leaves s (.error e) u d₁ ∧ o.Clears nodes u t d₂ ∧ d = d₁ + d₂) ∨
      ∃ a u d₁ d₂, c.toCall.Leaves s (.ok a) u d₁ ∧ (f a).toCall.Leaves u (.error e) t d₂ ∧
        d = d₁ + d₂ := by
  rw [orAbort, bind_assoc] at h
  obtain ⟨outcome, u, d₁, d₂, made, h₁, rfl⟩ := Attempt.error_of_lift h
  cases outcome with
  | ok a => exact .inr ⟨a, u, d₁, d₂, made, h₁, rfl⟩
  | error e' =>
    change ((Attempt.lift (o.abort phase nodes) >>= fun _ => Attempt.give (.error e')) >>=
      f).toCall.Leaves u (.error e) t d₂ at h₁
    rw [bind_assoc] at h₁
    obtain ⟨phase', v, d₃, d₄, aborted, h₂, rfl⟩ := Attempt.error_of_lift h₁
    obtain ⟨result, elapsed⟩ := h₂
    cases result
    cases elapsed
    exact .inl ⟨u, d₁, d₃, made, clears_of_abort aborted, rfl⟩

/-! ### The ways to fail -/

/-- How a deployment fails: with which failure, in which state it ends, and after what time. -/
inductive Fails (o : Orchestrator σ) (fixture : Fixture) (identity : Uuid) (s : σ) :
    Failure → σ → Nat → Prop
  | invalid {cause : FixtureError} (invalid : fixture.validate = .error cause) :
    Fails o fixture identity s (.fixture cause) s 0
  | unprepared {e : Failure} {u t : σ} {d₁ d₂ : Nat} (valid : fixture.validate = .ok ())
    (failed : (o.backend.prepare fixture).toCall.Leaves s (.error e) u d₁)
    (cleared : o.Clears [] u t d₂) : Fails o fixture identity s e t (d₁ + d₂)
  | unmade {e : Failure} {s₁ u t : σ} {nodes : List (Node σ)} {d₁ d₂ d₃ : Nat}
    (valid : fixture.validate = .ok ())
    (prepared : (o.backend.prepare fixture).toCall.Leaves s (.ok ()) s₁ d₁)
    (failed : (o.provisionAll fixture 0 [] fixture.nodeCount).Leaves s₁ (.error e, nodes) u d₂)
    (cleared : o.Clears nodes u t d₃) : Fails o fixture identity s e t (d₁ + (d₂ + d₃))
  | unreached {cause : ManagementError} {s₁ s₂ u t : σ} {nodes : List (Node σ)}
    {d₁ d₂ d₃ d₄ : Nat} (valid : fixture.validate = .ok ())
    (prepared : (o.backend.prepare fixture).toCall.Leaves s (.ok ()) s₁ d₁)
    (made : (o.provisionAll fixture 0 [] fixture.nodeCount).Leaves s₁ (.ok (), nodes) s₂ d₂)
    (failed : (o.connector (nodes.map Node.id)).toCall.Leaves s₂ (.error cause) u d₃)
    (cleared : o.Clears nodes u t d₄) :
    Fails o fixture identity s (.management cause) t (d₁ + (d₂ + (d₃ + d₄)))
  | untaken {e : Failure} {s₁ s₂ s₃ u t : σ} {nodes : List (Node σ)}
    {client : ManagementClient σ} {d₁ d₂ d₃ d₄ d₅ : Nat} (valid : fixture.validate = .ok ())
    (prepared : (o.backend.prepare fixture).toCall.Leaves s (.ok ()) s₁ d₁)
    (made : (o.provisionAll fixture 0 [] fixture.nodeCount).Leaves s₁ (.ok (), nodes) s₂ d₂)
    (reached : (o.connector (nodes.map Node.id)).toCall.Leaves s₂ (.ok client) s₃ d₃)
    (failed : (submit client (.initial (nodes.map Node.id) identity) fixture.bootstrap 1 ""
      fixture.bootstrap.retries.toNat).toCall.Leaves s₃ (.error e) u d₄)
    (cleared : o.Clears nodes u t d₅) :
    Fails o fixture identity s e t (d₁ + (d₂ + (d₃ + (d₄ + d₅))))

theorem leaves_prepare {r : Except Failure Unit} (h : (o.prepare fixture).Leaves s r t d) :
    (o.backend.prepare fixture).toCall.Leaves s r t d := by
  obtain ⟨outcome, u, d₁, d₂, made, ⟨result, elapsed⟩, rfl⟩ := Call.Leaves.of_bind h
  cases outcome with
  | ok _ =>
    cases result
    cases elapsed
    exact made
  | error e =>
    cases result
    cases elapsed
    exact made

theorem error_of_advance {now next : Phase} {f : Phase → Attempt σ Failure α}
    (may : now.mayPrecede next = true)
    (h : (advance now next >>= f).toCall.Leaves s (.error e) t d) :
    (f next).toCall.Leaves s (.error e) t d := by
  rw [advance, Phase.advance, if_pos may, bind_assoc] at h
  rcases Attempt.error_of_give h with ⟨refused, -, -⟩ | ⟨phase, given, h₁⟩
  · cases refused
  · cases given
    rw [bind_assoc] at h₁
    exact Attempt.error_of_log h₁

/-- **A deployment that fails** does so in one of five ways. -/
theorem deploy_fails (h : (o.deploy fixture identity).toCall.Leaves s (.error e) t d) :
    o.Fails fixture identity s e t d := by
  unfold deploy at h
  rcases Attempt.error_of_give h with ⟨refused, rfl, rfl⟩ | ⟨_, accepted, h₁⟩
  · cases hv : fixture.validate with
    | ok _ =>
      rw [hv] at refused
      cases refused
    | error cause =>
      rw [hv] at refused
      cases refused
      exact .invalid hv
  have valid : fixture.validate = .ok () := by
    cases hv : fixture.validate with
    | ok _ => rfl
    | error cause =>
      rw [hv] at accepted
      cases accepted
  have h₂ := Attempt.error_of_log (error_of_advance rfl h₁)
  rcases error_of_orAbort h₂ with ⟨u, d₁, d₂, failed, cleared, rfl⟩ | ⟨_, s₁, d₁, d₂, ready, h₃, rfl⟩
  · exact .unprepared valid (leaves_prepare failed) cleared
  have prepared := leaves_prepare ready
  obtain ⟨⟨provisioned, nodes⟩, s₂, d₃, d₄, made, h₄, rfl⟩ := Attempt.error_of_lift h₃
  rcases error_of_orAbort h₄ with ⟨u, d₅, d₆, failed, cleared, rfl⟩ | ⟨_, s₃, d₅, d₆, all, h₅, rfl⟩
  · obtain ⟨rfl, rfl, rfl⟩ := Attempt.leaves_give failed
    rw [Nat.zero_add]
    exact .unmade valid prepared made cleared
  obtain ⟨rfl, rfl, rfl⟩ := Attempt.leaves_give all
  rcases error_of_orAbort (error_of_advance rfl h₅) with
    ⟨u, d₇, d₈, failed, cleared, rfl⟩ | ⟨client, s₄, d₇, d₈, connected, h₆, rfl⟩
  · obtain ⟨cause, rfl, refused⟩ := Attempt.error_of_mapError failed
    rw [Nat.zero_add]
    exact .unreached valid prepared made refused cleared
  have reached := Attempt.ok_of_mapError connected
  rcases error_of_orAbort h₆ with ⟨u, d₉, d₁₀, failed, cleared, rfl⟩ | ⟨_, s₅, d₉, d₁₀, taken, h₇, rfl⟩
  · rw [Nat.zero_add]
    exact .untaken valid prepared made reached failed cleared
  · have h₈ := Attempt.error_of_log (error_of_advance rfl h₇)
    cases h₈.result

end Orchestrator

end FaultLab
