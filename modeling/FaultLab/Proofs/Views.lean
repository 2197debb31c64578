import FaultLab.Proofs.Calls

/-! # Attempts through a view

A view shows what matters of a state.  `Attempt.Yields` says that wherever the view is as given an attempt
succeeds, what it answers and what the view is afterwards; `Attempt.Balks` says that it fails and the
view is as before.  Both go through sequences (`Yields.bind`, `Yields.bind_balks`, `Balks.bind`), so that
an operation is followed through the view one step after the other.  `Attempt.Fails` is for the failures that
come too late to leave the view alone.

An attempt that `Settles` does one or the other, and ends in a good view where it succeeds; then the view
stays good whatever becomes of it (`Settles.good_result`). -/

namespace FaultLab.Attempt

variable {σ V ε ε' α β : Type} {view : σ → V} {c : Attempt σ ε α} {f : α → Attempt σ ε β}
  {P : α → Prop} {Q : β → Prop} {good : V → Prop} {u v w : V}

/-- Wherever the view is `v` an attempt succeeds, with an answer that meets `P`; then the view is `w`. -/
def Yields (view : σ → V) (c : Attempt σ ε α) (v : V) (P : α → Prop) (w : V) : Prop :=
  ∀ s, view s = v → ∃ a t, c.result s = (.ok a, t) ∧ P a ∧ view t = w

/-- Wherever the view is `v` an attempt succeeds, and then the view is `w`. -/
def Leads (view : σ → V) (c : Attempt σ ε α) (v w : V) : Prop := c.Yields view v (fun _ => True) w

/-- Wherever the view is `v` an attempt fails, and the view stays. -/
def Balks (view : σ → V) (c : Attempt σ ε α) (v : V) : Prop :=
  ∀ s, view s = v → ∃ e t, c.result s = (.error e, t) ∧ view t = v

/-- Wherever the view is `v` an attempt fails in one way, and then the view is `w`. -/
def Fails (view : σ → V) (c : Attempt σ ε α) (v : V) (e : ε) (w : V) : Prop :=
  ∀ s, view s = v → ∃ t, c.result s = (.error e, t) ∧ view t = w

theorem Leads.view_result {s : σ} (h : c.Leads view v w) (hs : view s = v) :
    view (c.result s).2 = w := by
  obtain ⟨a, t, made, -, ht⟩ := h s hs
  rw [made]
  exact ht

theorem Leads.ne_error {s : σ} {e : ε} (h : c.Leads view v w) (hs : view s = v) :
    (c.result s).1 ≠ .error e := by
  obtain ⟨a, t, made, -, -⟩ := h s hs
  rw [made]
  nofun

theorem Balks.view_result {s : σ} (h : c.Balks view v) (hs : view s = v) :
    view (c.result s).2 = v := by
  obtain ⟨e, t, made, ht⟩ := h s hs
  rw [made]
  exact ht

/-- Wherever the view is `v` an attempt succeeds and leads to one good view, or it fails and the view stays. -/
def Settles (view : σ → V) (c : Attempt σ ε α) (good : V → Prop) (v : V) : Prop :=
  (∃ w, c.Leads view v w ∧ good w) ∨ c.Balks view v

theorem Leads.settles (h : c.Leads view v w) (hw : good w) : c.Settles view good v := .inl ⟨w, h, hw⟩

theorem Balks.settles (h : c.Balks view v) : c.Settles view good v := .inr h

theorem Settles.good_result {s : σ} (h : c.Settles view good v) (hv : good v) (hs : view s = v) :
    good (view (c.result s).2) := by
  obtain ⟨w, leads, hw⟩ | balks := h
  · rw [leads.view_result hs]
    exact hw
  · rw [balks.view_result hs]
    exact hv

theorem Settles.view_of_error {s t : σ} {e : ε} (h : c.Settles view good v) (hs : view s = v)
    (failed : c.result s = (.error e, t)) : view t = v := by
  obtain ⟨w, leads, -⟩ | balks := h
  · exact absurd (congrArg Prod.fst failed) (leads.ne_error hs)
  · have stays := balks.view_result hs
    rwa [failed] at stays

theorem Yields.bind (h : c.Yields view v P u) (rest : ∀ a, P a → (f a).Yields view u Q w) :
    (c >>= f).Yields view v Q w := by
  intro s hs
  obtain ⟨a, t, made, ha, ht⟩ := h s hs
  rw [result_bind, made]
  exact rest a ha t ht

/-- What only looks around before an attempt that fails changes nothing. -/
theorem Yields.bind_balks (h : c.Yields view v P v) (rest : ∀ a, P a → (f a).Balks view v) :
    (c >>= f).Balks view v := by
  intro s hs
  obtain ⟨a, t, made, ha, ht⟩ := h s hs
  rw [result_bind, made]
  exact rest a ha t ht

theorem Leads.bind (h : c.Leads view v u) (rest : ∀ a, (f a).Yields view u Q w) :
    (c >>= f).Yields view v Q w := Yields.bind h fun a _ => rest a

theorem Leads.bind_balks (h : c.Leads view v v) (rest : ∀ a, (f a).Balks view v) :
    (c >>= f).Balks view v := Yields.bind_balks h fun a _ => rest a

theorem Balks.bind (h : c.Balks view v) (f : α → Attempt σ ε β) : (c >>= f).Balks view v := by
  intro s hs
  obtain ⟨e, t, made, ht⟩ := h s hs
  refine ⟨e, t, ?_, ht⟩
  rw [result_bind, made]

theorem Fails.bind {e : ε} (h : c.Fails view v e w) (f : α → Attempt σ ε β) :
    (c >>= f).Fails view v e w := by
  intro s hs
  obtain ⟨t, made, ht⟩ := h s hs
  refine ⟨t, ?_, ht⟩
  rw [result_bind, made]

theorem yields_pure (P : α → Prop) {a : α} (ha : P a) (v : V) :
    (pure a : Attempt σ ε α).Yields view v P v := fun s hs => ⟨a, s, rfl, ha, hs⟩

theorem leads_log (e : Event) (v : V) : (log e : Attempt σ ε Unit).Leads view v v :=
  fun s hs => ⟨(), s, rfl, trivial, hs⟩

theorem balks_give (e : ε) (v : V) : (give (.error e) : Attempt σ ε α).Balks view v :=
  fun s hs => ⟨e, s, rfl, hs⟩

theorem yields_read {g : σ → β} (shown : V → β) (shows : ∀ s, g s = shown (view s)) (v : V) :
    (lift (Call.read g) : Attempt σ ε β).Yields view v (· = shown v) v :=
  fun s hs => ⟨g s, s, rfl, hs ▸ shows s, hs⟩

/-- A change of a part that can be seen beside something that it does not touch. -/
theorem leads_change {p : Part σ α} {look : σ → V} (get_set : ∀ a s, p.get (p.set a s) = a)
    (look_set : ∀ a s, look (p.set a s) = look s) (f : α → α) (v : V) (a : α) :
    (lift (p.change f) : Attempt σ ε Unit).Leads (fun s => (look s, p.get s)) (v, a) (v, f a) := by
  intro s hs
  obtain ⟨here, noted⟩ := Prod.mk.inj hs
  refine ⟨(), p.modify f s, rfl, trivial, Prod.ext ((look_set _ s).trans here) ?_⟩
  exact (get_set _ s).trans (congrArg f noted)

theorem Yields.mapError (h : c.Yields view v P w) (g : ε → ε') :
    (c.mapError g).Yields view v P w := by
  intro s hs
  obtain ⟨a, t, made, ha, ht⟩ := h s hs
  refine ⟨a, t, ?_, ha, ht⟩
  rw [result_mapError, made]

theorem Balks.mapError (h : c.Balks view v) (g : ε → ε') : (c.mapError g).Balks view v := by
  intro s hs
  obtain ⟨e, t, made, ht⟩ := h s hs
  refine ⟨g e, t, ?_, ht⟩
  rw [result_mapError, made]

theorem Yields.outcome (h : c.Yields view v P w) :
    (lift c.toCall : Attempt σ ε' (Except ε α)).Yields view v (fun r => ∃ a, r = .ok a ∧ P a) w := by
  intro s hs
  obtain ⟨a, t, made, ha, ht⟩ := h s hs
  have made : c.toCall.result s = (.ok a, t) := made
  refine ⟨.ok a, t, ?_, ⟨a, rfl, ha⟩, ht⟩
  rw [result_lift, made]

theorem Balks.outcome (h : c.Balks view v) :
    (lift c.toCall : Attempt σ ε' (Except ε α)).Yields view v (fun r => ∃ e, r = .error e) v := by
  intro s hs
  obtain ⟨e, t, made, ht⟩ := h s hs
  have made : c.toCall.result s = (.error e, t) := made
  refine ⟨.error e, t, ?_, ⟨e, rfl⟩, ht⟩
  rw [result_lift, made]

end FaultLab.Attempt
