import FaultLab.Proofs.Sessions

/-! # What an epoch says about a layout

Layouts come into place by the first one that is taken in, by a reading that marks servers, and by a
change of the members; each of the later ones takes the epoch of the one before it and adds one.  As
long as no epoch is the last one, this orders the layouts of a whole session.

* `Fabric.Turn.precedes` is the step: what a turn leaves in place follows what was in place.
* `Lab.precedes_perform` and `Lab.precedes_after` carry it through deeds and sessions.
* `Lab.Chronicle` ties what the clients were told to what is in place and to what they remember.
* `Lab.chronicle_after` keeps it through a session, and
  `Lab.epoch_identifies_layout` draws the conclusions for all clients. -/

namespace FaultLab

/-- The last epoch that a layout can have. -/
def lastEpoch : UInt64 := 0xFFFFFFFFFFFFFFFF

namespace Layout
variable {k l m : Layout}

/-- Whether a layout may have been in place at a time before another one: they are of one cluster,
the epoch does not fall, and where they differ it rises. -/
structure Precedes (l m : Layout) : Prop where
  cluster : m.clusterId = l.clusterId
  epoch : l.epoch ≤ m.epoch
  rising : m ≠ l → l.epoch < m.epoch

theorem Precedes.refl (l : Layout) : l.Precedes l :=
  ⟨rfl, UInt64.le_refl _, fun h => absurd rfl h⟩

theorem Precedes.trans (h : k.Precedes l) (h' : l.Precedes m) : k.Precedes m := by
  refine ⟨h'.cluster.trans h.cluster, UInt64.le_trans h.epoch h'.epoch, fun differ => ?_⟩
  by_cases same : l = k
  · subst same
    exact h'.rising differ
  · exact UInt64.lt_of_lt_of_le (h.rising same) h'.epoch

theorem Precedes.eq_of_epoch (h : l.Precedes m) (same : l.epoch = m.epoch) : l = m := by
  by_contra differ
  have rises := h.rising fun eq => differ eq.symm
  rw [same] at rises
  exact UInt64.lt_irrefl _ rises

theorem lt_next {n : UInt64} (h : n ≠ lastEpoch) : n < n + 1 := by
  have small : n.toNat ≠ lastEpoch.toNat := fun eq => h (UInt64.toNat_inj.mp eq)
  have last : lastEpoch.toNat = 18446744073709551615 := rfl
  have bound := UInt64.toNat_lt n
  rw [UInt64.lt_iff_toNat_lt, UInt64.toNat_add, UInt64.toNat_one]
  omega

theorem Precedes.of_next (calm : l.epoch ≠ lastEpoch) (cluster : m.clusterId = l.clusterId)
    (next : m.epoch = l.epoch + 1) : l.Precedes m := by
  have rises : l.epoch < m.epoch := next ▸ lt_next calm
  exact ⟨cluster, UInt64.le_of_lt rises, fun _ => rises⟩

end Layout

namespace Simulation

/-! ### One step -/

namespace Fabric
variable {f g k : Fabric} {l m : Layout}

/-- Whether the epoch in place can still rise. -/
def Calm (f : Fabric) : Prop := ∀ l ∈ f.layout, l.epoch ≠ lastEpoch

/-- Once there is a layout in place there is one later on, and it follows the first. -/
def Precedes (f g : Fabric) : Prop := ∀ l ∈ f.layout, ∃ m ∈ g.layout, l.Precedes m

theorem Precedes.refl (f : Fabric) : f.Precedes f := fun l hl => ⟨l, hl, .refl l⟩

theorem Precedes.trans (h : f.Precedes g) (h' : g.Precedes k) : f.Precedes k := by
  intro l hl
  obtain ⟨m, hm, before⟩ := h l hl
  obtain ⟨n, hn, after⟩ := h' m hm
  exact ⟨n, hn, before.trans after⟩

/-- A revision is of the same cluster and has the next epoch. -/
theorem Revision.next (h : f.Revision l m) :
    m.clusterId = l.clusterId ∧ m.epoch = l.epoch + 1 := by
  cases h <;> exact ⟨rfl, rfl⟩

theorem Turn.precedes (turn : f.Turn g) (calm : f.Calm) : f.Precedes g := by
  intro l hl
  cases turn with
  | same h => exact ⟨l, h ▸ hl, .refl l⟩
  | first m bare valid placed =>
    rw [bare] at hl
    cases hl
  | revised l' m before revision placed =>
    rw [before] at hl
    cases hl
    obtain ⟨cluster, next⟩ := revision.next
    exact ⟨m, placed, .of_next (calm l before) cluster next⟩

/-- A chain of turns is one step in the order of the layouts. -/
theorem precedes_getLastD {fs : List Fabric} (chain : (f :: fs).IsChain Turn)
    (calm : ∀ g ∈ f :: fs, g.Calm) : f.Precedes (fs.getLastD f) := by
  induction fs generalizing f with
  | nil => exact .refl f
  | cons g fs ih =>
    obtain ⟨turn, chain⟩ := List.isChain_cons_cons.mp chain
    have step := turn.precedes (calm f List.mem_cons_self)
    have rest := ih chain fun k hk => calm k (List.mem_cons_of_mem _ hk)
    rw [List.getLastD_cons]
    exact step.trans rest

end Fabric

/-! ### Whole sessions -/

namespace Lab
variable {lab : Lab} {d : Deed} {ds es : List Deed} {f : Fabric}

theorem precedes_perform (calm : ∀ f ∈ lab.fabric :: lab.stages d, f.Calm) :
    lab.fabric.Precedes (lab.perform d).fabric := by
  rw [fabric_perform]
  exact Fabric.precedes_getLastD (isChain_stages lab d) calm

theorem mem_course_head (lab : Lab) (ds : List Deed) : lab.fabric ∈ lab.course ds := by
  cases ds with
  | nil => exact List.mem_singleton_self _
  | cons d ds => exact List.mem_cons_self

theorem mem_course_of_mem_stages (h : f ∈ lab.fabric :: lab.stages d) :
    f ∈ lab.course (d :: ds) := by
  rw [course, List.mem_cons, List.mem_append]
  cases List.mem_cons.mp h with
  | inl eq => exact .inl eq
  | inr hf => exact .inr (.inl hf)

theorem mem_course_of_mem_rest (h : f ∈ (lab.perform d).course ds) : f ∈ lab.course (d :: ds) := by
  rw [course, List.mem_cons, List.mem_append]
  exact .inr (.inr h)

theorem mem_course_of_mem_after (h : f ∈ (lab.after ds).course es) : f ∈ lab.course (ds ++ es) := by
  induction ds generalizing lab with
  | nil => exact h
  | cons d ds ih => exact mem_course_of_mem_rest (ih h)

theorem mem_course_append (h : f ∈ lab.course ds) : f ∈ lab.course (ds ++ es) := by
  induction ds generalizing lab with
  | nil =>
    rw [List.mem_singleton.mp h]
    exact mem_course_head lab es
  | cons d ds ih =>
    rw [course, ← List.cons_append, List.mem_append] at h
    cases h with
    | inl here => exact mem_course_of_mem_stages here
    | inr later => exact mem_course_of_mem_rest (ih later)

theorem precedes_after (calm : ∀ f ∈ lab.course ds, f.Calm) :
    lab.fabric.Precedes (lab.after ds).fabric := by
  induction ds generalizing lab with
  | nil => exact .refl _
  | cons d ds ih =>
    have step := precedes_perform fun f hf => calm f (mem_course_of_mem_stages hf)
    have rest := ih fun f hf => calm f (mem_course_of_mem_rest hf)
    exact step.trans rest

end Lab

/-! ### What a client is told and what it remembers -/

namespace ClientState
variable {d : ClientState} {l : Layout}

/-- A client is told what it remembers, or else what is in place after the reading. -/
theorem told_layout (h : (d.asked .getLayout).1 = .ok (.layout l)) :
    d.memory = some l ∨ d.memory = none ∧ (d.asked .getLayout).2.fabric.layout = some l := by
  rw [asked_getLayout] at h ⊢
  cases hm : d.memory with
  | some k =>
    rw [hm] at h
    cases h
    exact .inl rfl
  | none =>
    rw [hm] at h
    refine .inr ⟨rfl, ?_⟩
    cases hg : d.fabric.observe with
    | error cause =>
      rw [hg] at h
      cases h
    | ok g =>
      simp only [hg] at h ⊢
      cases hl : g.layout with
      | none =>
        rw [hl] at h
        cases h
      | some k =>
        rw [hl] at h
        cases h
        exact hl

theorem memory_changeOutcome {e : Endpoint}
    {pick : Fabric → Layout → Except ManagementError (Option Layout)}
    (h : (d.changeOutcome e pick).2.memory = some l) : d.memory = some l := by
  rw [changeOutcome] at h
  split at h
  · exact h
  · split at h
    · exact h
    · cases h
    · cases h

/-- A client remembers what it remembered before, or else what it was just told. -/
theorem memory_asked {req : Request} (h : (d.asked req).2.memory = some l) :
    d.memory = some l ∨ req = .getLayout ∧ (d.asked req).1 = .ok (.layout l) := by
  cases req with
  | getLayout =>
    rw [asked_getLayout] at h ⊢
    cases hm : d.memory with
    | some k =>
      rw [hm] at h
      exact .inl (hm ▸ h)
    | none =>
      simp only [hm] at h ⊢
      cases hg : d.fabric.observe with
      | error cause =>
        simp only [hg] at h
        rw [hm] at h
        cases h
      | ok g =>
        simp only [hg] at h ⊢
        cases hl : g.layout with
        | none =>
          simp only [hl] at h
          cases h
        | some k =>
          simp only [hl] at h
          cases h
          exact .inr ⟨trivial, rfl⟩
  | getStatus =>
    rw [asked_getStatus] at h
    split at h
    · exact .inl h
    · split at h <;> exact .inl h
  | invalidate =>
    rw [asked_invalidate] at h
    cases h
  | bootstrap k =>
    rw [asked_bootstrap] at h
    split at h
    · cases h
    · exact .inl h
    · exact .inl h
  | add e patience =>
    rw [asked_add] at h
    exact .inl (memory_changeOutcome h)
  | remove e patience =>
    rw [asked_remove] at h
    exact .inl (memory_changeOutcome h)
  | reset e =>
    rw [asked_reset] at h
    split at h <;> exact .inl h

end ClientState

namespace Lab
variable {lab : Lab} {d : Deed} {ds : List Deed} {n : Nat} {l : Layout} {r : Reading}

theorem memory_clientState (there : n < lab.memories.length) :
    lab.memories[n]? = some ((clientState n).get lab).memory := by
  have present : lab.memories[n]? = some lab.memories[n] := List.getElem?_eq_getElem there
  have joined : ((clientState n).get lab).memory = (lab.memories[n]?).join := rfl
  rw [joined, present]
  rfl

theorem reading?_eq_some (h : lab.reading? d = some r) :
    lab.memories[r.client]? = some (some r.layout) ∨
      lab.memories[r.client]? = some none ∧ (lab.perform d).fabric.layout = some r.layout := by
  unfold reading? at h
  split at h
  · rename_i number
    split at h
    · rename_i there
      split at h
      · rename_i told
        cases h
        rw [perform_request there]
        rw [asked_eq there] at told
        rw [memory_clientState there]
        cases ClientState.told_layout told with
        | inl known => exact .inl (congrArg some known)
        | inr looked => exact .inr ⟨congrArg some looked.1, looked.2⟩
      · cases h
    · cases h
  · cases h

/-- What is remembered was remembered before, or was told just now. -/
theorem memories_perform (h : (lab.perform d).memories[n]? = some (some l)) :
    lab.memories[n]? = some (some l) ∨ lab.reading? d = some ⟨n, l⟩ := by
  obtain ⟨number, req, rfl⟩ | other := d.request_or_other
  · by_cases there : number < lab.memories.length
    · rw [perform_request there] at h
      by_cases same : number = n
      · subst same
        have kept : (((clientState number).get lab).asked req).2.memory = some l := by
          have found : (lab.memories.set number
              (((clientState number).get lab).asked req).2.memory)[number]? = some (some l) := h
          rw [List.getElem?_set_self there] at found
          exact Option.some.inj found
        cases ClientState.memory_asked kept with
        | inl known =>
          left
          rw [memory_clientState there, known]
        | inr told =>
          right
          obtain ⟨rfl, told⟩ := told
          rw [reading?, if_pos there, asked_eq there, told]
      · left
        have found : (lab.memories.set number
            (((clientState number).get lab).asked req).2.memory)[n]? = some (some l) := h
        rw [List.getElem?_set_ne same] at found
        exact found
    · rw [perform, if_neg there] at h
      exact .inl h
  · left
    cases (view_perform other).2 with
    | inl same =>
      rw [same] at h
      exact h
    | inr more =>
      rw [more, List.getElem?_append] at h
      split at h
      · exact h
      · rw [List.getElem?_singleton] at h
        split at h <;> cases h

/-! ### The chronicle of a session -/

/-- What holds of the layouts that the clients were told up to now: each precedes the one in place,
the epoch tells them apart, for one client it does not fall, and what a client remembers is the
latest that it was told. -/
structure Chronicle (told : List Reading) (lab : Lab) : Prop where
  placed : ∀ r ∈ told, ∃ m ∈ lab.fabric.layout, r.layout.Precedes m
  agreeing : ∀ r ∈ told, ∀ q ∈ told, r.layout.epoch = q.layout.epoch → r.layout = q.layout
  rising : told.Pairwise fun r q => r.client = q.client → r.layout.epoch ≤ q.layout.epoch
  remembered : ∀ n l, lab.memories[n]? = some (some l) →
    ⟨n, l⟩ ∈ told ∧ ∀ r ∈ told, r.client = n → r.layout.epoch ≤ l.epoch

namespace Chronicle
variable {told : List Reading}

theorem of_fresh (fresh : ∀ m ∈ lab.memories, m = none) : Chronicle [] lab := by
  refine ⟨by simp, by simp, .nil, fun n l hl => ?_⟩
  have empty := fresh (some l) (List.mem_of_getElem? hl)
  cases empty

theorem placed_perform (h : Chronicle told lab)
    (calm : ∀ f ∈ lab.fabric :: lab.stages d, f.Calm) :
    ∀ r ∈ told, ∃ m ∈ (lab.perform d).fabric.layout, r.layout.Precedes m := by
  intro r hr
  obtain ⟨m, hm, before⟩ := h.placed r hr
  obtain ⟨m', hm', after⟩ := precedes_perform calm m hm
  exact ⟨m', hm', before.trans after⟩

/-- A new reading repeats what its client was told last, or gives what is in place. -/
theorem of_reading (h : Chronicle told lab) (hr : lab.reading? d = some r) :
    (r ∈ told ∧ ∀ q ∈ told, q.client = r.client → q.layout.epoch ≤ r.layout.epoch) ∨
      (lab.perform d).fabric.layout = some r.layout := by
  cases reading?_eq_some hr with
  | inl known => exact .inl (h.remembered r.client r.layout known)
  | inr looked => exact .inr looked.2

/-- Where a new reading stands among those so far. -/
theorem follows_reading (h : Chronicle told lab)
    (calm : ∀ f ∈ lab.fabric :: lab.stages d, f.Calm) (hr : lab.reading? d = some r) :
    (∃ m ∈ (lab.perform d).fabric.layout, r.layout.Precedes m) ∧
      (∀ q ∈ told, q.layout.epoch = r.layout.epoch → q.layout = r.layout) ∧
        ∀ q ∈ told, q.client = r.client → q.layout.epoch ≤ r.layout.epoch := by
  have placed := h.placed_perform calm
  cases h.of_reading hr with
  | inl known =>
    obtain ⟨mem, latest⟩ := known
    exact ⟨placed r mem, fun q hq => h.agreeing q hq r mem, latest⟩
  | inr looked =>
    have before : ∀ q ∈ told, q.layout.Precedes r.layout := by
      intro q hq
      obtain ⟨m, hm, before⟩ := placed q hq
      rw [looked] at hm
      cases hm
      exact before
    refine ⟨⟨r.layout, looked, .refl _⟩, ?_, ?_⟩
    · intro q hq same
      exact (before q hq).eq_of_epoch same
    · intro q hq _
      exact (before q hq).epoch

/-- A deed carries the chronicle on. -/
theorem perform (h : Chronicle told lab) (calm : ∀ f ∈ lab.fabric :: lab.stages d, f.Calm) :
    Chronicle (told ++ (lab.reading? d).toList) (lab.perform d) := by
  have placed := h.placed_perform calm
  cases hr : lab.reading? d with
  | none =>
    rw [Option.toList_none, List.append_nil]
    refine ⟨placed, h.agreeing, h.rising, fun n l hl => ?_⟩
    cases memories_perform hl with
    | inl known => exact h.remembered n l known
    | inr new =>
      rw [hr] at new
      cases new
  | some r =>
    obtain ⟨here, agrees, latest⟩ := h.follows_reading calm hr
    rw [Option.toList_some]
    refine ⟨?_, ?_, ?_, ?_⟩
    · intro q hq
      rw [List.mem_append, List.mem_singleton] at hq
      obtain hq | rfl := hq
      · exact placed q hq
      · exact here
    · intro p hp q hq same
      rw [List.mem_append, List.mem_singleton] at hp hq
      obtain hp | rfl := hp <;> obtain hq | rfl := hq
      · exact h.agreeing p hp q hq same
      · exact agrees p hp same
      · exact (agrees q hq same.symm).symm
      · rfl
    · rw [List.pairwise_append]
      refine ⟨h.rising, List.pairwise_singleton _ _, fun q hq p hp => ?_⟩
      rw [List.mem_singleton.mp hp]
      exact latest q hq
    · intro n l hl
      have mine : lab.memories[n]? = some (some l) → r.client = n → r.layout = l := by
        intro known client
        subst client
        obtain repeated | looked := reading?_eq_some hr
        · rw [known] at repeated
          cases repeated
          rfl
        · rw [known] at looked
          cases looked.1
      cases memories_perform hl with
      | inl known =>
        obtain ⟨mem, last⟩ := h.remembered n l known
        refine ⟨List.mem_append_left _ mem, fun q hq client => ?_⟩
        rw [List.mem_append, List.mem_singleton] at hq
        obtain hq | rfl := hq
        · exact last q hq client
        · exact UInt64.le_of_eq (congrArg Layout.epoch (mine known client))
      | inr new =>
        rw [hr] at new
        cases new
        refine ⟨List.mem_append_right _ (List.mem_singleton_self _), fun q hq client => ?_⟩
        rw [List.mem_append, List.mem_singleton] at hq
        obtain hq | rfl := hq
        · exact latest q hq client
        · exact UInt64.le_refl _

end Chronicle

/-- A session carries the chronicle on. -/
theorem chronicle_after {told : List Reading} (h : Chronicle told lab)
    (calm : ∀ f ∈ lab.course ds, f.Calm) :
    Chronicle (told ++ lab.readings ds) (lab.after ds) := by
  induction ds generalizing lab told with
  | nil =>
    rw [readings, List.append_nil]
    exact h
  | cons d ds ih =>
    have step := h.perform fun f hf => calm f (mem_course_of_mem_stages hf)
    have rest := ih step fun f hf => calm f (mem_course_of_mem_rest hf)
    rw [readings, ← List.append_assoc]
    exact rest

/-- As long as no epoch is the last one, the epoch identifies the layout for all clients.  A layout
in place stays in place or gives way to one of the same cluster with a larger epoch; whoever is told
layouts with equal epochs is told equal layouts; and the epochs that one client is told do not
fall. -/
theorem epoch_identifies_layout (start : Lab) (fresh : ∀ m ∈ start.memories, m = none)
    (ds : List Deed) (calm : ∀ f ∈ start.course ds, ∀ l ∈ f.layout, l.epoch ≠ lastEpoch) :
    (∀ before between rest, ds = before ++ between ++ rest →
      ∀ l ∈ (start.after before).fabric.layout,
        ∃ m ∈ (start.after (before ++ between)).fabric.layout,
          m.clusterId = l.clusterId ∧ l.epoch ≤ m.epoch ∧ (m ≠ l → l.epoch < m.epoch)) ∧
      (∀ r ∈ start.readings ds, ∀ q ∈ start.readings ds,
        r.layout.epoch = q.layout.epoch → r.layout = q.layout) ∧
      (start.readings ds).Pairwise fun r q =>
        r.client = q.client → r.layout.epoch ≤ q.layout.epoch := by
  have chronicle := chronicle_after (Chronicle.of_fresh fresh) calm
  rw [List.nil_append] at chronicle
  refine ⟨?_, chronicle.agreeing, chronicle.rising⟩
  rintro before between rest rfl l hl
  have part : ∀ f ∈ (start.after before).course between, f.Calm :=
    fun f hf => calm f (mem_course_append (mem_course_of_mem_after hf))
  obtain ⟨m, hm, order⟩ := precedes_after part l hl
  rw [after_append]
  exact ⟨m, hm, order.cluster, order.epoch, order.rising⟩

/-- Two clients read the layout around the death of a member; the first one reads it from memory
until it is told to forget. -/
def outage : List Deed :=
  [.register ⟨"a:1"⟩, .register ⟨"b:1"⟩, .register ⟨"c:1"⟩, .connect, .connect,
    .attach ⟨⟨"c:1"⟩, .container⟩,
    .request 0 (.bootstrap (.initial [⟨"a:1"⟩, ⟨"b:1"⟩, ⟨"c:1"⟩] (.ofNat 7))),
    .request 0 .getLayout, .command 0 ⟨⟨"c:1"⟩, .container⟩ .kill none, .request 1 .getLayout,
    .request 0 .getLayout, .request 0 .invalidate, .request 0 .getLayout]

theorem epoch_identifies_layout_outage :
    (∀ m ∈ empty.memories, m = none) ∧
      (∀ f ∈ empty.course outage, ∀ l ∈ f.layout, l.epoch ≠ lastEpoch) ∧
      (empty.readings outage).map (fun r => (r.client, r.layout.epoch)) =
        [(0, 0), (1, 1), (0, 0), (0, 1)] ∧
      (∀ r ∈ empty.readings outage, ∀ q ∈ empty.readings outage,
        r.layout.epoch = q.layout.epoch → r.layout = q.layout) ∧
      ∃ m ∈ (empty.after outage).fabric.layout, m.epoch = 1 := by
  have fresh : ∀ m ∈ empty.memories, m = none := by decide
  have calm : ∀ f ∈ empty.course outage, ∀ l ∈ f.layout, l.epoch ≠ lastEpoch := by
    decide +kernel
  have told : (empty.readings outage).map (fun r => (r.client, r.layout.epoch)) =
      [(0, 0), (1, 1), (0, 0), (0, 1)] := by decide +kernel
  have settled : ∃ m ∈ (empty.after outage).fabric.layout, m.epoch = 1 := by decide +kernel
  exact ⟨fresh, calm, told, (epoch_identifies_layout empty fresh outage calm).2.1, settled⟩

end Lab

end Simulation

end FaultLab
