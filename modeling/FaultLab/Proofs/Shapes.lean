import FaultLab.Proofs.Quorums

/-! # The shape of layouts

A layout that a deployed cluster has in place keeps the shape of a first layout: the servers, the
sequencers and the log servers of its only stripe are one list (`Layout.Shaped`).  The three copies
of the list are edited separately, and the unresponsive servers by the detector besides, so the
invariant needs the guards of all editors: who joins is not there yet, who leaves is there and not
the last one, and the detector finds servers only (`Fabric.Revision.shaped`).

`Lab.keeps_course` carries what every turn of the layout keeps through all fabrics of a session, also
those in the midst of a request. -/

namespace FaultLab

namespace Layout
variable {l : Layout} {e : Endpoint}

/-- A layout with one open segment of one stripe, whose servers all sequence and hold the log. -/
structure Shaped (l : Layout) : Prop where
  sequencers : l.sequencers = l.servers
  segments : l.segments = [⟨.chain, 0, none, [⟨l.servers⟩]⟩]
  servers : l.servers ≠ []
  distinct : l.servers.Nodup
  unresponsive : ∀ e ∈ l.unresponsive, e ∈ l.servers

theorem shaped_initial {nodes : List Endpoint} {id : Uuid} (some : nodes ≠ [])
    (distinct : nodes.Nodup) : (initial nodes id).Shaped :=
  ⟨rfl, rfl, some, distinct, fun e he => absurd he (EndpointSet.not_mem_empty e)⟩

theorem Shaped.markUnresponsive {es : EndpointSet} (h : l.Shaped)
    (known : ∀ e ∈ es, e ∈ l.servers) : (l.markUnresponsive es).Shaped :=
  ⟨h.sequencers, h.segments, h.servers, h.distinct, known⟩

theorem Shaped.addServer (h : l.Shaped) (new : e ∉ l.servers) : (l.addServer e).Shaped where
  sequencers := by simp [Layout.addServer, h.sequencers]
  segments := by
    simp [Layout.addServer, h.segments, modifyLast, Segment.add, Stripe.add]
  servers := by simp [Layout.addServer]
  distinct := by
    unfold Layout.addServer
    rw [List.nodup_append]
    refine ⟨h.distinct, List.nodup_singleton e, ?_⟩
    intro a ha b hb same
    rw [List.mem_singleton] at hb
    exact new (hb ▸ same ▸ ha)
  unresponsive := by
    intro a ha
    exact List.mem_append_left _ (h.unresponsive a ha)

theorem exists_other_server (distinct : l.servers.Nodup) (some : l.servers ≠ [])
    (others : l.servers.length ≠ 1) (e : Endpoint) : ∃ a ∈ l.servers, a ≠ e := by
  rcases servers : l.servers with _ | ⟨a, _ | ⟨b, rest⟩⟩
  · exact absurd servers some
  · simp [servers] at others
  · rw [servers] at distinct
    have apart : a ≠ b := by
      intro same
      simp [same] at distinct
    by_cases here : a = e
    · exact ⟨b, by simp, fun same => apart (here.trans same.symm)⟩
    · exact ⟨a, by simp, here⟩

theorem Shaped.removeServer (h : l.Shaped) (others : l.servers.length ≠ 1) :
    (l.removeServer e).Shaped where
  sequencers := by simp [Layout.removeServer, h.sequencers]
  segments := by
    simp [Layout.removeServer, h.segments, Segment.remove, Stripe.remove]
  servers := by
    obtain ⟨a, there, other⟩ := exists_other_server h.distinct h.servers others e
    intro none
    have stays : a ∈ (l.removeServer e).servers := by simp [Layout.removeServer, there, other]
    rw [none] at stays
    cases stays
  distinct := h.distinct.sublist List.filter_sublist
  unresponsive := by
    intro a ha
    obtain ⟨old, other⟩ := EndpointSet.mem_erase.mp ha
    simp [Layout.removeServer, h.unresponsive a old, other]

theorem Shaped.validate (h : l.Shaped) : l.validate = .ok () := by
  have some : l.servers.isEmpty = false := by simp [h.servers]
  have known : l.unresponsive.toList.find? (fun e => !l.servers.contains e) = none := by
    rw [List.find?_eq_none]
    intro e he
    simp [h.unresponsive e he]
  simp only [Layout.validate, some, known, Bool.false_eq_true, if_false]

end Layout

namespace Simulation

namespace Fabric
variable {f g : Fabric} {l m : Layout}

/-- Whether a layout of the shape of a first one is in place. -/
def Shaped (f : Fabric) : Prop := ∃ l, f.layout = some l ∧ l.Shaped

/-- Whatever takes the place of a layout has its shape. -/
theorem Revision.shaped (revision : f.Revision l m) (h : l.Shaped) : m.Shaped := by
  cases revision with
  | marked => exact h.markUnresponsive fun e => mem_servers_of_mem_detect
  | joined e new => exact h.addServer new
  | left e member others => exact h.removeServer others

theorem Turn.shaped (turn : f.Turn g) (h : f.Shaped) : g.Shaped := by
  obtain ⟨l, hl, shaped⟩ := h
  cases turn with
  | same same => exact ⟨l, same.trans hl, shaped⟩
  | first m bare =>
    rw [bare] at hl
    cases hl
  | revised l' m before revision placed =>
    rw [before] at hl
    cases hl
    exact ⟨m, placed, revision.shaped shaped⟩

end Fabric

namespace Lab
variable {lab : Lab}

/-- What every turn of the layout keeps holds of all fabrics of a session. -/
theorem keeps_course {I : Fabric → Prop} (kept : ∀ ⦃f g : Fabric⦄, f.Turn g → I f → I g)
    (h : I lab.fabric) (ds : List Deed) : ∀ f ∈ lab.course ds, I f := by
  induction ds generalizing lab with
  | nil =>
    intro f hf
    rw [List.mem_singleton.mp hf]
    exact h
  | cons d ds ih =>
    have chain := isChain_stages lab d
    have here : ∀ f ∈ lab.fabric :: lab.stages d, I f := chain.induction I _ kept fun _ => h
    have later : I (lab.perform d).fabric := by
      rw [fabric_perform]
      exact keeps_getLastD chain kept h
    intro f hf
    rw [course, ← List.cons_append, List.mem_append] at hf
    rcases hf with hf | hf
    · exact here f hf
    · exact ih later f hf

theorem Deployed.shaped (h : Deployed lab) : lab.fabric.Shaped := by
  induction h with
  | bootstrap bare nonempty distinct taken =>
    obtain ⟨f, committed⟩ := fabric_bootstrap bare taken
    rw [committed, Fabric.commit_eq]
    refine (Fabric.stage_watched _).turn.shaped ?_
    exact ⟨_, rfl, Layout.shaped_initial nonempty distinct⟩
  | @perform lab d _ ih =>
    rw [fabric_perform]
    exact keeps_getLastD (isChain_stages lab d) (fun _ _ turn h => turn.shaped h) ih

/-- **The layout of a deployed cluster keeps its shape**, whatever happens to the cluster and also in
the midst of a request: one list of distinct servers, not empty, is also that of the sequencers and of
the log servers of the only stripe of the one open segment; only servers count as unresponsive; and
the layout is valid. -/
theorem Deployed.layout_keeps_shape (h : Deployed lab) (ds : List Deed) :
    ∀ f ∈ lab.course ds, ∃ l, f.layout = some l ∧
      (∃ nodes, nodes ≠ [] ∧ nodes.Nodup ∧ l.servers = nodes ∧ l.sequencers = nodes ∧
        l.segments = [⟨.chain, 0, none, [⟨nodes⟩]⟩]) ∧
      (∀ e ∈ l.unresponsive, e ∈ l.servers) ∧ l.validate = .ok () := by
  intro f hf
  obtain ⟨l, hl, shaped⟩ := keeps_course (fun _ _ turn h => turn.shaped h) h.shaped ds f hf
  exact ⟨l, hl, ⟨l.servers, shaped.servers, shaped.distinct, rfl, shaped.sequencers,
    shaped.segments⟩, shaped.unresponsive, shaped.validate⟩

/-- A cluster of three servers, with a fourth member at hand. -/
def trio : Lab :=
  (empty.after [.register ⟨"a:1"⟩, .register ⟨"b:1"⟩, .register ⟨"c:1"⟩, .register ⟨"d:1"⟩, .connect,
    .attach ⟨⟨"c:1"⟩, .container⟩]).perform
      (.request 0 (.bootstrap (.initial [⟨"a:1"⟩, ⟨"b:1"⟩, ⟨"c:1"⟩] (.ofNat 7))))

/-- The fourth member joins, twice; another one is killed and leaves while it counts as unresponsive;
then two more leave, and the last one cannot. -/
def reshuffle : List Deed :=
  [.request 0 (.add ⟨"d:1"⟩ .default), .request 0 (.add ⟨"d:1"⟩ .default),
    .command 0 ⟨⟨"c:1"⟩, .container⟩ .kill none, .request 0 .getStatus,
    .request 0 (.remove ⟨"c:1"⟩ .default), .request 0 (.remove ⟨"a:1"⟩ .default),
    .request 0 (.remove ⟨"d:1"⟩ .default), .request 0 (.remove ⟨"b:1"⟩ .default)]

theorem layout_keeps_shape_reshuffle : Deployed trio ∧
    ∃ f ∈ trio.course reshuffle, ∃ l, f.layout = some l ∧ l.servers = [⟨"b:1"⟩] ∧ l.epoch = 5 ∧
      l.sequencers = [⟨"b:1"⟩] ∧ l.segments = [⟨.chain, 0, none, [⟨[⟨"b:1"⟩]⟩]⟩] ∧
      l.validate = .ok () := by
  have deployed : Deployed trio := by
    refine .bootstrap ?_ ?_ ?_ ?_
    · rfl
    · decide
    · decide
    · decide +kernel
  have last : (trio.after reshuffle).fabric ∈ trio.course reshuffle := by decide +kernel
  have left : (trio.after reshuffle).fabric.layout.map (fun l => (l.servers, l.epoch)) =
      some ([⟨"b:1"⟩], 5) := by decide +kernel
  obtain ⟨l, hl, ⟨nodes, -, -, rfl, sequencers, segments⟩, -, valid⟩ :=
    deployed.layout_keeps_shape reshuffle _ last
  rw [hl] at left
  simp only [Option.map_some, Option.some.injEq, Prod.mk.injEq] at left
  rw [left.1] at sequencers segments
  exact ⟨deployed, _, last, l, hl, left.1, left.2, sequencers, segments, valid⟩

end Lab

end Simulation

end FaultLab
