import FaultLab.Proofs.Convergence

/-! # What a change of the members leaves in the layout

Who joins a layout is a server and a sequencer of it and holds the log (`Layout.Employs`); who leaves it
is named nowhere in it any more (`Layout.Names`).  `Request.Shows` says so for a request, given the layout
that it found, and `Request.Undoes` which requests take it back.

A section that puts a layout in place puts in place what its request makes of a layout (`Request.Makes`).
Where that is the layout in place, the section `Grows` from it: the epoch rises
(`Fabric.Grows.precedes`), and what a request has left in the layout stays unless the section belongs to a
request that undoes it (`Fabric.Grows.shows`). -/

namespace FaultLab

namespace Layout
variable {l : Layout} {e x : Endpoint}

/-- Whether an endpoint is named as a server, a sequencer or a log server. -/
def Names (l : Layout) (e : Endpoint) : Prop :=
  e ∈ l.servers ∨ e ∈ l.sequencers ∨ ∃ s ∈ l.segments, ∃ t ∈ s.stripes, e ∈ t.logServers

/-- Whether an endpoint is a server, sequences, and holds the log in the first stripe of the last
segment. -/
structure Employs (l : Layout) (e : Endpoint) : Prop where
  server : e ∈ l.servers
  sequencer : e ∈ l.sequencers
  logServer : ∀ s ∈ l.segments.getLast?, ∀ t ∈ s.stripes.head?, e ∈ t.logServers

instance (l : Layout) (e : Endpoint) : Decidable (l.Names e) :=
  inferInstanceAs (Decidable (_ ∨ _ ∨ ∃ s ∈ l.segments, ∃ t ∈ s.stripes, e ∈ t.logServers))

instance (l : Layout) (e : Endpoint) : Decidable (l.Employs e) :=
  decidable_of_iff (e ∈ l.servers ∧ e ∈ l.sequencers ∧
      ∀ s ∈ l.segments.getLast?, ∀ t ∈ s.stripes.head?, e ∈ t.logServers)
    ⟨fun h => ⟨h.1, h.2.1, h.2.2⟩, fun h => ⟨h.server, h.sequencer, h.logServer⟩⟩

theorem getLast?_modifyLast {α : Type} (f : α → α) (as : List α) :
    (modifyLast f as).getLast? = as.getLast?.map f := by
  induction as with
  | nil => rfl
  | cons a as ih =>
    cases as with
    | nil => rfl
    | cons b bs =>
      rw [modifyLast, List.getLast?_cons, ih, List.getLast?_cons_cons, List.getLast?_cons]
      rfl

theorem mem_modifyLast {α : Type} {f : α → α} {as : List α} {a : α} (h : a ∈ modifyLast f as) :
    a ∈ as ∨ ∃ b ∈ as, a = f b := by
  induction as with
  | nil => cases h
  | cons b bs ih =>
    cases bs with
    | nil => exact .inr ⟨b, List.mem_cons_self, List.mem_singleton.mp h⟩
    | cons c cs =>
      rw [modifyLast] at h
      obtain rfl | h := List.mem_cons.mp h
      · exact .inl List.mem_cons_self
      · obtain old | ⟨d, hd, rfl⟩ := ih h
        · exact .inl (List.mem_cons_of_mem b old)
        · exact .inr ⟨d, List.mem_cons_of_mem b hd, rfl⟩

theorem head?_stripes_add (x : Endpoint) (s : Segment) :
    (s.add x).stripes.head? = s.stripes.head?.map (Stripe.add x) := by
  rw [Segment.add]
  cases h : s.stripes with
  | nil => simp [h]
  | cons t ts => rfl

theorem employs_addServer (l : Layout) (e : Endpoint) : (l.addServer e).Employs e where
  server := List.mem_append_right _ (List.mem_singleton_self e)
  sequencer := List.mem_append_right _ (List.mem_singleton_self e)
  logServer := by
    intro s hs t ht
    rw [addServer, getLast?_modifyLast, Option.mem_map] at hs
    obtain ⟨s, -, rfl⟩ := hs
    rw [head?_stripes_add, Option.mem_map] at ht
    obtain ⟨t, -, rfl⟩ := ht
    exact List.mem_append_right _ (List.mem_singleton_self e)

theorem Employs.addServer (h : l.Employs e) (x : Endpoint) : (l.addServer x).Employs e where
  server := List.mem_append_left _ h.server
  sequencer := List.mem_append_left _ h.sequencer
  logServer := by
    intro s hs t ht
    rw [Layout.addServer, getLast?_modifyLast, Option.mem_map] at hs
    obtain ⟨s, hs, rfl⟩ := hs
    rw [head?_stripes_add, Option.mem_map] at ht
    obtain ⟨t, ht, rfl⟩ := ht
    exact List.mem_append_left _ (h.logServer s hs t ht)

theorem Employs.removeServer (h : l.Employs e) (other : e ≠ x) : (l.removeServer x).Employs e where
  server := List.mem_filter.mpr ⟨h.server, decide_eq_true other⟩
  sequencer := List.mem_filter.mpr ⟨h.sequencer, decide_eq_true other⟩
  logServer := by
    intro s hs t ht
    rw [Layout.removeServer, List.getLast?_map, Option.mem_map] at hs
    obtain ⟨s, hs, rfl⟩ := hs
    rw [Segment.remove, List.head?_map, Option.mem_map] at ht
    obtain ⟨t, ht, rfl⟩ := ht
    exact List.mem_filter.mpr ⟨h.logServer s hs t ht, decide_eq_true other⟩

theorem not_names_removeServer (l : Layout) (e : Endpoint) : ¬ (l.removeServer e).Names e := by
  have gone : ∀ es : List Endpoint, e ∉ es.filter fun x => x ≠ e :=
    fun es there => of_decide_eq_true (List.mem_filter.mp there).2 rfl
  rintro (server | sequencer | ⟨s, hs, t, ht, log⟩)
  · exact gone _ server
  · exact gone _ sequencer
  · obtain ⟨s, -, rfl⟩ := List.mem_map.mp hs
    obtain ⟨t, -, rfl⟩ := List.mem_map.mp ht
    exact gone _ log

theorem Names.of_removeServer (h : (l.removeServer x).Names e) : l.Names e := by
  obtain server | sequencer | ⟨s, hs, t, ht, log⟩ := h
  · exact .inl (List.mem_filter.mp server).1
  · exact .inr (.inl (List.mem_filter.mp sequencer).1)
  · obtain ⟨r, hr, rfl⟩ := List.mem_map.mp hs
    obtain ⟨u, hu, rfl⟩ := List.mem_map.mp ht
    exact .inr (.inr ⟨r, hr, u, hu, (List.mem_filter.mp log).1⟩)

theorem Names.of_addServer (h : (l.addServer x).Names e) (other : e ≠ x) : l.Names e := by
  have old : ∀ {es : List Endpoint}, e ∈ es ++ [x] → e ∈ es := fun there =>
    (List.mem_append.mp there).resolve_right fun last => other (List.mem_singleton.mp last)
  obtain server | sequencer | ⟨s, hs, t, ht, log⟩ := h
  · exact .inl (old server)
  · exact .inr (.inl (old sequencer))
  · obtain hs | ⟨r, hr, rfl⟩ := mem_modifyLast hs
    · exact .inr (.inr ⟨s, hs, t, ht, log⟩)
    · refine .inr (.inr ⟨r, hr, ?_⟩)
      rw [Segment.add] at ht
      split at ht
      · exact ⟨t, ht, log⟩
      · rename_i u us stripes
        rw [stripes]
        obtain rfl | ht := List.mem_cons.mp ht
        · exact ⟨u, List.mem_cons_self, old log⟩
        · exact ⟨t, List.mem_cons_of_mem u ht, log⟩

end Layout

namespace Simulation

namespace Request

/-- Whether a request changes the members. -/
def Alters : Request → Prop
  | add _ _ | remove _ _ => True
  | _ => False

instance : DecidablePred Alters
  | getLayout | getStatus | invalidate | bootstrap _ | reset _ => inferInstanceAs (Decidable False)
  | add _ _ | remove _ _ => inferInstanceAs (Decidable True)

/-- Whether a request may put a layout of its own in place. -/
def Commits : Request → Prop
  | bootstrap _ | add _ _ | remove _ _ => True
  | _ => False

instance : DecidablePred Commits
  | getLayout | getStatus | invalidate | reset _ => inferInstanceAs (Decidable False)
  | bootstrap _ | add _ _ | remove _ _ => inferInstanceAs (Decidable True)

/-- Whether a layout shows what a change of the members is for, which has found the layout `before`.  Who
was there already or is gone already makes no work. -/
def Shows (before l : Layout) : Request → Prop
  | add e _ => e ∈ l.servers ∧ (e ∉ before.servers → l.Employs e)
  | remove e _ => e ∉ l.servers ∧ (e ∈ before.servers → ¬ l.Names e)
  | _ => True

instance (before l : Layout) : DecidablePred (Shows before l)
  | add _ _ => inferInstanceAs (Decidable (_ ∧ (_ → _)))
  | remove _ _ => inferInstanceAs (Decidable (_ ∧ (_ → _)))
  | getLayout | getStatus | invalidate | bootstrap _ | reset _ => inferInstanceAs (Decidable True)

/-- Whether a request takes back what another one is for. -/
def Undoes : Request → Request → Prop
  | remove e _, add x _ => e = x
  | add e _, remove x _ => e = x
  | _, _ => False

instance (req : Request) : DecidablePred (Undoes req) := fun other => by
  unfold Undoes
  split <;> infer_instance

/-- The layout that a request puts in place where it has found a layout, or none. -/
inductive Makes (before : Option Layout) : Request → Layout → Prop
  | bootstrap (m : Layout) (bare : before = none) : Makes before (.bootstrap m) m
  | add {e : Endpoint} {patience : Patience} {l : Layout} (found : before = some l)
    (new : e ∉ l.servers) : Makes before (.add e patience) (l.addServer e)
  | remove {e : Endpoint} {patience : Patience} {l : Layout} (found : before = some l)
    (member : e ∈ l.servers) : Makes before (.remove e patience) (l.removeServer e)

variable {req other : Request} {before l m : Layout}

theorem Makes.commits {found : Option Layout} (makes : req.Makes found m) : req.Commits := by
  cases makes <;> trivial

/-- What a request makes of a layout is its successor. -/
theorem Makes.next (makes : req.Makes (some l) m) :
    m.clusterId = l.clusterId ∧ m.epoch = l.epoch + 1 := by
  cases makes with
  | bootstrap m bare => cases bare
  | add found new =>
    cases found
    exact ⟨rfl, rfl⟩
  | remove found member =>
    cases found
    exact ⟨rfl, rfl⟩

/-- What a request makes shows what the request is for. -/
theorem Makes.shows (makes : req.Makes (some l) m) : req.Shows l m := by
  cases makes with
  | bootstrap m bare => trivial
  | @add e _ _ found new =>
    cases found
    have employs := l.employs_addServer e
    exact ⟨employs.server, fun _ => employs⟩
  | @remove e _ _ found member =>
    cases found
    have gone := l.not_names_removeServer e
    exact ⟨fun server => gone (.inl server), fun _ => gone⟩

/-- What a request has left in a layout is in what another one makes of it, unless it undoes it. -/
theorem Shows.made (shows : req.Shows before l) (makes : other.Makes (some l) m)
    (keeps : ¬ other.Undoes req) : req.Shows before m := by
  cases req with
  | add e patience =>
    obtain ⟨server, employs⟩ := shows
    cases makes with
    | bootstrap m bare => cases bare
    | @add x _ _ found new =>
      cases found
      exact ⟨List.mem_append_left _ server, fun joined => (employs joined).addServer x⟩
    | remove found member =>
      cases found
      have differ : e ≠ _ := fun same => keeps same.symm
      exact ⟨List.mem_filter.mpr ⟨server, decide_eq_true differ⟩,
        fun joined => (employs joined).removeServer differ⟩
  | remove e patience =>
    obtain ⟨gone, unnamed⟩ := shows
    cases makes with
    | bootstrap m bare => cases bare
    | add found new =>
      cases found
      have differ : e ≠ _ := fun same => keeps same.symm
      refine ⟨fun server => ?_, fun left names => unnamed left (names.of_addServer differ)⟩
      exact differ (List.mem_singleton.mp ((List.mem_append.mp server).resolve_left gone))
    | remove found member =>
      cases found
      refine ⟨fun server => gone (List.mem_filter.mp server).1, fun left names => ?_⟩
      exact unnamed left names.of_removeServer
  | _ => trivial

theorem shows_markUnresponsive {u : EndpointSet} :
    req.Shows before (l.markUnresponsive u) ↔ req.Shows before l := by
  cases req with
  | add e patience =>
    have same : (l.markUnresponsive u).Employs e ↔ l.Employs e :=
      ⟨fun ⟨server, sequencer, log⟩ => ⟨server, sequencer, log⟩,
        fun ⟨server, sequencer, log⟩ => ⟨server, sequencer, log⟩⟩
    exact and_congr Iff.rfl (imp_congr Iff.rfl same)
  | _ => exact Iff.rfl

end Request

namespace Fabric
variable {f g : Fabric} {l m : Layout} {req : Request}

theorem layout_watched (f : Fabric) : f.watched.layout = f.layout ∨
    ∃ l u, f.layout = some l ∧ f.watched.layout = some (l.markUnresponsive u) := by
  rw [watched]
  cases seen : f.observe with
  | error cause => exact .inl rfl
  | ok g =>
    obtain ⟨-, l, hl, ⟨-, rfl⟩ | ⟨-, rfl⟩⟩ := observe_eq_ok seen
    · exact .inl rfl
    · rw [look]
      simp only [settle]
      split
      · exact .inr ⟨l, _, hl, rfl⟩
      · exact .inl hl.symm

theorem layout_resetMember (e : Endpoint) (f : Fabric) : (f.resetMember e).2.layout = f.layout := by
  rw [resetMember]
  split
  · rfl
  · split <;> rfl

/-- How the layout in place goes on in a section of a request that works on what is in place. -/
inductive Grows (req : Request) (f g : Fabric) : Prop
  | same (h : g.layout = f.layout)
  | marked {l : Layout} {u : EndpointSet} (before : f.layout = some l)
    (after : g.layout = some (l.markUnresponsive u))
  | made {m : Layout} {k : Fabric} (makes : req.Makes f.layout m) (after : g = k.commit m)

/-- Whether the epoch in place can rise twice. -/
def Roomy (f : Fabric) : Prop := ∀ l ∈ f.layout, l.epoch.toNat + 2 ≤ lastEpoch.toNat

instance (f : Fabric) : Decidable f.Roomy := inferInstanceAs (Decidable (∀ _ ∈ _, _))

theorem Roomy.calm (room : f.Roomy) : f.Calm := by
  intro l hl last
  have more := room l hl
  rw [last] at more
  omega

/-- **The epoch rises** wherever the layout in place goes on. -/
theorem Grows.precedes (grows : f.Grows req g) (room : f.Roomy) : f.Precedes g := by
  intro l hl
  have calm := room.calm l hl
  cases grows with
  | same h => exact ⟨l, h ▸ hl, .refl l⟩
  | marked before after =>
    rw [before] at hl
    cases hl
    exact ⟨_, after, .of_next calm rfl rfl⟩
  | @made m k makes after =>
    rw [hl] at makes
    obtain ⟨cluster, next⟩ := makes.next
    have placed : (k.place m).Calm := by
      rintro _ ⟨⟩ last
      have more := room l hl
      have grown := Layout.toNat_next calm
      rw [← next, last] at grown
      omega
    obtain ⟨n, hn, after'⟩ := (stage_watched (k.place m)).turn.precedes placed m rfl
    rw [after, commit_eq]
    exact ⟨n, hn, (Layout.Precedes.of_next calm cluster next).trans after'⟩

theorem layout_commit (m : Layout) (f : Fabric) : (f.commit m).layout = some m ∨
    ∃ u, (f.commit m).layout = some (m.markUnresponsive u) := by
  rw [commit_eq]
  obtain same | ⟨l, u, hl, marked⟩ := layout_watched (f.place m)
  · exact .inl same
  · cases hl
    exact .inr ⟨u, marked⟩

theorem shows_commit {before m : Layout} (shows : req.Shows before m) (f : Fabric) :
    ∃ l ∈ (f.commit m).layout, req.Shows before l := by
  obtain same | ⟨u, marked⟩ := layout_commit m f
  · exact ⟨m, same, shows⟩
  · exact ⟨_, marked, Request.shows_markUnresponsive.mpr shows⟩

/-- **What a request has left in the layout stays** wherever the layout in place goes on, unless in a
section of a request that undoes it. -/
theorem Grows.shows {other : Request} {before : Layout} (grows : f.Grows other g)
    (hl : f.layout = some l) (shows : req.Shows before l) (keeps : ¬ other.Undoes req) :
    ∃ m ∈ g.layout, req.Shows before m := by
  cases grows with
  | same h => exact ⟨l, h.trans hl, shows⟩
  | marked found after =>
    rw [found] at hl
    cases hl
    exact ⟨_, after, Request.shows_markUnresponsive.mpr shows⟩
  | @made m k makes after =>
    rw [hl] at makes
    rw [after]
    exact shows_commit (shows.made makes keeps) k

end Fabric

end Simulation

end FaultLab
