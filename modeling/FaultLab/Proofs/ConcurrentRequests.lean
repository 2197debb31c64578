import FaultLab.Proofs.Sections

/-! # Requests beside requests

A `BusyLab` is a lab with the requests that its clients are busy with.  Anything may happen in it at any
time (`BusyLab.Move`): a request is begun, one of the requests makes its next section, or the members, the
handles, the settings or the number of clients change.  `BusyLab.after` is the lab after a schedule of
such moves, whatever the order.

What one would like to hold of every schedule are three laws: the epoch rises whenever the layout in place
changes (`BusyLab.Rises`), no two layouts with one epoch are told (`BusyLab.Unique`), and what a change of the
members was made for is there until a request takes it back (`BusyLab.Lasting`).  They do not hold of every
schedule, as a change decides in one section and puts the layout in place in a later one without another
look (`BusyLab.changes_get_lost`).  They hold as long as no layout is put in place over another
one than it was made of (`BusyLab.laws_of_timely`).

The proof carries through a schedule what is known of each request (`PendingRequest.Sound`); a move adds to
it by what the section of a request does (`BusyLab.Sound.concat`). -/

namespace FaultLab.Simulation

/-- A request that a client is busy with. -/
structure PendingRequest where
  client : Nat
  request : Request
  /-- The fabric as the first section of the request has left it. -/
  seen : Option Fabric
  /-- What is left to do. -/
  left : Call Lab (Except ManagementError Answer)

namespace PendingRequest

/-- A request of which nothing is done yet. -/
def start (client : Nat) (req : Request) : PendingRequest :=
  ⟨client, req, none, (req.ask (Lab.client client)).toCall⟩

/-- The answer to a request that is over. -/
def answer? (v : PendingRequest) : Option (Except ManagementError Answer) := v.left.answer?

/-- The layout that a client was told. -/
def told? (v : PendingRequest) : Option Layout :=
  match v.answer? with
  | some (.ok (.layout l)) => some l
  | _ => none

/-- Whether a request is over that was to do something, and has gone well. -/
def wentWell (v : PendingRequest) : Bool :=
  match v.answer? with
  | some (.ok .done) => true
  | _ => false

/-- The request after its next section. -/
def advance (lab : Lab) (v : PendingRequest) : PendingRequest :=
  { v with
    seen := v.seen.or (some (v.left.advance lab).2.fabric)
    left := (v.left.advance lab).1 }

/-- Whether the layout in place shows what the request is for. -/
def Shown (v : PendingRequest) (f : Fabric) : Prop :=
  ∃ g ∈ v.seen, ∃ before ∈ g.layout, ∃ l ∈ f.layout, v.request.Shows before l

instance (v : PendingRequest) (f : Fabric) : Decidable (v.Shown f) :=
  inferInstanceAs (Decidable (∃ g ∈ v.seen, ∃ before ∈ g.layout, ∃ l ∈ f.layout, _))

end PendingRequest

/-- A lab with the requests that its clients are busy with, or have been. -/
structure BusyLab where
  lab : Lab
  pending : List PendingRequest

namespace BusyLab

/-- A lab where no request was begun yet. -/
def opened (lab : Lab) : BusyLab := ⟨lab, []⟩

/-- What can happen in a busy lab. -/
inductive Move where
  /-- Something happens to the lab; a request is only begun. -/
  | deed (d : Deed)
  /-- One of the requests makes its next section. -/
  | advance (number : Nat)

/-- The lab after a move; nothing comes of a move with a client or a request that is not there. -/
def move (o : BusyLab) : Move → BusyLab
  | .deed (.request client req) =>
    if client < o.lab.memories.length then { o with pending := o.pending ++ [.start client req] } else o
  | .deed d => { o with lab := o.lab.perform d }
  | .advance n =>
    match o.pending[n]? with
    | none => o
    | some v => ⟨(v.left.advance o.lab).2, o.pending.set n (v.advance o.lab)⟩

/-- The lab after some moves. -/
def after (o : BusyLab) (ms : List Move) : BusyLab := ms.foldl move o

/-- The layout in place. -/
def layout (o : BusyLab) : Option Layout := o.lab.fabric.layout

/-- Whether something holds before each move of a schedule. -/
def Along (P : BusyLab → Move → Prop) (o : BusyLab) : List Move → Prop
  | [] => True
  | m :: ms => P o m ∧ (o.move m).Along P ms

instance decidableAlong (P : BusyLab → Move → Prop) [∀ o m, Decidable (P o m)] (o : BusyLab) :
    (ms : List Move) → Decidable (o.Along P ms)
  | [] => inferInstanceAs (Decidable True)
  | m :: ms => @instDecidableAnd _ _ _ (decidableAlong P (o.move m) ms)

/-- Whether a move puts a layout in place over another one than its request has found. -/
def Stale (o : BusyLab) : Move → Prop
  | .deed _ => False
  | .advance n => ∃ v ∈ o.pending[n]?, v.request.Commits ∧
      ∃ f ∈ v.seen, f.layout ≠ o.layout ∧ (o.move (.advance n)).layout ≠ o.layout

instance (o : BusyLab) : DecidablePred o.Stale
  | .deed _ => inferInstanceAs (Decidable False)
  | .advance n => inferInstanceAs (Decidable (∃ v ∈ o.pending[n]?, _))

/-- Whether a schedule has no stale move. -/
def Timely (o : BusyLab) (ms : List Move) : Prop := o.Along (fun o m => ¬ o.Stale m) ms

/-- Whether the epoch in place can rise twice, before each move of a schedule. -/
def Roomy (o : BusyLab) (ms : List Move) : Prop := o.Along (fun o _ => o.lab.fabric.Roomy) ms

instance (o : BusyLab) (ms : List Move) : Decidable (o.Timely ms) := decidableAlong _ o ms

instance (o : BusyLab) (ms : List Move) : Decidable (o.Roomy ms) := decidableAlong _ o ms

/-! ### The laws -/

/-- Whether the epoch rises in every move of a schedule in which the layout in place changes. -/
def Rises (o : BusyLab) (ms : List Move) : Prop :=
  ∀ a m b, ms = a ++ m :: b → ∀ l ∈ (o.after a).layout,
    ∃ l' ∈ (o.after (a ++ [m])).layout, l' = l ∨ l.epoch < l'.epoch

/-- The layouts that the clients were told. -/
def told (o : BusyLab) : List Layout := o.pending.filterMap PendingRequest.told?

/-- Whether no two different layouts with one epoch are told in a schedule. -/
def Unique (o : BusyLab) (ms : List Move) : Prop :=
  ∀ l ∈ (o.after ms).told, ∀ m ∈ (o.after ms).told, l.epoch = m.epoch → l = m

instance (o : BusyLab) (ms : List Move) : Decidable (o.Unique ms) :=
  inferInstanceAs (Decidable (∀ l ∈ _, ∀ m ∈ _, _))

/-- Whether a move is a section of a request that undoes another one. -/
def Undoing (o : BusyLab) (req : Request) : Move → Prop
  | .deed _ => False
  | .advance n => ∃ v ∈ o.pending[n]?, v.request.Undoes req

instance (o : BusyLab) (req : Request) : DecidablePred (o.Undoing req)
  | .deed _ => inferInstanceAs (Decidable False)
  | .advance n => inferInstanceAs (Decidable (∃ v ∈ o.pending[n]?, _))

/-- Whether the effect of a request was in the layout in place at a moment while the request was under
way, and was only taken from it again in sections of requests that undo it. -/
def Lasts (o : BusyLab) (ms : List Move) (n : Nat) (v : PendingRequest) : Prop :=
  ∃ a b, ms = a ++ b ∧ (∃ w ∈ (o.after a).pending[n]?, w.answer? = none) ∧
    v.Shown (o.after a).lab.fabric ∧
      ∀ c m d, b = c ++ m :: d → v.Shown (o.after (a ++ c)).lab.fabric →
        v.Shown (o.after (a ++ c ++ [m])).lab.fabric ∨ (o.after (a ++ c)).Undoing v.request m

/-- Whether the effect of every change of the members that went well in a schedule lasts. -/
def Lasting (o : BusyLab) (ms : List Move) : Prop :=
  ∀ n, ∀ v ∈ (o.after ms).pending[n]?, v.request.Alters → v.wentWell → o.Lasts ms n v

/-! ### Moves -/

section moves
variable {o : BusyLab} {n : Nat} {v : PendingRequest} {d : Deed}

theorem move_deed (other : ∀ client req, d ≠ .request client req) :
    o.move (.deed d) = { o with lab := o.lab.perform d } := by
  cases d with
  | request client req => exact absurd rfl (other client req)
  | _ => rfl

/-- Whatever happens to the lab, the layout in place stays, and so does what the clients remember. -/
theorem view_move_deed (o : BusyLab) (d : Deed) : (o.move (.deed d)).layout = o.layout ∧
    ((o.move (.deed d)).lab.memories = o.lab.memories ∨
      (o.move (.deed d)).lab.memories = o.lab.memories ++ [none]) := by
  obtain ⟨client, req, rfl⟩ | other := d.request_or_other
  · rw [move]
    split <;> exact ⟨rfl, .inl rfl⟩
  · rw [move_deed other]
    exact Lab.view_perform other

theorem move_advance (hv : o.pending[n]? = some v) : o.move (.advance n) =
    ⟨(v.left.advance o.lab).2, o.pending.set n (v.advance o.lab)⟩ := by
  rw [move, hv]

end moves

/-! ### Schedules -/

section schedules
variable {o : BusyLab} {P : BusyLab → Move → Prop} {ms as bs : List Move} {m : Move} {l : Layout}

theorem after_append (o : BusyLab) (as bs : List Move) : o.after (as ++ bs) = (o.after as).after bs :=
  List.foldl_append

theorem after_concat (o : BusyLab) (ms : List Move) (m : Move) :
    o.after (ms ++ [m]) = (o.after ms).move m := after_append o ms [m]

theorem along_append : o.Along P (as ++ bs) ↔ o.Along P as ∧ (o.after as).Along P bs := by
  induction as generalizing o with
  | nil => exact ⟨fun h => ⟨trivial, h⟩, And.right⟩
  | cons m as ih => exact (and_congr Iff.rfl ih).trans and_assoc.symm

theorem along_concat : o.Along P (ms ++ [m]) ↔ o.Along P ms ∧ P (o.after ms) m :=
  along_append.trans (and_congr Iff.rfl (and_iff_left trivial))

theorem concat_eq_append (h : ms ++ [m] = as ++ bs) :
    bs = [] ∧ as = ms ++ [m] ∨ ∃ cs, bs = cs ++ [m] ∧ ms = as ++ cs := by
  obtain rfl | ⟨cs, x, rfl⟩ := List.eq_nil_or_concat bs
  · exact .inl ⟨rfl, by simpa using h.symm⟩
  · rw [List.concat_eq_append, ← List.append_assoc] at h
    obtain ⟨front, last⟩ := List.append_inj' h rfl
    cases last
    exact .inr ⟨cs, List.concat_eq_append, front⟩

/-- Whether a layout was in place at some time in a schedule. -/
def Past (o : BusyLab) (ms : List Move) (l : Layout) : Prop :=
  ∃ a b, ms = a ++ b ∧ (o.after a).layout = some l

theorem Past.concat (h : o.Past ms l) (m : Move) : o.Past (ms ++ [m]) l := by
  obtain ⟨a, b, rfl, hl⟩ := h
  exact ⟨a, b ++ [m], List.append_assoc a b [m], hl⟩

theorem past_present (h : (o.after ms).layout = some l) : o.Past ms l :=
  ⟨ms, [], (List.append_nil ms).symm, h⟩

end schedules

end BusyLab

/-! ### What is known of a request -/

namespace PendingRequest
variable {v : PendingRequest} {lab lab' : Lab} {told told' : Layout → Prop} {shown shown' : Prop}

/-- What is known of a request: its client is there, and it has come as far as a progress says for which
some things are known. -/
structure Sound (told : Layout → Prop) (shown : Prop) (lab : Lab) (v : PendingRequest) : Prop where
  there : v.client < lab.memories.length
  progress : ∃ progress : RequestProgress,
    Call.hush v.left = Call.focus (Lab.clientState v.client) progress.call ∧
      progress.Stands told shown v.request v.seen

theorem sound_start {client : Nat} (there : client < lab.memories.length) (req : Request) :
    (start client req).Sound told shown lab := by
  refine ⟨there, .fresh req, ?_, rfl, rfl⟩
  have asked : req.ask (Lab.client client) = (req.ask ClientState.client).focus (Lab.clientState client) :=
    Request.ask_focus (Lab.clientState client) ClientState.client req
  rw [start, asked]
  exact Call.hush_focus _ _

/-- What is known of a request that does nothing stays known. -/
theorem Sound.mono (h : v.Sound told shown lab) (there : lab.memories.length ≤ lab'.memories.length)
    (more : ∀ l, told l → told' l) (still : shown → shown') : v.Sound told' shown' lab' := by
  obtain ⟨here, progress, left, stands⟩ := h
  exact ⟨Nat.lt_of_lt_of_le here there, progress, left, stands.mono more still⟩

theorem Sound.stands_answer {outcome : Except ManagementError Answer}
    (h : v.Sound told shown lab) (answered : v.answer? = some outcome) :
    (RequestProgress.ended outcome).Stands told shown v.request v.seen := by
  obtain ⟨-, progress, left, stands⟩ := h
  rw [answer?, ← Call.answer?_hush, left, Call.answer?_focus] at answered
  rwa [RequestProgress.eq_ended_of_answer? answered] at stands

theorem Sound.was_told {l : Layout} (h : v.Sound told shown lab) (there : v.told? = some l) : told l := by
  rw [told?] at there
  split at there
  · rename_i answered
    cases there
    exact (h.stands_answer answered).1 l rfl
  · cases there

theorem Sound.was_shown (h : v.Sound told shown lab) (well : v.wentWell = true) (alters : v.request.Alters) :
    shown := by
  rw [wentWell] at well
  split at well
  · rename_i answered
    exact (h.stands_answer answered).2 rfl alters
  · cases well

/-- The next section of a request is that of its progress, in the state of its client. -/
theorem advance_eq {progress : RequestProgress} (there : v.client < lab.memories.length)
    (left : Call.hush v.left = Call.focus (Lab.clientState v.client) progress.call) :
    (v.left.advance lab).2 =
        (Lab.clientState v.client).set (progress.next ((Lab.clientState v.client).get lab)).2 lab ∧
      Call.hush (v.left.advance lab).1 =
        Call.focus (Lab.clientState v.client) (progress.next ((Lab.clientState v.client).get lab)).1.call := by
  have hushed := Call.advance_hush v.left lab
  rw [left, Call.advance_focus (Lab.lawful_clientState v.client) progress.call there,
    RequestProgress.advance_call] at hushed
  exact ⟨(congrArg Prod.snd hushed).symm, (congrArg Prod.fst hushed).symm⟩

end PendingRequest

namespace BusyLab
variable {o : BusyLab} {ms : List Move} {m : Move} {n : Nat} {v : PendingRequest} {l : Layout}

/-- What holds after a schedule: what was in place before precedes what is in place now, what a client
remembers was in place, and every request is known. -/
structure Sound (o : BusyLab) (ms : List Move) : Prop where
  order : ∀ a b, ms = a ++ b → (o.after a).lab.fabric.Precedes (o.after ms).lab.fabric
  remembered : ∀ (n : Nat) (l : Layout), (o.after ms).lab.memories[n]? = some (some l) → o.Past ms l
  pending : ∀ (n : Nat) (v : PendingRequest), (o.after ms).pending[n]? = some v →
    v.Sound (o.Past ms) (o.Lasts ms n v) (o.after ms).lab

theorem sound_opened {lab : Lab} (fresh : ∀ m ∈ lab.memories, m = none) : (opened lab).Sound [] := by
  refine ⟨fun a b whole => ?_, fun n l hl => ?_, fun n v hv => ?_⟩
  · rw [(List.append_eq_nil_iff.mp whole.symm).1]
    exact .refl _
  · cases fresh _ (List.mem_of_getElem? hl)
  · cases hv

theorem Sound.advance (h : o.Sound ms) (hv : (o.after ms).pending[n]? = some v) :
    v.client < (o.after ms).lab.memories.length ∧ ∃ progress : RequestProgress,
      progress.Stands (o.Past ms) (o.Lasts ms n v) v.request v.seen ∧
        let d := (Lab.clientState v.client).get (o.after ms).lab
        (v.left.advance (o.after ms).lab).2 =
            (Lab.clientState v.client).set (progress.next d).2 (o.after ms).lab ∧
          Call.hush (v.left.advance (o.after ms).lab).1 =
            Call.focus (Lab.clientState v.client) (progress.next d).1.call := by
  obtain ⟨there, progress, left, stands⟩ := h.pending n v hv
  exact ⟨there, progress, stands, PendingRequest.advance_eq there left⟩

/-- How the layout in place goes on in a move that is not stale. -/
theorem Sound.grows (h : o.Sound ms) (timely : ¬ (o.after ms).Stale m) :
    ((o.after ms).move m).layout = (o.after ms).layout ∨
      ∃ n v, m = .advance n ∧ (o.after ms).pending[n]? = some v ∧
        (o.after ms).lab.fabric.Grows v.request ((o.after ms).move m).lab.fabric := by
  cases m with
  | deed d => exact .inl (view_move_deed _ d).1
  | advance n =>
    cases hv : (o.after ms).pending[n]? with
    | none =>
      left
      rw [move, hv]
    | some v =>
      right
      refine ⟨n, v, rfl, hv, ?_⟩
      obtain ⟨-, progress, stands, made, -⟩ := h.advance hv
      let d := (Lab.clientState v.client).get (o.after ms).lab
      have moved : ((o.after ms).move (.advance n)).lab.fabric = (progress.next d).2.fabric := by
        rw [move_advance hv, made]
        rfl
      rw [moved]
      refine stands.grows (d := d) fun f hf commits => ?_
      by_contra differ
      rw [not_or] at differ
      refine timely ⟨v, hv, commits, f, hf, differ.1, ?_⟩
      rw [layout, moved]
      exact differ.2

/-- What was in place precedes what is in place after a move. -/
theorem Sound.precedes (h : o.Sound ms) (timely : ¬ (o.after ms).Stale m)
    (room : (o.after ms).lab.fabric.Roomy) :
    (o.after ms).lab.fabric.Precedes ((o.after ms).move m).lab.fabric := by
  obtain same | ⟨n, v, -, -, grows⟩ := h.grows timely
  · exact fun l hl => ⟨l, same.trans hl, .refl l⟩
  · exact grows.precedes room

/-- An effect that is there is there after a move, unless the move undoes it. -/
theorem Sound.shown (h : o.Sound ms) (timely : ¬ (o.after ms).Stale m)
    (shown : v.Shown (o.after ms).lab.fabric) :
    v.Shown ((o.after ms).move m).lab.fabric ∨ (o.after ms).Undoing v.request m := by
  obtain ⟨g, hg, before, hb, l, hl, shows⟩ := shown
  obtain same | ⟨n, w, rfl, hw, grows⟩ := h.grows timely
  · exact .inl ⟨g, hg, before, hb, l, same.trans hl, shows⟩
  · by_cases undoes : w.request.Undoes v.request
    · exact .inr ⟨w, hw, undoes⟩
    · obtain ⟨l', hl', still⟩ := grows.shows hl shows undoes
      exact .inl ⟨g, hg, before, hb, l', hl', still⟩

theorem lasts_now (under : ∃ w ∈ (o.after ms).pending[n]?, w.answer? = none)
    (shown : v.Shown (o.after ms).lab.fabric) : o.Lasts ms n v := by
  refine ⟨ms, [], (List.append_nil ms).symm, under, shown, fun c m d split => ?_⟩
  have longer : c ++ m :: d ≠ [] := by simp
  exact absurd split.symm longer

theorem Sound.lasts (h : o.Sound ms) (timely : ¬ (o.after ms).Stale m) (lasts : o.Lasts ms n v) :
    o.Lasts (ms ++ [m]) n v := by
  obtain ⟨a, b, rfl, under, shown, kept⟩ := lasts
  refine ⟨a, b ++ [m], List.append_assoc a b [m], under, shown, fun c x d split there => ?_⟩
  obtain ⟨none, -⟩ | ⟨cs, last, rfl⟩ := concat_eq_append split
  · cases none
  · -- Only where the new move is the one looked at is anything to be shown about it.
    cases cs with
    | nil =>
      obtain ⟨rfl, -⟩ := List.cons_eq_cons.mp last
      rw [List.append_nil] at *
      rw [after_concat]
      exact h.shown timely there
    | cons y cs =>
      obtain ⟨rfl, -⟩ := List.cons_eq_cons.mp last
      exact kept c x cs rfl there

/-- What lasts for a request lasts for it after its next section. -/
theorem Lasts.advance (h : o.Lasts ms n v) (lab : Lab) : o.Lasts ms n (v.advance lab) := by
  obtain ⟨a, b, whole, under, shown, kept⟩ := h
  -- What lasts was shown after a first section, so the next one leaves what that has seen.
  have seen : (v.advance lab).seen = v.seen := by
    obtain ⟨g, hg, -⟩ := shown
    rw [PendingRequest.advance, hg]
    rfl
  have same : (v.advance lab).Shown = v.Shown := by
    funext f
    rw [PendingRequest.Shown, seen]
    rfl
  refine ⟨a, b, whole, under, same ▸ shown, fun c m d split there => ?_⟩
  rw [same] at there ⊢
  exact kept c m d split there

theorem Sound.length_memories_move (h : o.Sound ms) (m : Move) :
    (o.after ms).lab.memories.length ≤ ((o.after ms).move m).lab.memories.length := by
  cases m with
  | deed d =>
    obtain same | more := (view_move_deed (o.after ms) d).2
    · exact Nat.le_of_eq (congrArg List.length same.symm)
    · simp only [more, List.length_append, Nat.le_add_right]
  | advance n =>
    cases hv : (o.after ms).pending[n]? with
    | none =>
      rw [move, hv]
    | some v =>
      obtain ⟨-, progress, -, made, -⟩ := h.advance hv
      rw [move_advance hv, made]
      exact Nat.le_of_eq List.length_set.symm

/-- What a client remembers after a move was in place before it. -/
theorem Sound.remembered_move (h : o.Sound ms)
    (hl : ((o.after ms).move m).lab.memories[n]? = some (some l)) : o.Past ms l := by
  cases m with
  | deed d =>
    refine h.remembered n l ?_
    obtain same | more := (view_move_deed (o.after ms) d).2
    · rwa [same] at hl
    · rw [more, List.getElem?_append, List.getElem?_singleton] at hl
      split at hl
      · exact hl
      · split at hl <;> cases hl
  | advance k =>
    cases hv : (o.after ms).pending[k]? with
    | none =>
      rw [move, hv] at hl
      exact h.remembered n l hl
    | some v =>
      obtain ⟨there, progress, stands, made, -⟩ := h.advance hv
      rw [move_advance hv, made] at hl
      by_cases same : v.client = n
      · subst same
        have found : ((o.after ms).lab.memories.set v.client _)[v.client]? = some (some l) := hl
        rw [List.getElem?_set_self there] at found
        obtain known | rfl := RequestProgress.memory_next (Option.some.inj found)
        · refine h.remembered v.client l ?_
          rw [Lab.memory_clientState there, known]
        · exact stands
      · have found : ((o.after ms).lab.memories.set v.client _)[n]? = some (some l) := hl
        rw [List.getElem?_set_ne same] at found
        exact h.remembered n l found

/-- A request is known after its next section.  Its effect was there if it has come to its end. -/
theorem Sound.pending_advanced (h : o.Sound ms) (timely : ¬ (o.after ms).Stale (.advance n))
    (hv : (o.after ms).pending[n]? = some v) :
    (v.advance (o.after ms).lab).Sound (o.Past (ms ++ [.advance n]))
      (o.Lasts (ms ++ [.advance n]) n (v.advance (o.after ms).lab))
      ((o.after ms).move (.advance n)).lab := by
  obtain ⟨there, progress, stands, made, left⟩ := h.advance hv
  have moved := move_advance hv
  have lab : (o.after (ms ++ [.advance n])).lab =
      (Lab.clientState v.client).set (progress.next ((Lab.clientState v.client).get (o.after ms).lab)).2
        (o.after ms).lab := by
    rw [after_concat, moved, made]
  have here : (o.after (ms ++ [.advance n])).pending[n]? = some (v.advance (o.after ms).lab) := by
    rw [after_concat, moved]
    exact List.getElem?_set_self (List.getElem?_eq_some_iff.mp hv).1
  have seen : (v.advance (o.after ms).lab).seen = v.seen.or
      (some (progress.next ((Lab.clientState v.client).get (o.after ms).lab)).2.fabric) := by
    rw [PendingRequest.advance, made]
    rfl
  refine ⟨Nat.lt_of_lt_of_le there (h.length_memories_move _), _, left, ?_⟩
  rw [seen]
  refine stands.next (fun l hl => h.remembered v.client l ?_) (fun l past => past.concat _)
    (fun l hl => past_present ?_) (fun lasts => (h.lasts timely lasts).advance _)
    fun ends f hf before hb effect => ?_
  · rw [Lab.memory_clientState there, hl]
  · rw [layout, lab]
    exact hl
  · refine lasts_now ⟨_, here, ?_⟩ ?_
    · rw [ends] at left
      rw [PendingRequest.answer?, ← Call.answer?_hush, PendingRequest.advance, left]
      rfl
    · rw [lab]
      exact ⟨f, seen ▸ hf, before, hb, effect⟩

/-- Every request is known after a move. -/
theorem Sound.pending_move (h : o.Sound ms) (timely : ¬ (o.after ms).Stale m)
    (hv : ((o.after ms).move m).pending[n]? = some v) :
    v.Sound (o.Past (ms ++ [m])) (o.Lasts (ms ++ [m]) n v) ((o.after ms).move m).lab := by
  have others : (o.after ms).pending[n]? = some v →
      v.Sound (o.Past (ms ++ [m])) (o.Lasts (ms ++ [m]) n v) ((o.after ms).move m).lab :=
    fun known => (h.pending n v known).mono (h.length_memories_move m) (fun _ past => past.concat m)
      (h.lasts timely)
  cases m with
  | deed d =>
    obtain ⟨client, req, rfl⟩ | other := d.request_or_other
    · by_cases there : client < (o.after ms).lab.memories.length
      · simp only [move, if_pos there, List.getElem?_append, List.getElem?_singleton] at hv
        split at hv
        · exact others hv
        · split at hv
          · cases hv
            rw [move, if_pos there]
            exact PendingRequest.sound_start there req
          · cases hv
      · rw [move, if_neg there] at hv
        exact others hv
    · rw [move_deed other] at hv
      exact others hv
  | advance k =>
    cases known : (o.after ms).pending[k]? with
    | none =>
      rw [move, known] at hv
      exact others hv
    | some w =>
      by_cases same : k = n
      · subst same
        obtain rfl : v = w.advance (o.after ms).lab := by
          rw [move_advance known, List.getElem?_set_self (List.getElem?_eq_some_iff.mp known).1] at hv
          exact (Option.some.inj hv).symm
        exact h.pending_advanced timely known
      · rw [move_advance known] at hv
        refine others ?_
        rwa [List.getElem?_set_ne same] at hv

/-- **What holds after a schedule holds after one move more**, unless it is stale. -/
theorem Sound.concat (h : o.Sound ms) (timely : ¬ (o.after ms).Stale m)
    (room : (o.after ms).lab.fabric.Roomy) : o.Sound (ms ++ [m]) := by
  refine ⟨fun a b whole => ?_, fun n l hl => ?_, fun n v hv => ?_⟩
  · obtain ⟨-, rfl⟩ | ⟨cs, -, rfl⟩ := concat_eq_append whole
    · exact .refl _
    · rw [after_concat]
      exact (h.order a cs rfl).trans (h.precedes timely room)
  · rw [after_concat] at hl
    exact (h.remembered_move hl).concat m
  · rw [after_concat] at hv ⊢
    exact h.pending_move timely hv

theorem sound_after {lab : Lab} (fresh : ∀ m ∈ lab.memories, m = none)
    (timely : (opened lab).Timely ms) (roomy : (opened lab).Roomy ms) : (opened lab).Sound ms := by
  induction ms using List.reverseRecOn with
  | nil => exact sound_opened fresh
  | append_singleton ms m ih =>
    obtain ⟨timely, now⟩ := along_concat.mp timely
    obtain ⟨roomy, room⟩ := along_concat.mp roomy
    exact (ih timely roomy).concat now room

/-- Of two layouts that were in place, the epochs tell which. -/
theorem eq_of_past {k : Layout} (sound : ∀ a b, ms = a ++ b → o.Sound a) (hl : o.Past ms l)
    (hk : o.Past ms k) (same : l.epoch = k.epoch) : l = k := by
  -- Which of the two was in place first does not matter.
  have ordered : ∀ {a b c : List Move} {l k : Layout}, ms = (a ++ b) ++ c →
      (o.after a).layout = some l → (o.after (a ++ b)).layout = some k → l.epoch = k.epoch →
        l = k := by
    intro a b c l k whole hl hk same
    obtain ⟨k', hk', before⟩ := (sound (a ++ b) c whole).order a b rfl l hl
    cases hk.symm.trans hk'
    exact before.eq_of_epoch same
  obtain ⟨a, b, rfl, hl⟩ := hl
  obtain ⟨a', b', whole, hk⟩ := hk
  obtain ⟨c, rfl, rfl⟩ | ⟨c, rfl, rfl⟩ := List.append_eq_append_iff.mp whole
  · exact ordered (List.append_assoc a c b').symm hl hk same
  · exact (ordered rfl hk hl same.symm).symm

/-- **The laws hold as long as no change is stale**, for any number of clients and requests and whatever
the order of their sections and of all else that happens: the epoch rises whenever the layout in place
changes, no two different layouts with one epoch are told, and the effect of every change of the members
that went well is there until a request takes it back. -/
theorem laws_of_timely (lab : Lab) (fresh : ∀ m ∈ lab.memories, m = none) (ms : List Move)
    (timely : (opened lab).Timely ms) (roomy : (opened lab).Roomy ms) :
    (opened lab).Rises ms ∧ (opened lab).Unique ms ∧ (opened lab).Lasting ms := by
  have sound : ∀ a b, ms = a ++ b → (opened lab).Sound a := by
    rintro a b rfl
    exact sound_after fresh (along_append.mp timely).1 (along_append.mp roomy).1
  have now := sound ms [] (List.append_nil ms).symm
  refine ⟨?_, ?_, ?_⟩
  · intro a m b whole l hl
    have step := sound (a ++ [m]) b (by rw [whole, List.append_assoc]; rfl)
    obtain ⟨l', hl', before⟩ := step.order a [m] rfl l hl
    refine ⟨l', hl', ?_⟩
    by_cases same : l' = l
    · exact .inl same
    · exact .inr (before.rising same)
  · have past : ∀ l ∈ ((opened lab).after ms).told, (opened lab).Past ms l := by
      intro l hl
      obtain ⟨v, hv, told⟩ := List.mem_filterMap.mp hl
      obtain ⟨n, hn⟩ := List.getElem?_of_mem hv
      exact (now.pending n v hn).was_told told
    exact fun l hl k hk => eq_of_past sound (past l hl) (past k hk)
  · exact fun n v hv alters well => (now.pending n v hv).was_shown well alters

/-- A cluster of three servers with two more members at hand, and four clients. -/
def quartet : Lab :=
  Lab.empty.after [.register ⟨"a:1"⟩, .register ⟨"b:1"⟩, .register ⟨"c:1"⟩, .register ⟨"x:1"⟩,
    .register ⟨"y:1"⟩, .attach ⟨⟨"b:1"⟩, .container⟩, .connect, .connect, .connect, .connect,
    .request 0 (.bootstrap (.initial [⟨"a:1"⟩, ⟨"b:1"⟩, ⟨"c:1"⟩] (.ofNat 7)))]

/-- One client has a member join, another one a server leave that is killed meanwhile, and two read the
layout. -/
def relay : List Move :=
  [.deed (.request 0 (.add ⟨"x:1"⟩ .default)), .deed (.request 1 (.remove ⟨"b:1"⟩ .default)),
    .deed (.request 2 .getLayout), .advance 2, .advance 0, .advance 0, .advance 2, .advance 0,
    .advance 1, .deed (.command 0 ⟨⟨"b:1"⟩, .container⟩ .kill none), .advance 2, .advance 1,
    .advance 0, .advance 1, .deed (.request 3 .getLayout), .advance 3, .advance 3, .advance 3]

theorem laws_of_timely_relay :
    (∀ m ∈ quartet.memories, m = none) ∧ (opened quartet).Timely relay ∧
      (opened quartet).Roomy relay ∧
      (((opened quartet).after relay).told.map fun l => (l.epoch, l.servers)) =
        [(0, [⟨"a:1"⟩, ⟨"b:1"⟩, ⟨"c:1"⟩]), (2, [⟨"a:1"⟩, ⟨"c:1"⟩, ⟨"x:1"⟩])] ∧
      ((opened quartet).after relay).pending.map PendingRequest.wentWell = [true, true, false, false] ∧
      (opened quartet).Rises relay ∧ (opened quartet).Unique relay ∧
      (opened quartet).Lasting relay := by
  have fresh : ∀ m ∈ quartet.memories, m = none := by decide +kernel
  have timely : (opened quartet).Timely relay := by decide +kernel
  have roomy : (opened quartet).Roomy relay := by decide +kernel
  refine ⟨fresh, timely, roomy, by decide +kernel, by decide +kernel, ?_⟩
  exact laws_of_timely quartet fresh relay timely roomy

/-- What lasts for a request is there at the end, or was undone. -/
theorem Lasts.shown (h : o.Lasts ms n v)
    (never : o.Along (fun o m => ¬ o.Undoing v.request m) ms) : v.Shown (o.after ms).lab.fabric := by
  obtain ⟨a, b, rfl, -, shown, kept⟩ := h
  replace never := (along_append.mp never).2
  induction b using List.reverseRecOn with
  | nil =>
    rw [List.append_nil]
    exact shown
  | append_singleton b m ih =>
    obtain ⟨before, now⟩ := along_concat.mp never
    have there := ih (fun c x d split => kept c x (d ++ [m]) (by simp [split])) before
    rw [← after_append] at now
    rw [← List.append_assoc]
    exact (kept b m [] rfl there).resolve_right now

/-- Two clients have a member join each, and the second one decides before the first one is done; two more
clients read the layout after the first and after the second change. -/
def crossing : List Move :=
  [.deed (.request 0 (.add ⟨"x:1"⟩ .default)), .deed (.request 1 (.add ⟨"y:1"⟩ .default)),
    .deed (.request 2 .getLayout), .deed (.request 3 .getLayout), .advance 0, .advance 1, .advance 0,
    .advance 1, .advance 0, .advance 0, .advance 2, .advance 2, .advance 2, .advance 1, .advance 1,
    .advance 3, .advance 3, .advance 3]

/-- A cluster where a member sequences and holds the log without being a server, and a client. -/
def halfway : Lab :=
  let first := Layout.initial [⟨"a:1"⟩, ⟨"b:1"⟩] (.ofNat 7)
  let members := first.servers ++ [⟨"x:1"⟩]
  Lab.empty.after [.register ⟨"a:1"⟩, .register ⟨"b:1"⟩, .register ⟨"x:1"⟩, .connect,
    .request 0 (.bootstrap
      { first with sequencers := members, segments := [⟨.chain, 0, none, [⟨members⟩]⟩] })]

/-- The client has this member leave, and nothing else happens. -/
def parting : List Move :=
  [.deed (.request 0 (.remove ⟨"x:1"⟩ .default)), .advance 0, .advance 0]

/-- Changes of the members get lost.  One that was overtaken takes the other one back without a word: the
layout in place changes and keeps its epoch, two different layouts with one epoch are told, and the first
change has gone well and is gone, though nobody undid it.  And even alone, a removal of who is no server
goes well and leaves the sequencer and log server in the layout. -/
theorem changes_get_lost :
    ((∀ m ∈ quartet.memories, m = none) ∧ (opened quartet).Roomy crossing ∧
      ¬ (opened quartet).Rises crossing ∧ ¬ (opened quartet).Unique crossing ∧
      ¬ (opened quartet).Lasting crossing) ∧
    ((opened halfway).after parting).pending.map PendingRequest.wentWell = [true] ∧
      ∃ l ∈ ((opened halfway).after parting).layout, l.Names ⟨"x:1"⟩ := by
  refine ⟨⟨by decide +kernel, by decide +kernel, fun rises => ?_, by decide +kernel,
    fun lasting => ?_⟩, by decide +kernel, by decide +kernel⟩
  · -- The second layout is put in place by the fourteenth move, over one with the same epoch.
    have step := rises (crossing.take 13) (.advance 1) (crossing.drop 14) rfl
    revert step
    decide +kernel
  · have lost : ∃ v ∈ ((opened quartet).after crossing).pending[0]?, v.request.Alters ∧ v.wentWell ∧
        (opened quartet).Along (fun o m => ¬ o.Undoing v.request m) crossing ∧
        ¬ v.Shown ((opened quartet).after crossing).lab.fabric := by decide +kernel
    obtain ⟨v, hv, alters, well, never, gone⟩ := lost
    exact gone ((lasting 0 v hv alters well).shown never)

end BusyLab

end FaultLab.Simulation
