import FaultLab.Firewall.Script

/-! # What firewall scripts do

A `Wall` has the two chains of a firewall, with the rules of this library (`Entry.drop`) among those of
others.  The firewall tool does as it is told, or has nothing to find or to delete, or a mishap keeps it
from doing anything (`Invocation.Ends`).

`Script.Runs` is what the shell makes of a script: how it ends, which mishaps there were on the way, and
the wall that it leaves.  What the uses of the tool keep, the script keeps (`Script.Runs.keeps`), so a
script about one rule leaves all other entries as they are (`Wall.Around`).

* Without a mishap a script succeeds and its effect is certain: blocking puts a copy of either rule on
  top where there is none, unblocking takes out every copy (`Task.runs_calm_iff`).
* An unblock that succeeds leaves none of its rules unless a check failed that should have found it: the
  loop takes that for the end of its work (`Task.checked_of_unblock`).
* A block may fail half-way, with one of its rules in place (`Task.runs_half_block`). -/

namespace FaultLab.Firewall

/-! ### Walls -/

/-- An entry of a chain: one of our rules against a peer, or anything else. -/
inductive Entry where
  | drop (peer : String)
  | foreign (text : String)
deriving DecidableEq

/-- The entries of a chain that are not our rule against a peer. -/
def others (peer : String) (es : List Entry) : List Entry := es.filter fun e => e ≠ .drop peer

/-- The entries in the two chains, from the top. -/
structure Wall where
  input : List Entry
  output : List Entry
deriving DecidableEq

namespace Wall
variable {w w' : Wall} {r q : Rule}

/-- A firewall without entries. -/
def bare : Wall := ⟨[], []⟩

/-- The chain that packets of a direction go through. -/
def chain (w : Wall) : Direction → List Entry
  | .fromPeer => w.input
  | .toPeer => w.output

/-- Replace a chain. -/
def setChain (d : Direction) (es : List Entry) (w : Wall) : Wall :=
  match d with
  | .fromPeer => { w with input := es }
  | .toPeer => { w with output := es }

@[simp] theorem chain_bare (d : Direction) : bare.chain d = [] := by cases d <;> rfl

@[simp] theorem chain_setChain_same (d : Direction) (es : List Entry) (w : Wall) :
    (w.setChain d es).chain d = es := by cases d <;> rfl

theorem chain_setChain_of_ne {d d' : Direction} (other : d' ≠ d) (es : List Entry) (w : Wall) :
    (w.setChain d es).chain d' = w.chain d' := by
  cases d <;> cases d' <;> first | rfl | exact absurd rfl other

theorem ext_chain (h : ∀ d, w.chain d = w'.chain d) : w = w' := by
  obtain ⟨input, output⟩ := w
  obtain ⟨input', output'⟩ := w'
  obtain rfl : input = input' := h .fromPeer
  obtain rfl : output = output' := h .toPeer
  rfl

/-- Whether a rule is in place. -/
def Has (w : Wall) (r : Rule) : Prop := .drop r.peer ∈ w.chain r.direction

instance (w : Wall) (r : Rule) : Decidable (w.Has r) := inferInstanceAs (Decidable (_ ∈ _))

theorem not_has_bare (r : Rule) : ¬ bare.Has r := by simp [Has]

/-- Put a copy of a rule on top. -/
def insert (r : Rule) (w : Wall) : Wall :=
  w.setChain r.direction (.drop r.peer :: w.chain r.direction)

/-- Take the topmost copy of a rule out. -/
def delete (r : Rule) (w : Wall) : Wall :=
  w.setChain r.direction ((w.chain r.direction).erase (.drop r.peer))

/-- Put a rule in place unless it is. -/
def ensured (r : Rule) (w : Wall) : Wall := if w.Has r then w else w.insert r

/-- Take every copy of a rule out. -/
def cleared (r : Rule) (w : Wall) : Wall :=
  w.setChain r.direction (others r.peer (w.chain r.direction))

/-- The wall after the tool has done as told, if it can. -/
def apply (action : Action) (r : Rule) (w : Wall) : Option Wall :=
  match action with
  | .check => if w.Has r then some w else none
  | .insert => some (w.insert r)
  | .delete => if w.Has r then some (w.delete r) else none
  | .list => some w

theorem apply_check_eq_some : w.apply .check r = some w' ↔ w.Has r ∧ w' = w := by
  simp [apply, eq_comm]

theorem apply_check_eq_none : w.apply .check r = none ↔ ¬ w.Has r := by simp [apply]

theorem apply_delete_eq_some : w.apply .delete r = some w' ↔ w.Has r ∧ w' = w.delete r := by
  simp [apply, eq_comm]

theorem apply_delete_eq_none : w.apply .delete r = none ↔ ¬ w.Has r := by simp [apply]

/-! ### What is around a rule -/

/-- But for copies of a rule, a wall is as before. -/
structure Around (r : Rule) (w w' : Wall) : Prop where
  beside : ∀ d, d ≠ r.direction → w'.chain d = w.chain d
  others : others r.peer (w'.chain r.direction) = others r.peer (w.chain r.direction)

theorem Around.refl (r : Rule) (w : Wall) : Around r w w := ⟨fun _ _ => rfl, rfl⟩

theorem Around.trans {u : Wall} (h : Around r w u) (h' : Around r u w') : Around r w w' :=
  ⟨fun d other => (h'.beside d other).trans (h.beside d other), h'.others.trans h.others⟩

theorem mem_others {peer : String} {es : List Entry} {e : Entry} :
    e ∈ Firewall.others peer es ↔ e ∈ es ∧ e ≠ .drop peer := by simp [Firewall.others]

theorem Around.has_iff (h : Around r w w') (other : q ≠ r) : w'.Has q ↔ w.Has q := by
  by_cases same : q.direction = r.direction
  · have apart : Entry.drop q.peer ≠ .drop r.peer := by
      intro peers
      obtain ⟨p, d⟩ := q
      obtain ⟨p', d'⟩ := r
      cases peers
      exact other (congrArg (Rule.mk p) same)
    have through : ∀ x : Wall, x.Has q ↔
        Entry.drop q.peer ∈ Firewall.others r.peer (x.chain r.direction) := by
      intro x
      rw [mem_others, Has, same]
      simp [apart]
    rw [through, through, h.others]
  · rw [Has, Has, h.beside _ same]

theorem around_insert (r : Rule) (w : Wall) : Around r w (w.insert r) where
  beside d other := chain_setChain_of_ne other _ w
  others := by simp [insert, Firewall.others]

theorem around_delete (r : Rule) (w : Wall) : Around r w (w.delete r) where
  beside d other := chain_setChain_of_ne other _ w
  others := by
    simp only [delete, chain_setChain_same, Firewall.others]
    induction w.chain r.direction with
    | nil => rfl
    | cons e es ih =>
      by_cases here : e = .drop r.peer
      · simp [here]
      · rw [List.erase_cons_tail (by simpa using here), List.filter_cons, List.filter_cons, ih]

theorem around_cleared (r : Rule) (w : Wall) : Around r w (w.cleared r) where
  beside d other := chain_setChain_of_ne other _ w
  others := by simp [cleared, Firewall.others]

/-- Around a rule that is not in place any more, every copy was taken out. -/
theorem Around.eq_cleared (h : Around r w w') (gone : ¬ w'.Has r) : w' = w.cleared r := by
  have left : Firewall.others r.peer (w'.chain r.direction) = w'.chain r.direction := by
    rw [Firewall.others, List.filter_eq_self]
    intro e he
    have apart : e ≠ .drop r.peer := by
      rintro rfl
      exact gone he
    simpa using apart
  refine ext_chain fun d => ?_
  by_cases same : d = r.direction
  · rw [same, cleared, chain_setChain_same, ← h.others, left]
  · rw [cleared, chain_setChain_of_ne same, h.beside d same]

@[simp] theorem has_insert (r : Rule) (w : Wall) : (w.insert r).Has r := by simp [Has, insert]

theorem around_ensured (r : Rule) (w : Wall) : Around r w (w.ensured r) := by
  rw [ensured]
  split
  · exact .refl r w
  · exact around_insert r w

theorem not_has_cleared (r : Rule) (w : Wall) : ¬ (w.cleared r).Has r := by
  simp [Has, cleared, Firewall.others]

theorem has_ensured_iff : (w.ensured r).Has q ↔ q = r ∨ w.Has q := by
  by_cases same : q = r
  · subst same
    rw [ensured]
    split
    · rename_i has
      exact iff_of_true has (.inl rfl)
    · exact iff_of_true (has_insert q w) (.inl rfl)
  · rw [(around_ensured r w).has_iff same]
    exact (or_iff_right same).symm

theorem has_cleared_iff : (w.cleared r).Has q ↔ q ≠ r ∧ w.Has q := by
  by_cases same : q = r
  · subst same
    exact iff_of_false (not_has_cleared q w) fun h => h.1 rfl
  · rw [(around_cleared r w).has_iff same]
    exact (and_iff_right same).symm

theorem has_of_delete (h : (w.delete r).Has q) : w.Has q := by
  by_cases same : q.direction = r.direction
  · rw [Has, same, delete, chain_setChain_same] at h
    rw [Has, same]
    exact List.mem_of_mem_erase h
  · rwa [Has, delete, chain_setChain_of_ne same] at h

theorem around_of_apply {action : Action} (did : w.apply action r = some w') : Around r w w' := by
  cases action with
  | check =>
    obtain ⟨-, rfl⟩ := apply_check_eq_some.mp did
    exact .refl r _
  | insert =>
    cases did
    exact around_insert r w
  | delete =>
    obtain ⟨-, rfl⟩ := apply_delete_eq_some.mp did
    exact around_delete r w
  | list =>
    cases did
    exact .refl r w

theorem has_of_apply {action : Action} (did : w.apply action r = some w')
    (other : action ≠ .insert) (h : w'.Has q) : w.Has q := by
  cases action with
  | check =>
    obtain ⟨-, rfl⟩ := apply_check_eq_some.mp did
    exact h
  | insert => exact absurd rfl other
  | delete =>
    obtain ⟨-, rfl⟩ := apply_delete_eq_some.mp did
    exact has_of_delete h
  | list =>
    cases did
    exact h

end Wall

/-! ### The shell -/

/-- How a piece of shell ends. -/
inductive Ending where
  | success
  | failure
  /-- The group was left. -/
  | exit
deriving DecidableEq

/-- How a group ends whose inside has ended. -/
def Ending.ofGroup : Ending → Ending
  | success => success
  | _ => failure

/-- A use of the tool on a wall: how it ends, whether by a mishap, and the wall after it. -/
inductive Invocation.Ends (i : Invocation) (w : Wall) : Ending → List Invocation → Wall → Prop
  | works {w' : Wall} (h : w.apply i.action i.rule = some w') : i.Ends w .success [] w'
  | refused (h : w.apply i.action i.rule = none) : i.Ends w .failure [] w
  | mishap : i.Ends w .failure [i] w

namespace Invocation
variable {i : Invocation} {w w' : Wall} {ms : List Invocation}

@[simp] theorem ends_success_iff :
    i.Ends w .success ms w' ↔ ms = [] ∧ w.apply i.action i.rule = some w' := by
  constructor
  · rintro (h | -)
    exact ⟨rfl, h⟩
  · rintro ⟨rfl, h⟩
    exact .works h

@[simp] theorem ends_failure_iff : i.Ends w .failure ms w' ↔
    w' = w ∧ (ms = [] ∧ w.apply i.action i.rule = none ∨ ms = [i]) := by
  constructor
  · rintro (- | h | -)
    · exact ⟨rfl, .inl ⟨rfl, h⟩⟩
    · exact ⟨rfl, .inr rfl⟩
  · rintro ⟨rfl, ⟨rfl, h⟩ | rfl⟩
    · exact .refused h
    · exact .mishap

@[simp] theorem not_ends_exit : ¬ i.Ends w .exit ms w' := by
  intro h
  cases h

theorem Ends.around {e : Ending} (h : i.Ends w e ms w') : Wall.Around i.rule w w' := by
  cases h with
  | refused | mishap => exact .refl i.rule w
  | works did => exact Wall.around_of_apply did

end Invocation

/-- A loop, where `last` is how its body has ended the last time; the loop ends like this once the
test fails. -/
inductive Loop (test body : Wall → Ending → List Invocation → Wall → Prop) :
    Ending → Wall → Ending → List Invocation → Wall → Prop
  | past {last : Ending} {w w' : Wall} {ms : List Invocation} (fails : test w .failure ms w') :
    Loop test body last w last ms w'
  | left {last : Ending} {w w' : Wall} {ms : List Invocation} (leaves : test w .exit ms w') :
    Loop test body last w .exit ms w'
  | again {last x e : Ending} {w u v w' : Wall} {ms ms' ms'' : List Invocation}
    (holds : test w .success ms u) (ran : body u x ms' v) (stays : x ≠ .exit)
    (rest : Loop test body x v e ms'' w') : Loop test body last w e (ms ++ (ms' ++ ms'')) w'
  | broken {last : Ending} {w u v : Wall} {ms ms' : List Invocation} (holds : test w .success ms u)
    (leaves : body u .exit ms' v) : Loop test body last w .exit (ms ++ ms') v

namespace Script

/-- What the shell makes of a script on a wall: how it ends, the mishaps on the way, and the wall after
it. -/
def Runs : Script → Wall → Ending → List Invocation → Wall → Prop
  | use i => i.Ends
  | both a b => fun w e ms w' => (e ≠ .success ∧ a.Runs w e ms w') ∨
    ∃ u ms₁ ms₂, a.Runs w .success ms₁ u ∧ b.Runs u e ms₂ w' ∧ ms = ms₁ ++ ms₂
  | either a b => fun w e ms w' => (e ≠ .failure ∧ a.Runs w e ms w') ∨
    ∃ u ms₁ ms₂, a.Runs w .failure ms₁ u ∧ b.Runs u e ms₂ w' ∧ ms = ms₁ ++ ms₂
  | whilst t b => Loop t.Runs b.Runs .success
  | giveUp => fun w e ms w' => e = .exit ∧ ms = [] ∧ w' = w
  | group a => fun w e ms w' => ∃ x, a.Runs w x ms w' ∧ e = x.ofGroup

/-- The uses of the tool in a script. -/
def uses : Script → List Invocation
  | use i => [i]
  | both a b => a.uses ++ b.uses
  | either a b => a.uses ++ b.uses
  | whilst t b => t.uses ++ b.uses
  | giveUp => []
  | group a => a.uses

variable {s : Script} {w w' : Wall} {e : Ending} {ms : List Invocation}

/-- What every use of the tool in a script keeps, the script keeps. -/
theorem Runs.keeps {I : Wall → Prop} (h : s.Runs w e ms w')
    (kept : ∀ i ∈ s.uses, ∀ w e ms w', i.Ends w e ms w' → I w → I w') (hw : I w) : I w' := by
  induction s generalizing w e ms w' with
  | use i => exact kept i (List.mem_singleton_self i) w e ms w' h hw
  | both a b iha ihb | either a b iha ihb =>
    have keptA := fun i hi => kept i (List.mem_append_left b.uses hi)
    have keptB := fun i hi => kept i (List.mem_append_right a.uses hi)
    obtain ⟨-, ran⟩ | ⟨u, ms₁, ms₂, first, second, -⟩ := h
    · exact iha ran keptA hw
    · exact ihb second keptB (iha first keptA hw)
  | whilst t b iht ihb =>
    have keptT := fun i hi => kept i (List.mem_append_left b.uses hi)
    have keptB := fun i hi => kept i (List.mem_append_right t.uses hi)
    change Loop t.Runs b.Runs .success w e ms w' at h
    generalize Ending.success = last at h
    induction h with
    | past fails => exact iht fails keptT hw
    | left leaves => exact iht leaves keptT hw
    | again holds ran stays rest ih => exact ih (ihb ran keptB (iht holds keptT hw))
    | broken holds leaves => exact ihb leaves keptB (iht holds keptT hw)
  | giveUp =>
    obtain ⟨-, -, rfl⟩ := h
    exact hw
  | group a ih =>
    obtain ⟨x, ran, -⟩ := h
    exact ih ran kept hw

theorem Runs.has_iff {q : Rule} (h : s.Runs w e ms w') (beside : ∀ i ∈ s.uses, q ≠ i.rule) :
    w'.Has q ↔ w.Has q :=
  h.keeps (I := fun u => u.Has q ↔ w.Has q)
    (fun i hi _ _ _ _ ends kept => (ends.around.has_iff (beside i hi)).trans kept) Iff.rfl

theorem Runs.has_of {q : Rule} (h : s.Runs w e ms w') (never : ∀ i ∈ s.uses, i.action ≠ .insert) :
    w'.Has q → w.Has q := by
  refine h.keeps (I := fun u => u.Has q → w.Has q) (fun i hi u x ms' u' ends kept has => ?_) id
  cases ends with
  | refused | mishap => exact kept has
  | works did => exact kept (Wall.has_of_apply did (never i hi) has)

theorem Runs.around {r : Rule} (h : s.Runs w e ms w') (about : ∀ i ∈ s.uses, i.rule = r) :
    Wall.Around r w w' :=
  h.keeps (I := Wall.Around r w)
    (fun i hi _ _ _ _ ends kept => kept.trans (about i hi ▸ ends.around)) (.refl r w)

/-! ### One rule -/

section one
variable {elevated : Bool} {r : Rule}

theorem rule_of_mem_remove : ∀ i ∈ (remove elevated r).uses, i.rule = r := by
  simp [remove, uses]

/-- The two ways to make sure of a rule: it is there, or it is inserted. -/
theorem runs_ensure_iff : (ensure elevated r).Runs w e ms w' ↔
    (∃ x, e = x.ofGroup ∧ x ≠ .failure ∧ Invocation.Ends ⟨elevated, .check, r⟩ w x ms w') ∨
    ∃ x ms₁ ms₂, e = x.ofGroup ∧ Invocation.Ends ⟨elevated, .check, r⟩ w .failure ms₁ w ∧
      Invocation.Ends ⟨elevated, .insert, r⟩ w x ms₂ w' ∧ ms = ms₁ ++ ms₂ := by
  constructor
  · rintro ⟨x, ⟨other, ran⟩ | ⟨u, ms₁, ms₂, first, second, rfl⟩, rfl⟩
    · exact .inl ⟨x, rfl, other, ran⟩
    · obtain ⟨rfl, -⟩ := Invocation.ends_failure_iff.mp first
      exact .inr ⟨x, ms₁, ms₂, rfl, first, second, rfl⟩
  · rintro (⟨x, rfl, other, ran⟩ | ⟨x, ms₁, ms₂, rfl, first, second, rfl⟩)
    · exact ⟨x, .inl ⟨other, ran⟩, rfl⟩
    · exact ⟨x, .inr ⟨w, ms₁, ms₂, first, second, rfl⟩, rfl⟩

/-- Nothing going wrong, a rule is in place afterwards. -/
theorem ensure_calm_iff :
    (ensure elevated r).Runs w e [] w' ↔ e = .success ∧ w' = w.ensured r := by
  rw [runs_ensure_iff]
  constructor
  · rintro (⟨x, rfl, other, ran⟩ | ⟨x, ms₁, ms₂, rfl, first, second, none⟩)
    · cases x with
      | success =>
        obtain ⟨-, did⟩ := Invocation.ends_success_iff.mp ran
        obtain ⟨has, rfl⟩ := Wall.apply_check_eq_some.mp did
        exact ⟨rfl, (if_pos has).symm⟩
      | failure => exact absurd rfl other
      | exit => exact absurd ran Invocation.not_ends_exit
    · obtain ⟨rfl, rfl⟩ := List.append_eq_nil_iff.mp none.symm
      obtain ⟨-, ⟨-, missing⟩ | no⟩ := Invocation.ends_failure_iff.mp first
      · cases second with
        | works did =>
          cases did
          exact ⟨rfl, (if_neg (Wall.apply_check_eq_none.mp missing)).symm⟩
        | refused no => cases no
      · cases no
  · rintro ⟨rfl, rfl⟩
    by_cases has : w.Has r
    · refine .inl ⟨.success, rfl, nofun, .works (Wall.apply_check_eq_some.mpr ⟨has, ?_⟩)⟩
      exact if_pos has
    · refine .inr ⟨.success, [], [], rfl, .refused (Wall.apply_check_eq_none.mpr has), .works ?_, rfl⟩
      exact congrArg some (if_neg has).symm

/-- How the deletion of every copy comes to its end. -/
theorem loop_ends {x : Ending}
    (h : Loop (use ⟨elevated, .check, r⟩).Runs (either (use ⟨elevated, .delete, r⟩) giveUp).Runs x
      w e ms w') (start : x = .success) :
    e = .success ∧ (w'.Has r → ⟨elevated, .check, r⟩ ∈ ms) ∨
      e = .exit ∧ ⟨elevated, .delete, r⟩ ∈ ms := by
  induction h with
  | past fails =>
    obtain ⟨rfl, ⟨-, missing⟩ | rfl⟩ := Invocation.ends_failure_iff.mp fails
    · exact .inl ⟨start, fun has => absurd has (Wall.apply_check_eq_none.mp missing)⟩
    · exact .inl ⟨start, fun _ => List.mem_singleton_self _⟩
  | left leaves => exact absurd leaves Invocation.not_ends_exit
  | @again last x e w u v w' ms ms' ms'' holds ran stays rest ih =>
    obtain rfl : x = .success := by
      obtain ⟨other, ran⟩ | ⟨_, _, _, _, gave, _⟩ := ran
      · cases x with
        | success => rfl
        | failure => exact absurd rfl other
        | exit => exact absurd rfl stays
      · exact absurd gave.1 stays
    obtain ⟨ended, has⟩ | ⟨ended, failed⟩ := ih rfl
    · exact .inl ⟨ended, fun h => List.mem_append_right _ (List.mem_append_right _ (has h))⟩
    · exact .inr ⟨ended, List.mem_append_right _ (List.mem_append_right _ failed)⟩
  | @broken last w u v ms ms' holds leaves =>
    obtain ⟨-, did⟩ := Invocation.ends_success_iff.mp holds
    obtain ⟨has, rfl⟩ := Wall.apply_check_eq_some.mp did
    obtain ⟨-, ran⟩ | ⟨_, ms₁, ms₂, failed, -, rfl⟩ := leaves
    · exact absurd ran Invocation.not_ends_exit
    · obtain ⟨-, ⟨-, missing⟩ | rfl⟩ := Invocation.ends_failure_iff.mp failed
      · exact absurd has (Wall.apply_delete_eq_none.mp missing)
      · exact .inr ⟨rfl, by simp⟩

/-- Unless something goes wrong, every copy is deleted. -/
theorem loop_clears {n : Nat} (copies : (w.chain r.direction).count (.drop r.peer) = n) :
    Loop (use ⟨elevated, .check, r⟩).Runs (either (use ⟨elevated, .delete, r⟩) giveUp).Runs .success
      w .success [] (w.cleared r) := by
  induction n generalizing w with
  | zero =>
    have missing : ¬ w.Has r := List.count_eq_zero.mp copies
    rw [← (Wall.Around.refl r w).eq_cleared missing]
    exact .past (.refused (Wall.apply_check_eq_none.mpr missing))
  | succ n ih =>
    have has : w.Has r := List.count_pos_iff.mp (by omega)
    have fewer : ((w.delete r).chain r.direction).count (.drop r.peer) = n := by
      rw [Wall.delete, Wall.chain_setChain_same, List.count_erase_self, copies, Nat.add_sub_cancel]
    have same : (w.delete r).cleared r = w.cleared r :=
      ((Wall.around_delete r w).trans (Wall.around_cleared r _)).eq_cleared (Wall.not_has_cleared r _)
    change Loop _ _ _ _ _ ([] ++ ([] ++ [])) _
    refine .again (.works (Wall.apply_check_eq_some.mpr ⟨has, rfl⟩)) ?_ (x := .success) nofun
      (same ▸ ih fewer)
    exact .inl ⟨nofun, .works (Wall.apply_delete_eq_some.mpr ⟨has, rfl⟩)⟩

/-- A removal that succeeds leaves its rule in place only if a check failed. -/
theorem checked_of_remove (h : (remove elevated r).Runs w .success ms w') (has : w'.Has r) :
    ⟨elevated, .check, r⟩ ∈ ms := by
  obtain ⟨x, ⟨other, -⟩ | ⟨u, ms₁, ms₂, -, loop, rfl⟩, ended⟩ := h
  · cases x with
    | success => exact absurd rfl other
    | failure | exit => cases ended
  · obtain ⟨-, checked⟩ | ⟨rfl, -⟩ := loop_ends loop rfl
    · exact List.mem_append_right _ (checked has)
    · cases ended

theorem remove_calm_iff :
    (remove elevated r).Runs w e [] w' ↔ e = .success ∧ w' = w.cleared r := by
  constructor
  · intro h
    have gone : e = .success → w' = w.cleared r := by
      rintro rfl
      refine (h.around rule_of_mem_remove).eq_cleared fun has => ?_
      exact absurd (checked_of_remove h has) List.not_mem_nil
    obtain ⟨x, ⟨other, ran⟩ | ⟨u, ms₁, ms₂, first, loop, none⟩, rfl⟩ := h
    · cases ran with
      | works => exact absurd rfl other
      | refused no => cases no
    · obtain ⟨rfl, rfl⟩ := List.append_eq_nil_iff.mp none.symm
      obtain ⟨rfl, -⟩ | ⟨-, failed⟩ := loop_ends loop rfl
      · exact ⟨rfl, gone rfl⟩
      · cases failed
  · rintro ⟨rfl, rfl⟩
    exact ⟨.success, .inr ⟨w, [], [], .works rfl, loop_clears rfl, rfl⟩, rfl⟩

end one

end Script

/-! ### Tasks -/

/-- Whether a text names a peer to the shell and to the tool, as names and addresses of hosts do. -/
def IsPlain (host : String) : Prop :=
  host.toList.head? ∉ [none, some '-'] ∧
    ∀ c ∈ host.toList, c.isAlphanum = true ∨ c ∈ ['.', '-', '_', ':']

-- the characters of the text are looked at, not all that there are
instance (host : String) : Decidable (IsPlain host) :=
  @instDecidableAnd _ _ inferInstance (List.decidableBAll _ _)

namespace Task
variable {t : Task} {w w' : Wall} {e : Ending} {ms : List Invocation} {q : Rule}

/-- A wall after a task with which nothing went wrong. -/
def carried (t : Task) (w : Wall) : Wall :=
  match t.change with
  | .block => (w.ensured ⟨t.peer, .fromPeer⟩).ensured ⟨t.peer, .toPeer⟩
  | .unblock => (w.cleared ⟨t.peer, .fromPeer⟩).cleared ⟨t.peer, .toPeer⟩

theorem peer_of_mem_uses : ∀ i ∈ t.script.uses, i.rule.peer = t.peer := by
  cases t with
  | mk change peer elevated =>
    cases change <;> simp [script, Script.block, Script.unblock, Script.ensure, Script.remove, Script.uses]

theorem has_iff_of_ne (h : t.script.Runs w e ms w') (other : q.peer ≠ t.peer) :
    w'.Has q ↔ w.Has q :=
  h.has_iff fun i hi same => other (same ▸ peer_of_mem_uses i hi)

theorem has_of_unblock (h : t.script.Runs w e ms w') (unblock : t.change = .unblock) :
    w'.Has q → w.Has q := by
  refine h.has_of ?_
  simp [script, unblock, Script.unblock, Script.remove, Script.uses]

/-- An unblock that succeeds leaves a rule against its peer only if a check failed. -/
theorem checked_of_unblock (h : t.script.Runs w .success ms w') (unblock : t.change = .unblock)
    {d : Direction} (has : w'.Has ⟨t.peer, d⟩) : ⟨t.elevated, .check, t.peer, d⟩ ∈ ms := by
  rw [script, unblock] at h
  obtain ⟨other, -⟩ | ⟨u, ms₁, ms₂, first, second, rfl⟩ := h
  · exact absurd rfl other
  · cases d with
    | fromPeer =>
      have before : u.Has ⟨t.peer, .fromPeer⟩ :=
        ((second.around Script.rule_of_mem_remove).has_iff (q := ⟨t.peer, .fromPeer⟩) (by simp)).mp has
      exact List.mem_append_left _ (Script.checked_of_remove first before)
    | toPeer => exact List.mem_append_right _ (Script.checked_of_remove second has)

/-- Nothing going wrong, both halves of a script run one after the other. -/
theorem both_calm_iff {a b : Script} {f g : Wall → Wall}
    (first : ∀ {w e w'}, a.Runs w e [] w' ↔ e = .success ∧ w' = f w)
    (second : ∀ {w e w'}, b.Runs w e [] w' ↔ e = .success ∧ w' = g w) :
    (Script.both a b).Runs w e [] w' ↔ e = .success ∧ w' = g (f w) := by
  constructor
  · rintro (⟨other, ran⟩ | ⟨u, ms₁, ms₂, ran, rest, none⟩)
    · exact absurd (first.mp ran).1 other
    · obtain ⟨rfl, rfl⟩ := List.append_eq_nil_iff.mp none.symm
      obtain ⟨-, rfl⟩ := first.mp ran
      exact second.mp rest
  · rintro ⟨rfl, rfl⟩
    exact .inr ⟨f w, [], [], first.mpr ⟨rfl, rfl⟩, second.mpr ⟨rfl, rfl⟩, rfl⟩

theorem runs_calm_iff : t.script.Runs w e [] w' ↔ e = .success ∧ w' = t.carried w := by
  rw [script, carried]
  cases t.change with
  | block => exact both_calm_iff Script.ensure_calm_iff Script.ensure_calm_iff
  | unblock => exact both_calm_iff Script.remove_calm_iff Script.remove_calm_iff

/-- A task with which nothing went wrong decides about the rules of its peer, and of no other. -/
theorem has_carried_iff :
    (t.carried w).Has q ↔ if q.peer = t.peer then t.change = .block else w.Has q := by
  have halves : ∀ p, q = ⟨p, .toPeer⟩ ∨ q = ⟨p, .fromPeer⟩ ↔ q.peer = p := by
    intro p
    obtain ⟨peer, d⟩ := q
    cases d <;> simp
  rw [carried]
  split
  · rename_i block
    simp only [Wall.has_ensured_iff, ← or_assoc, halves, block]
    split <;> simp_all
  · rename_i unblock
    simp only [Wall.has_cleared_iff, ← and_assoc, ← not_or, ne_eq, halves, unblock]
    split <;> simp_all

/-- A block whose second insertion fails has put its first rule in place. -/
theorem runs_half_block (block : t.change = .block) (missing : ¬ w.Has ⟨t.peer, .toPeer⟩) :
    t.script.Runs w .failure [⟨t.elevated, .insert, t.peer, .toPeer⟩]
      (w.ensured ⟨t.peer, .fromPeer⟩) := by
  have still : ¬ (w.ensured ⟨t.peer, .fromPeer⟩).Has ⟨t.peer, .toPeer⟩ := by
    rw [Wall.has_ensured_iff]
    simp [missing]
  rw [script, block]
  refine .inr ⟨_, [], _, Script.ensure_calm_iff.mpr ⟨rfl, rfl⟩, ?_, rfl⟩
  exact Script.runs_ensure_iff.mpr <| .inr
    ⟨.failure, [], _, rfl, .refused (Wall.apply_check_eq_none.mpr still), .mishap, rfl⟩

end Task

end FaultLab.Firewall
