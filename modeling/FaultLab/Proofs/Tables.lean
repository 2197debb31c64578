import Mathlib.Logic.Function.Basic
import FaultLab.Proofs.Scripts

/-! # What the shell does to a firewall

A `Table` has the chains of a firewall, and a `Tool` is any program that is used on it.  The tool is honest
(`Tool.Honest`) if it has done as told when it says so, and nothing otherwise; so any use may fail.  It works
(`Tool.Works`) if moreover it does what it can.  The shell keeps a list of the uses of the tool, and a use
`Slips` if it fails although the tool could do as told.

Each half of a task is about one rule: it leaves all other rules as they are (`Went`), and it fails only if a
use slips (`Ended`).  From what the halves come to (`ensure_ended`, `remove_ended`) one gets what a tool that
works makes of a table, and how far a zero exit with an honest tool can be trusted. -/

namespace FaultLab.Firewall

open Posix (IsWord Exits Runs)

/-! ### Tables -/

/-- The chains of a firewall, with their rules from the top, each in the words of the tool. -/
abbrev Table := String → List (List String)

/-- A rule in the words of the tool, without its chain. -/
def Rule.spec (r : Rule) : List String := r.words.tail

theorem Rule.spec_injective : Function.Injective Rule.spec := by
  rintro ⟨peer, d⟩ ⟨peer', d'⟩ same
  cases d <;> cases d' <;> simp_all [spec, words, Direction.peerOption]

theorem Direction.chain_injective : Function.Injective chain := by
  intro d d' same
  cases d <;> cases d' <;> first | rfl | exact absurd same (by decide)

theorem Direction.chain_ne : chain .fromPeer ≠ chain .toPeer := by decide

namespace Table
variable {t t' t'' : Table} {r r' : Rule}

/-- Whether there is a copy of a rule in its chain. -/
def Has (t : Table) (r : Rule) : Prop := r.spec ∈ t r.direction.chain

instance (t : Table) (r : Rule) : Decidable (t.Has r) := inferInstanceAs (Decidable (_ ∈ _))

/-- Put a copy of a rule on top of its chain unless there is one. -/
def ensured (r : Rule) (t : Table) : Table :=
  if t.Has r then t else Function.update t r.direction.chain (r.spec :: t r.direction.chain)

/-- All is as before but for the copies of a rule in its chain. -/
structure Around (r : Rule) (t t' : Table) : Prop where
  elsewhere : ∀ chain, chain ≠ r.direction.chain → t' chain = t chain
  others : (t' r.direction.chain).filter (· ≠ r.spec) = (t r.direction.chain).filter (· ≠ r.spec)

namespace Around

theorem refl (r : Rule) (t : Table) : Around r t t := ⟨fun _ _ => rfl, rfl⟩

theorem trans (h : Around r t t') (h' : Around r t' t'') : Around r t t'' :=
  ⟨fun c hc => (h'.elsewhere c hc).trans (h.elsewhere c hc), h'.others.trans h.others⟩

theorem insert (r : Rule) (t : Table) :
    Around r t (Function.update t r.direction.chain (r.spec :: t r.direction.chain)) :=
  ⟨fun _ hc => Function.update_of_ne hc _ _, by simp⟩

theorem delete {before after : List (List String)} (found : t r.direction.chain = before ++ r.spec :: after) :
    Around r t (Function.update t r.direction.chain (before ++ after)) :=
  ⟨fun _ hc => Function.update_of_ne hc _ _, by simp [found]⟩

theorem has_iff (h : Around r t t') (r' : Rule) (other : r'.direction ≠ r.direction) : t'.Has r' ↔ t.Has r' := by
  rw [Has, Has, h.elsewhere _ fun same => other (Direction.chain_injective same)]

theorem chain_eq (h : Around r t t') (gone : ¬ t'.Has r) :
    t' r.direction.chain = (t r.direction.chain).filter (· ≠ r.spec) := by
  rw [← h.others]
  refine (List.filter_eq_self.mpr fun rule hr => ?_).symm
  have other : rule ≠ r.spec := by
    rintro rfl
    exact gone hr
  simpa using other

end Around

theorem around_ensured (r : Rule) (t : Table) : Around r t (t.ensured r) := by
  rw [ensured]
  split
  · exact .refl r t
  · exact .insert r t

end Table

/-! ### Tools -/

/-- A tool for firewalls: given how often it was used before, its arguments and the table, it ends with a status
and leaves a table. -/
abbrev Tool := Nat → List String → Table → Nat × Table

namespace Invocation
variable {i j : Invocation}

/-- Whether the tool can do as told: what is to be found or deleted has to be there. -/
def Possible (i : Invocation) (t : Table) : Prop :=
  match i.action with
  | .check | .delete => t.Has i.rule
  | .insert | .list => True

/-- What the tool makes of a table if it does as told; which of the copies it deletes is up to it. -/
def Effect (i : Invocation) (t t' : Table) : Prop :=
  let chain := i.rule.direction.chain
  match i.action with
  | .check | .list => t' = t
  | .insert => t' = Function.update t chain (i.rule.spec :: t chain)
  | .delete => ∃ before after, t chain = before ++ i.rule.spec :: after ∧
      t' = Function.update t chain (before ++ after)

theorem Effect.around {t t' : Table} (h : i.Effect t t') : Table.Around i.rule t t' := by
  obtain ⟨elevated, action, r⟩ := i
  cases action with
  | check | list => exact h ▸ .refl r t
  | insert => exact h ▸ .insert r t
  | delete =>
    obtain ⟨before, after, found, rfl⟩ := h
    exact .delete found

/-- A check is told from all other uses by its arguments. -/
theorem eq_of_arguments_check {elevated elevated' : Bool} {action : Action} {r r' : Rule}
    (same : arguments ⟨elevated, .check, r⟩ = arguments ⟨elevated', action, r'⟩) : action = .check ∧ r = r' := by
  cases action with
  | check =>
    have words := (List.cons.inj same).2
    exact ⟨rfl, Rule.spec_injective (congrArg List.tail words)⟩
  | insert | delete | list => exact absurd (List.cons.inj same).1 (by decide)

end Invocation

namespace Tool

/-- A tool that has done as told if it says so, and otherwise has done nothing. -/
structure Honest (tool : Tool) : Prop where
  did : ∀ n (i : Invocation) t, (tool n i.arguments t).1 = 0 →
    i.Possible t ∧ i.Effect t (tool n i.arguments t).2
  kept : ∀ n (i : Invocation) t, (tool n i.arguments t).1 ≠ 0 → (tool n i.arguments t).2 = t

/-- An honest tool that does what it can. -/
structure Works (tool : Tool) : Prop extends tool.Honest where
  does : ∀ n (i : Invocation) t, i.Possible t → (tool n i.arguments t).1 = 0

end Tool

/-! ### Uses of a tool -/

/-- A use of the tool: the number of those before it, its arguments, and the table that it found. -/
structure Use where
  number : Nat
  arguments : List String
  table : Table

/-- A use that failed, although the tool could have done as told. -/
def Use.Slips (tool : Tool) (i : Invocation) (u : Use) : Prop :=
  u.arguments = i.arguments ∧ i.Possible u.table ∧ (tool u.number u.arguments u.table).1 ≠ 0

/-- A firewall, with the uses of the tool so far. -/
structure Site where
  table : Table
  uses : List Use

/-- The arguments of the tool in a command line. -/
def toolArguments? : List String → Option (List String)
  | "iptables" :: args => some args
  | "sudo" :: "iptables" :: args => some args
  | _ => none

/-- The utilities of a shell on a site: there is the tool, and no other can be found. -/
def Tool.utilities (tool : Tool) : Posix.Utilities Site := fun ws s =>
  match toolArguments? ws with
  | some args =>
    ((tool s.uses.length args s.table).1,
      ⟨(tool s.uses.length args s.table).2, s.uses ++ [⟨s.uses.length, args, s.table⟩]⟩)
  | none => (127, s)

namespace Site
variable {tool : Tool} {i : Invocation} {s : Site}

/-- The next use. -/
def next (s : Site) (i : Invocation) : Use := ⟨s.uses.length, i.arguments, s.table⟩

/-- How a use ends. -/
def status (tool : Tool) (i : Invocation) (s : Site) : Nat := (tool s.uses.length i.arguments s.table).1

/-- What a use leaves. -/
def after (tool : Tool) (i : Invocation) (s : Site) : Site :=
  ⟨(tool s.uses.length i.arguments s.table).2, s.uses ++ [s.next i]⟩

theorem runs_use (tool : Tool) (i : Invocation) (s : Site) :
    Runs tool.utilities (.simple i.commandWords) s ⟨s.status tool i, false⟩ (s.after tool i) := by
  have told : tool.utilities i.commandWords s = (s.status tool i, s.after tool i) := by
    obtain ⟨elevated, action, rule⟩ := i
    cases elevated <;> rfl
  have ran := Runs.simple (u := tool.utilities) i.commandWords s
  rwa [told] at ran

theorem slips_next (possible : i.Possible s.table) (failed : s.status tool i ≠ 0) :
    (s.next i).Slips tool i := ⟨rfl, possible, failed⟩

theorem not_slips_next {j : Invocation} (well : s.status tool i = 0) : ¬ (s.next i).Slips tool j := by
  rintro ⟨-, -, failed⟩
  exact failed well

/-- A use that goes well is none of those that slip. -/
theorem exists_slips_next {new : List Use} (well : s.status tool i = 0) (j : Invocation) :
    (∃ u ∈ s.next i :: new, u.Slips tool j) ↔ ∃ u ∈ new, u.Slips tool j := by
  simp [not_slips_next well]

theorem effect_after (honest : tool.Honest) (well : s.status tool i = 0) :
    i.Possible s.table ∧ i.Effect s.table (s.after tool i).table := honest.did _ i _ well

theorem table_after (honest : tool.Honest) (failed : s.status tool i ≠ 0) : (s.after tool i).table = s.table :=
  honest.kept _ i _ failed

theorem around_after (honest : tool.Honest) (i : Invocation) (s : Site) :
    Table.Around i.rule s.table (s.after tool i).table := by
  by_cases well : s.status tool i = 0
  · exact (effect_after honest well).2.around
  · rw [table_after honest well]
    exact .refl _ _

theorem after_check (honest : tool.Honest) (elevated : Bool) (r : Rule) (s : Site) :
    (s.after tool ⟨elevated, .check, r⟩).table = s.table ∧
      (s.status tool ⟨elevated, .check, r⟩ = 0 → s.table.Has r) := by
  by_cases well : s.status tool ⟨elevated, .check, r⟩ = 0
  · exact ⟨(effect_after honest well).2, fun _ => (effect_after honest well).1⟩
  · exact ⟨table_after honest well, fun found => absurd found well⟩

theorem count_after_delete (honest : tool.Honest) {elevated : Bool} {r : Rule}
    (well : s.status tool ⟨elevated, .delete, r⟩ = 0) :
    ((s.after tool ⟨elevated, .delete, r⟩).table r.direction.chain).count r.spec <
      (s.table r.direction.chain).count r.spec := by
  obtain ⟨-, before, after, split, made⟩ := effect_after honest well
  rw [made, Function.update_self, show s.table r.direction.chain = _ from split]
  simp

end Site

/-! ### Halves of a task -/

section halves
variable {tool : Tool} {elevated : Bool} {r : Rule} {s t : Site} {n : Nat} {new : List Use}

/-- Uses of the tool that are about one rule. -/
def About (elevated : Bool) (r : Rule) (new : List Use) : Prop :=
  ∀ u ∈ new, ∃ action, u.arguments = Invocation.arguments ⟨elevated, action, r⟩

theorem About.not_slips (h : About elevated r new) (tool : Tool) (r' : Rule) (other : r' ≠ r) :
    ∀ u ∈ new, ¬ u.Slips tool ⟨elevated, .check, r'⟩ := by
  rintro u hu ⟨same, -, -⟩
  obtain ⟨action, arguments⟩ := h u hu
  exact other (Invocation.eq_of_arguments_check (same.symm.trans arguments)).2

/-- On the way from one site to another all uses of the tool were about one rule, and nothing else was
changed. -/
structure Went (elevated : Bool) (r : Rule) (s t : Site) (new : List Use) : Prop where
  uses : t.uses = s.uses ++ new
  about : About elevated r new
  around : Table.Around r s.table t.table

theorem Went.refl (elevated : Bool) (r : Rule) (s : Site) : Went elevated r s s [] :=
  ⟨(List.append_nil _).symm, nofun, .refl r s.table⟩

/-- One more use at the beginning of the way. -/
theorem Went.next (honest : tool.Honest) (action : Action)
    (h : Went elevated r (s.after tool ⟨elevated, action, r⟩) t new) :
    Went elevated r s t (s.next ⟨elevated, action, r⟩ :: new) where
  uses := h.uses.trans (List.append_assoc s.uses [_] new)
  about := List.forall_mem_cons.mpr ⟨⟨action, rfl⟩, h.about⟩
  around := (Site.around_after honest ⟨elevated, action, r⟩ s).trans h.around

/-- How a half of a task ends that is about one rule: if it fails, one of the uses has slipped. -/
structure Ended (tool : Tool) (elevated : Bool) (r : Rule) (p : Posix.Program) (s : Site) (n : Nat) (t : Site)
    (new : List Use) : Prop extends Went elevated r s t new where
  ran : Runs tool.utilities p s ⟨n, false⟩ t
  failed : n ≠ 0 → ∃ i, ∃ u ∈ new, u.Slips tool i

/-- To make sure of a rule is to have it in its chain; there is no copy more than need be unless a check
slips. -/
theorem ensure_ended (honest : tool.Honest) (elevated : Bool) (r : Rule) (s : Site) :
    ∃ n t new, Ended tool elevated r (Script.ensure elevated r).program s n t new ∧
      (n = 0 → t.table.Has r) ∧
      ((∀ i, ∀ u ∈ new, ¬ u.Slips tool i) → t.table = s.table.ensured r) := by
  let check : Invocation := ⟨elevated, .check, r⟩
  let insert : Invocation := ⟨elevated, .insert, r⟩
  let m := s.after tool check
  have checked := Site.runs_use tool check s
  obtain ⟨same, finds⟩ := Site.after_check honest elevated r s
  have same : m.table = s.table := same
  by_cases found : s.status tool check = 0
  · have has : s.table.Has r := finds found
    rw [found] at checked
    exact ⟨0, m, [s.next check], ⟨(Went.refl elevated r m).next honest .check, .group (.stop checked rfl), nofun⟩,
      fun _ => same.symm ▸ has, fun _ => same.trans (if_pos has).symm⟩
  · have inserted := Site.runs_use tool insert m
    have effect : m.status tool insert = 0 → (m.after tool insert).table =
        Function.update m.table r.direction.chain (r.spec :: m.table r.direction.chain) :=
      fun well => (Site.effect_after honest well).2
    have slip : m.status tool insert ≠ 0 → (m.next insert).Slips tool insert := Site.slips_next trivial
    refine ⟨m.status tool insert, m.after tool insert, [s.next check, m.next insert],
      ⟨((Went.refl elevated r _).next honest .insert).next honest .check,
        .group (.pass checked (Posix.Connective.passes_either found) inserted), ?_⟩, ?_, ?_⟩
    · exact fun failed => ⟨insert, m.next insert, by simp, slip failed⟩
    · intro well
      rw [Table.Has, effect well]
      simp
    · intro calm
      have missing : ¬ s.table.Has r := fun has => calm check _ (by simp) (Site.slips_next has found)
      have well : m.status tool insert = 0 := by
        by_contra failed
        exact calm insert (m.next insert) (by simp) (slip failed)
      rw [effect well, same, Table.ensured, if_neg missing]

/-- The loop that deletes the copies of a rule comes to an end, because each deletion leaves a copy less.  It
leaves the rule in its chain exactly if a check slips, and it leaves the shell only if a deletion slips. -/
theorem loop_ended (honest : tool.Honest) (elevated : Bool) (r : Rule) (s : Site) :
    ∃ e t new, Runs tool.utilities
        (Script.whilst (.use ⟨elevated, .check, r⟩) (.either (.use ⟨elevated, .delete, r⟩) .giveUp)).program
        s e t ∧ Went elevated r s t new ∧
      (e = ⟨0, false⟩ ∧ (t.table.Has r ↔ ∃ u ∈ new, u.Slips tool ⟨elevated, .check, r⟩) ∨
        e = ⟨1, true⟩ ∧ ∃ u ∈ new, u.Slips tool ⟨elevated, .delete, r⟩) := by
  let check : Invocation := ⟨elevated, .check, r⟩
  let delete : Invocation := ⟨elevated, .delete, r⟩
  induction copies : (s.table r.direction.chain).count r.spec using Nat.strongRecOn generalizing s with
  | _ many ih =>
    let m := s.after tool check
    have checked := Site.runs_use tool check s
    obtain ⟨same, finds⟩ := Site.after_check honest elevated r s
    have same : m.table = s.table := same
    by_cases found : s.status tool check = 0
    · rw [found] at checked
      have deleted := Site.runs_use tool delete m
      by_cases well : m.status tool delete = 0
      · have fewer : ((m.after tool delete).table r.direction.chain).count r.spec < many := by
          rw [← copies, ← same]
          exact Site.count_after_delete honest well
        rw [well] at deleted
        obtain ⟨e, t, new, ran, went, ends⟩ := ih _ fewer (m.after tool delete) rfl
        refine ⟨e, t, s.next check :: m.next delete :: new, .again checked rfl (.stop deleted rfl) rfl ran,
          (went.next honest .delete).next honest .check, ?_⟩
        rwa [Site.exists_slips_next found, Site.exists_slips_next well, Site.exists_slips_next found,
          Site.exists_slips_next well]
      · have has : m.table.Has r := same.symm ▸ finds found
        exact ⟨⟨1, true⟩, m.after tool delete, [s.next check, m.next delete],
          .left checked rfl (.pass deleted (Posix.Connective.passes_either well) (.exit 1 _)) rfl,
          ((Went.refl elevated r _).next honest .delete).next honest .check,
          .inr ⟨rfl, m.next delete, by simp, Site.slips_next has well⟩⟩
    · refine ⟨⟨0, false⟩, m, [s.next check], .past checked (Posix.Connective.not_passes_both found),
        (Went.refl elevated r m).next honest .check, .inl ⟨rfl, ?_⟩⟩
      simp only [List.mem_singleton, exists_eq_left, same]
      exact ⟨fun has => Site.slips_next has found, fun slips => slips.2.1⟩

/-- To remove a rule leaves it in its chain, where this succeeds, exactly if a check slips. -/
theorem remove_ended (honest : tool.Honest) (elevated : Bool) (r : Rule) (s : Site) :
    ∃ n t new, Ended tool elevated r (Script.remove elevated r).program s n t new ∧
      (n = 0 → (t.table.Has r ↔ ∃ u ∈ new, u.Slips tool ⟨elevated, .check, r⟩)) := by
  let list : Invocation := ⟨elevated, .list, r⟩
  let m := s.after tool list
  have listed := Site.runs_use tool list s
  by_cases well : s.status tool list = 0
  · rw [well] at listed
    obtain ⟨e, t, new, ran, went, ends⟩ := loop_ended honest elevated r m
    refine ⟨e.status, t, s.next list :: new, ⟨went.next honest .list, .group (.pass listed rfl ran), ?_⟩, ?_⟩
    · intro failed
      rcases ends with ⟨rfl, -⟩ | ⟨-, slip⟩
      · exact absurd rfl failed
      · exact ⟨_, (Site.exists_slips_next well _).mpr slip⟩
    · intro zero
      rcases ends with ⟨-, left⟩ | ⟨rfl, -⟩
      · rwa [Site.exists_slips_next well]
      · cases zero
  · have slip : (s.next list).Slips tool list := Site.slips_next trivial well
    exact ⟨s.status tool list, m, [s.next list],
      ⟨(Went.refl elevated r m).next honest .list, .group (.stop listed (Posix.Connective.not_passes_both well)),
        fun _ => ⟨list, s.next list, by simp, slip⟩⟩, fun zero => absurd zero well⟩

end halves

/-! ### Tasks -/

section tasks
variable {tool : Tool} {elevated : Bool} {r r' : Rule} {first second : Script} {s m t : Site} {n n' : Nat}
  {new new' : List Use}

theorem exits_halves (read : Posix.read? (Script.both first second).text = some (Script.both first second).program)
    (h : Ended tool elevated r first.program s n m new) (h' : Ended tool elevated r' second.program m n' t new') :
    Exits tool.utilities (Script.both first second).text s (if n = 0 then n' else n) (if n = 0 then t else m) := by
  refine ⟨_, false, read, ?_⟩
  by_cases well : n = 0
  · subst well
    exact .pass h.ran rfl h'.ran
  · rw [if_neg well, if_neg well]
    exact .stop h.ran (Posix.Connective.not_passes_both well)

end tasks

namespace Table
variable {peer : String} {t t' t'' : Table}

/-- A peer is blocked in both directions: there is a copy of its rule on top where there was none, and all else
is as before. -/
structure Blocked (peer : String) (t t' : Table) : Prop where
  chains : ∀ d : Direction, t' d.chain = if t.Has ⟨peer, d⟩ then t d.chain else Rule.spec ⟨peer, d⟩ :: t d.chain
  elsewhere : ∀ chain, (∀ d : Direction, chain ≠ d.chain) → t' chain = t chain

/-- A peer is blocked in no direction any more: there is no copy of its rules, and all else is as before. -/
structure Unblocked (peer : String) (t t' : Table) : Prop where
  chains : ∀ d : Direction, t' d.chain = (t d.chain).filter (· ≠ Rule.spec ⟨peer, d⟩)
  elsewhere : ∀ chain, (∀ d : Direction, chain ≠ d.chain) → t' chain = t chain

theorem ext_chains (ours : ∀ d : Direction, t' d.chain = t'' d.chain)
    (others : ∀ chain, (∀ d : Direction, chain ≠ d.chain) → t' chain = t'' chain) : t' = t'' := by
  funext chain
  by_cases known : ∃ d : Direction, chain = d.chain
  · obtain ⟨d, rfl⟩ := known
    exact ours d
  · exact others chain (not_exists.mp known)

theorem Blocked.has (h : Blocked peer t t') (d : Direction) : t'.Has ⟨peer, d⟩ := by
  rw [Has, h.chains]
  split
  · assumption
  · exact List.mem_cons_self

theorem Blocked.again (h : Blocked peer t t') (h' : Blocked peer t' t'') : t'' = t' :=
  ext_chains (fun d => by rw [h'.chains, if_pos (h.has d)]) h'.elsewhere

theorem Blocked.of_unblocked {u u' : Table} (h : Blocked peer t t') (hu : Unblocked peer t u)
    (hu' : Unblocked peer t' u') : u' = u := by
  refine ext_chains (fun d => ?_) fun chain out => ?_
  · rw [hu'.chains, hu.chains, h.chains]
    split <;> simp
  · rw [hu'.elsewhere chain out, hu.elsewhere chain out, h.elsewhere chain out]

/-- Other rules stay as they are, in as many copies. -/
theorem Blocked.count_eq (h : Blocked peer t t') {rule : List String} (other : ∀ d, rule ≠ Rule.spec ⟨peer, d⟩)
    (chain : String) : (t' chain).count rule = (t chain).count rule := by
  by_cases known : ∃ d : Direction, chain = d.chain
  · obtain ⟨d, rfl⟩ := known
    rw [h.chains]
    split
    · rfl
    · rw [List.count_cons_of_ne (other d).symm]
  · rw [h.elsewhere chain (not_exists.mp known)]

theorem Unblocked.count_eq (h : Unblocked peer t t') {rule : List String}
    (other : ∀ d, rule ≠ Rule.spec ⟨peer, d⟩) (chain : String) : (t' chain).count rule = (t chain).count rule := by
  by_cases known : ∃ d : Direction, chain = d.chain
  · obtain ⟨d, rfl⟩ := known
    rw [h.chains, List.count_filter (by simpa using other d)]
  · rw [h.elsewhere chain (not_exists.mp known)]

/-- The rules without the tag and those of other peers are no rules of a peer. -/
theorem ne_spec {rule : List String} (foreign : tag ∉ rule ∨ ∃ other ≠ peer, ∃ d, rule = Rule.spec ⟨other, d⟩)
    (d : Direction) : rule ≠ Rule.spec ⟨peer, d⟩ := by
  rintro rfl
  rcases foreign with bare | ⟨other, different, d', same⟩
  · exact bare (by simp [Rule.spec, Rule.words])
  · exact different (congrArg Rule.peer (Rule.spec_injective same)).symm

theorem blocked_ensured (peer : String) (t : Table) :
    Blocked peer t ((t.ensured ⟨peer, .fromPeer⟩).ensured ⟨peer, .toPeer⟩) := by
  have first := around_ensured ⟨peer, .fromPeer⟩ t
  have second := around_ensured ⟨peer, .toPeer⟩ (t.ensured ⟨peer, .fromPeer⟩)
  have here : ∀ (r : Rule) (t : Table), (t.ensured r) r.direction.chain =
      if t.Has r then t r.direction.chain else r.spec :: t r.direction.chain := by
    intro r t
    rw [ensured]
    split
    · rfl
    · exact Function.update_self ..
  have kept := first.elsewhere (Direction.chain .toPeer) Direction.chain_ne.symm
  refine ⟨fun d => ?_, fun chain out => ?_⟩
  · cases d with
    | fromPeer => exact (second.elsewhere _ Direction.chain_ne).trans (here ⟨peer, .fromPeer⟩ t)
    | toPeer =>
      refine (here ⟨peer, .toPeer⟩ _).trans ?_
      simp only [first.has_iff ⟨peer, .toPeer⟩ nofun, kept]
  · exact (second.elsewhere chain (out .toPeer)).trans (first.elsewhere chain (out .fromPeer))

theorem unblocked_of_around (first : Around ⟨peer, .fromPeer⟩ t t') (second : Around ⟨peer, .toPeer⟩ t' t'')
    (gone : ∀ d, ¬ t''.Has ⟨peer, d⟩) : Unblocked peer t t'' := by
  have input := second.elsewhere (Direction.chain .fromPeer) Direction.chain_ne
  have output := first.elsewhere (Direction.chain .toPeer) Direction.chain_ne.symm
  have none : ¬ t'.Has ⟨peer, .fromPeer⟩ := by
    rw [← second.has_iff ⟨peer, .fromPeer⟩ nofun]
    exact gone .fromPeer
  refine ⟨fun d => ?_, fun chain out => ?_⟩
  · cases d with
    | fromPeer => exact input.trans (first.chain_eq none)
    | toPeer =>
      have rest := second.chain_eq (gone .toPeer)
      rwa [output] at rest
  · exact (second.elsewhere chain (out .toPeer)).trans (first.elsewhere chain (out .fromPeer))

end Table

/-! ### Tools that work -/

namespace Tool

theorem Works.not_slips {tool : Tool} (works : tool.Works) (i : Invocation) (u : Use) : ¬ u.Slips tool i := by
  rintro ⟨same, possible, failed⟩
  rw [same] at failed
  exact failed (works.does _ i _ possible)

theorem Works.zero {tool : Tool} (works : tool.Works) {elevated : Bool} {r : Rule} {p : Posix.Program} {s t : Site}
    {n : Nat} {new : List Use} (h : Ended tool elevated r p s n t new) : n = 0 := by
  by_contra failed
  obtain ⟨i, u, -, slips⟩ := h.failed failed
  exact works.not_slips i u slips

end Tool

section works
variable {tool : Tool} {peer : String}

theorem exits_block (works : tool.Works) (named : IsWord peer) (elevated : Bool) (s : Site) :
    ∃ t, Exits tool.utilities (Script.block elevated peer).text s 0 t ∧ s.table.Blocked peer t.table := by
  obtain ⟨n, m, new, first, -, made⟩ := ensure_ended works.toHonest elevated ⟨peer, .fromPeer⟩ s
  obtain ⟨n', t, new', second, -, made'⟩ := ensure_ended works.toHonest elevated ⟨peer, .toPeer⟩ m
  obtain rfl := works.zero first
  obtain rfl := works.zero second
  refine ⟨t, exits_halves (Task.read_text (t := ⟨.block, peer, elevated⟩) named) first second, ?_⟩
  rw [made' fun i u _ => works.not_slips i u, made fun i u _ => works.not_slips i u]
  exact Table.blocked_ensured peer s.table

theorem exits_unblock (works : tool.Works) (named : IsWord peer) (elevated : Bool) (s : Site) :
    ∃ t, Exits tool.utilities (Script.unblock elevated peer).text s 0 t ∧ s.table.Unblocked peer t.table := by
  obtain ⟨n, m, new, first, left⟩ := remove_ended works.toHonest elevated ⟨peer, .fromPeer⟩ s
  obtain ⟨n', t, new', second, left'⟩ := remove_ended works.toHonest elevated ⟨peer, .toPeer⟩ m
  obtain rfl := works.zero first
  obtain rfl := works.zero second
  refine ⟨t, exits_halves (Task.read_text (t := ⟨.unblock, peer, elevated⟩) named) first second, ?_⟩
  refine Table.unblocked_of_around first.around second.around fun d has => ?_
  cases d with
  | fromPeer =>
    have has := (second.around.has_iff ⟨peer, .fromPeer⟩ nofun).mp has
    obtain ⟨u, -, slips⟩ := (left rfl).mp has
    exact works.not_slips _ u slips
  | toPeer =>
    obtain ⟨u, -, slips⟩ := (left' rfl).mp has
    exact works.not_slips _ u slips

/-- **The scripts block and unblock one peer, and do so once and for all.**  With a tool that works, whatever the
table, the shell that is given the script to block a peer exits with zero, and puts a copy of either rule on top
where there is none; given the script again, it changes nothing.  Given the script to unblock the peer, be it
blocked before or not, it exits with zero, and takes out every copy of the two rules.  No other rule comes or
goes, in particular none without the tag and none of another peer. -/
theorem scripts_block_and_unblock (works : tool.Works) (named : IsWord peer) (elevated : Bool) (s : Site) :
    let block := (Script.block elevated peer).text
    let unblock := (Script.unblock elevated peer).text
    ∃ t u, Exits tool.utilities block s 0 t ∧ s.table.Blocked peer t.table ∧
      (∃ t', Exits tool.utilities block t 0 t' ∧ t'.table = t.table) ∧
      Exits tool.utilities unblock s 0 u ∧ s.table.Unblocked peer u.table ∧
      (∃ u', Exits tool.utilities unblock t 0 u' ∧ u'.table = u.table) ∧
      ∀ rule, (tag ∉ rule ∨ ∃ other ≠ peer, ∃ d, rule = Rule.spec ⟨other, d⟩) → ∀ chain,
        (t.table chain).count rule = (s.table chain).count rule ∧
        (u.table chain).count rule = (s.table chain).count rule := by
  intro block unblock
  obtain ⟨t, blocks, blocked⟩ := exits_block works named elevated s
  obtain ⟨t', blocks', blocked'⟩ := exits_block works named elevated t
  obtain ⟨u, unblocks, unblocked⟩ := exits_unblock works named elevated s
  obtain ⟨u', unblocks', unblocked'⟩ := exits_unblock works named elevated t
  refine ⟨t, u, blocks, blocked, ⟨t', blocks', blocked.again blocked'⟩, unblocks, unblocked,
    ⟨u', unblocks', blocked.of_unblocked unblocked unblocked'⟩, fun rule foreign chain => ?_⟩
  exact ⟨blocked.count_eq (Table.ne_spec foreign) chain, unblocked.count_eq (Table.ne_spec foreign) chain⟩

end works

/-- The tool as it should be; of some copies it deletes the topmost one. -/
def Tool.ideal : Tool := fun _ args t =>
  match args with
  | "-C" :: chain :: spec => if spec ∈ t chain then (0, t) else (1, t)
  | "-I" :: chain :: spec => (0, Function.update t chain (spec :: t chain))
  | "-D" :: chain :: spec =>
    if spec ∈ t chain then (0, Function.update t chain ((t chain).erase spec)) else (1, t)
  | "-S" :: _ => (0, t)
  | _ => (2, t)

/-- The ideal tool does as told where it can, and else does nothing. -/
theorem Tool.ideal_cases (n : Nat) (i : Invocation) (t : Table) :
    (i.Possible t ∧ (ideal n i.arguments t).1 = 0 ∧ i.Effect t (ideal n i.arguments t).2) ∨
      (¬ i.Possible t ∧ (ideal n i.arguments t).1 ≠ 0 ∧ (ideal n i.arguments t).2 = t) := by
  obtain ⟨elevated, action, r⟩ := i
  cases action with
  | insert | list => exact .inl ⟨trivial, rfl, rfl⟩
  | check =>
    by_cases has : t.Has r
    · have told : ideal n (Invocation.arguments ⟨elevated, .check, r⟩) t = (0, t) := if_pos has
      exact .inl ⟨has, by rw [told], by rw [told]; rfl⟩
    · have told : ideal n (Invocation.arguments ⟨elevated, .check, r⟩) t = (1, t) := if_neg has
      exact .inr ⟨has, by rw [told]; exact Nat.one_ne_zero, by rw [told]⟩
  | delete =>
    by_cases has : t.Has r
    · have told : ideal n (Invocation.arguments ⟨elevated, .delete, r⟩) t =
          (0, Function.update t r.direction.chain ((t r.direction.chain).erase r.spec)) := if_pos has
      obtain ⟨before, after, -, split, erased⟩ := List.exists_erase_eq has
      exact .inl ⟨has, by rw [told], before, after, split, by rw [told, erased]⟩
    · have told : ideal n (Invocation.arguments ⟨elevated, .delete, r⟩) t = (1, t) := if_neg has
      exact .inr ⟨has, by rw [told]; exact Nat.one_ne_zero, by rw [told]⟩

theorem Tool.works_ideal : ideal.Works where
  did n i t well := by
    rcases ideal_cases n i t with ⟨possible, -, effect⟩ | ⟨-, failed, -⟩
    · exact ⟨possible, effect⟩
    · exact absurd well failed
  kept n i t failed := by
    rcases ideal_cases n i t with ⟨-, well, -⟩ | ⟨-, -, kept⟩
    · exact absurd well failed
    · exact kept
  does n i t possible := by
    rcases ideal_cases n i t with ⟨-, well, -⟩ | ⟨impossible, -⟩
    · exact well
    · exact absurd possible impossible

/-- A firewall with two copies of the rule against the packets from a peer, and rules that look like it: one
without the tag, and one against another peer. -/
def crowded : Site where
  table chain := if chain = "INPUT" then
    [Rule.spec ⟨"10.0.0.2", .fromPeer⟩, ["-s", "10.0.0.2", "-j", "DROP"], Rule.spec ⟨"10.0.0.22", .fromPeer⟩,
      Rule.spec ⟨"10.0.0.2", .fromPeer⟩] else []
  uses := []

/-- The two copies go, and the rules that look like them stay. -/
theorem scripts_block_and_unblock_crowded :
    ∃ u, Exits Tool.ideal.utilities (Script.unblock true "10.0.0.2").text crowded 0 u ∧
      u.table "INPUT" = [["-s", "10.0.0.2", "-j", "DROP"], Rule.spec ⟨"10.0.0.22", .fromPeer⟩] := by
  have named : IsWord "10.0.0.2" := by decide
  obtain ⟨t, u, -, -, -, unblocks, unblocked, -⟩ :=
    scripts_block_and_unblock Tool.works_ideal named true crowded
  exact ⟨u, unblocks, (unblocked.chains .fromPeer).trans (by decide)⟩

/-! ### Tools that may fail -/

section honest
variable {tool : Tool} {peer : String}

/-- To block a peer comes to an end, and if it succeeds both rules are in place. -/
theorem block_ends (honest : tool.Honest) (named : IsWord peer) (elevated : Bool) (s : Site) :
    ∃ n t, Exits tool.utilities (Script.block elevated peer).text s n t ∧
      (n = 0 → ∀ d, t.table.Has ⟨peer, d⟩) := by
  obtain ⟨n, m, new, first, has, -⟩ := ensure_ended honest elevated ⟨peer, .fromPeer⟩ s
  obtain ⟨n', t, new', second, has', -⟩ := ensure_ended honest elevated ⟨peer, .toPeer⟩ m
  have exits := exits_halves (Task.read_text (t := ⟨.block, peer, elevated⟩) named) first second
  by_cases well : n = 0
  · rw [if_pos well, if_pos well] at exits
    refine ⟨n', t, exits, fun zero d => ?_⟩
    cases d with
    | fromPeer => exact (second.around.has_iff ⟨peer, .fromPeer⟩ nofun).mpr (has well)
    | toPeer => exact has' zero
  · rw [if_neg well, if_neg well] at exits
    exact ⟨n, m, exits, fun zero => absurd zero well⟩

/-- To unblock a peer comes to an end, and if it succeeds it leaves a rule in place exactly if a check of this
rule slipped. -/
theorem unblock_ends (honest : tool.Honest) (named : IsWord peer) (elevated : Bool) (s : Site) :
    ∃ n t, Exits tool.utilities (Script.unblock elevated peer).text s n t ∧
      (n = 0 → ∃ new, t.uses = s.uses ++ new ∧
        ∀ d, t.table.Has ⟨peer, d⟩ ↔ ∃ u ∈ new, u.Slips tool ⟨elevated, .check, peer, d⟩) := by
  obtain ⟨n, m, new, first, left⟩ := remove_ended honest elevated ⟨peer, .fromPeer⟩ s
  obtain ⟨n', t, new', second, left'⟩ := remove_ended honest elevated ⟨peer, .toPeer⟩ m
  have exits := exits_halves (Task.read_text (t := ⟨.unblock, peer, elevated⟩) named) first second
  by_cases well : n = 0
  · rw [if_pos well, if_pos well] at exits
    have whole : t.uses = s.uses ++ (new ++ new') := by rw [second.uses, first.uses, List.append_assoc]
    refine ⟨n', t, exits, fun zero => ⟨new ++ new', whole, fun d => ?_⟩⟩
    simp only [List.mem_append, or_and_right, exists_or]
    -- the uses of the other half are about the other rule
    cases d with
    | fromPeer =>
      have apart := second.about.not_slips tool ⟨peer, .fromPeer⟩ nofun
      rw [second.around.has_iff ⟨peer, .fromPeer⟩ nofun, left well]
      exact ⟨.inl, fun slips => slips.resolve_right fun ⟨u, hu, slips⟩ => apart u hu slips⟩
    | toPeer =>
      have apart := first.about.not_slips tool ⟨peer, .toPeer⟩ nofun
      rw [left' zero]
      exact ⟨.inr, fun slips => slips.resolve_left fun ⟨u, hu, slips⟩ => apart u hu slips⟩
  · rw [if_neg well, if_neg well] at exits
    exact ⟨n, m, exits, fun zero => absurd zero well⟩

/-- **How far a zero exit can be trusted.**  With an honest tool, of which any use may fail, the shell that is
given one of the scripts exits.  If it was to block a peer and exits with zero, both rules are in place.  If it
was to unblock a peer and exits with zero, a rule is left in place exactly if a check of this very rule slipped:
the loop takes the failure for the answer that there is no such rule. -/
theorem zero_exit_but_for_slips (honest : tool.Honest) (named : IsWord peer) (elevated : Bool) (s : Site) :
    (∃ n t, Exits tool.utilities (Script.block elevated peer).text s n t) ∧
    (∀ t, Exits tool.utilities (Script.block elevated peer).text s 0 t → ∀ d, t.table.Has ⟨peer, d⟩) ∧
    (∃ n t, Exits tool.utilities (Script.unblock elevated peer).text s n t) ∧
    ∀ t, Exits tool.utilities (Script.unblock elevated peer).text s 0 t →
      ∃ new, t.uses = s.uses ++ new ∧
        ∀ d, t.table.Has ⟨peer, d⟩ ↔ ∃ u ∈ new, u.Slips tool ⟨elevated, .check, peer, d⟩ := by
  obtain ⟨n, t, blocks, inPlace⟩ := block_ends honest named elevated s
  obtain ⟨n', t', unblocks, left⟩ := unblock_ends honest named elevated s
  refine ⟨⟨n, t, blocks⟩, fun z zero => ?_, ⟨n', t', unblocks⟩, fun z zero => ?_⟩
  · obtain ⟨rfl, rfl⟩ := blocks.unique zero
    exact inPlace rfl
  · obtain ⟨rfl, rfl⟩ := unblocks.unique zero
    exact left rfl

end honest

/-- The ideal tool, of which the uses with some numbers fail. -/
def Tool.failing (fails : Nat → Bool) : Tool := fun n args t => if fails n then (4, t) else ideal n args t

theorem Tool.honest_failing (fails : Nat → Bool) : (failing fails).Honest where
  did n i t well := by
    unfold failing at well ⊢
    split at well
    · cases well
    · rename_i stays
      rw [if_neg stays]
      exact works_ideal.did n i t well
  kept n i t failed := by
    unfold failing at failed ⊢
    split
    · rfl
    · rename_i stays
      rw [if_neg stays] at failed
      exact works_ideal.kept n i t failed

/-- A firewall with the rule against the packets from a peer. -/
def blockedOnce : Site where
  table chain := if chain = "INPUT" then [Rule.spec ⟨"10.0.0.2", .fromPeer⟩] else []
  uses := []

/-- The shell exits with zero when the second use of the tool fails, which is the first check. -/
theorem exits_unblock_failing : ∃ t,
    Exits (Tool.failing (· == 1)).utilities (Script.unblock false "10.0.0.2").text blockedOnce 0 t ∧
      t.table.Has ⟨"10.0.0.2", .fromPeer⟩ := by
  have read := Task.read_text (t := ⟨.unblock, "10.0.0.2", false⟩) (by decide)
  refine ⟨_, ⟨_, false, read, .pass (.group (.pass (.simple _ _) rfl (.past (.simple _ _) rfl))) rfl
    (.group (.pass (.simple _ _) rfl (.past (.simple _ _) rfl)))⟩, ?_⟩
  decide

/-- Both rules are in place after a block that exits with zero; and the one rule that an unblock leaves, which
exits with zero, is left because a check of it slipped. -/
theorem zero_exit_but_for_slips_second :
    (∀ t, Exits (Tool.failing (· == 1)).utilities (Script.block false "10.0.0.2").text blockedOnce 0 t →
      t.table.Has ⟨"10.0.0.2", .toPeer⟩) ∧
    ∃ t, Exits (Tool.failing (· == 1)).utilities (Script.unblock false "10.0.0.2").text blockedOnce 0 t ∧
      ∃ u ∈ t.uses, u.Slips (Tool.failing (· == 1)) ⟨false, .check, "10.0.0.2", .fromPeer⟩ := by
  have named : IsWord "10.0.0.2" := by decide
  obtain ⟨-, blocks, -, unblocks⟩ :=
    zero_exit_but_for_slips (Tool.honest_failing (· == 1)) named false blockedOnce
  obtain ⟨t, zero, has⟩ := exits_unblock_failing
  obtain ⟨new, uses, left⟩ := unblocks t zero
  obtain ⟨u, hu, slips⟩ := (left .fromPeer).mp has
  refine ⟨fun t zero => blocks t zero .toPeer, t, zero, u, ?_, slips⟩
  rw [uses]
  exact List.mem_append_right _ hu

/-- A check that fails makes an unblock exit with zero and leave the rule in place. -/
theorem zero_exit_leaves_rule :
    ∃ tool : Tool, tool.Honest ∧ IsWord "10.0.0.2" ∧
      ∃ t, Exits tool.utilities (Script.unblock false "10.0.0.2").text blockedOnce 0 t ∧
        t.table.Has ⟨"10.0.0.2", .fromPeer⟩ :=
  ⟨Tool.failing (· == 1), Tool.honest_failing _, by decide, exits_unblock_failing⟩

end FaultLab.Firewall
