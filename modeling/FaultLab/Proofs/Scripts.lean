import FaultLab.Proofs.Shells
import FaultLab.Proofs.Walls

/-! # How the shell reads firewall scripts

The text of a `Script` is cut into its tokens (`Script.cutInto_tokens`), provided that the shell takes the names
of its peers for words, and the tokens are read as its program (`Script.lists_tokens`), provided that the text
groups the script as it is.  Both hold of the scripts of tasks (`Task.read_text`). -/

namespace FaultLab

namespace Firewall
open Posix (Token IsWord CutInto)

/-! ### Tokens -/

namespace Invocation

/-- The command line of the tool in its words. -/
def commandWords (i : Invocation) : List String :=
  (if i.elevated then ["sudo", "iptables"] else ["iptables"]) ++ i.arguments

theorem commandLine_eq (i : Invocation) : i.commandLine = String.intercalate " " i.commandWords := rfl

/-- The words that stand in command lines besides the names of peers. -/
def vocabulary : List String :=
  ["sudo", "iptables", "-C", "-I", "-D", "-S", "INPUT", "OUTPUT", "-s", "-d", "-m", "comment", "--comment", tag,
    "-j", "DROP"]

theorem mem_commandWords {i : Invocation} : ∀ w ∈ i.commandWords, w = i.rule.peer ∨ w ∈ vocabulary := by
  obtain ⟨elevated, action, peer, d⟩ := i
  cases elevated <;> cases action <;> cases d <;>
    simp [commandWords, arguments, Rule.words, Direction.chain, Direction.peerOption, vocabulary]

theorem isWord_commandWords {i : Invocation} (named : IsWord i.rule.peer) : ∀ w ∈ i.commandWords, IsWord w := by
  have fixed : ∀ w ∈ vocabulary, IsWord w := by decide
  intro w hw
  rcases mem_commandWords w hw with rfl | known
  · exact named
  · exact fixed w known

end Invocation

/-- The tokens that have what the tool says thrown away. -/
def silenceTokens : Action → List Token
  | .check | .list => [.output, .word "/dev/null"]
  | _ => []

theorem cutInto_silence (a : Action) : CutInto (Script.silence a).toList (silenceTokens a) := by
  have file : CutInto "/dev/null".toList [.word "/dev/null"] := Posix.IsWord.cutInto (by decide)
  have nothing : Posix.flush [] = [] := rfl
  have number : Posix.flushNumber [] = [] ∧ Posix.flushNumber ['2'] = [] := by decide
  have goes : Posix.goesOn [] '2' = true := by decide
  intro r hr
  cases a with
  | check =>
    change Posix.tokensFrom [] (' ' :: '2' :: '>' :: ("/dev/null".toList ++ r)) = _
    generalize "/dev/null".toList = name at file ⊢
    simp [silenceTokens, Posix.tokensFrom_sign, Posix.tokensFrom_cons goes, nothing, number, file r hr,
      Function.comp_def]
  | list =>
    change Posix.tokensFrom [] (' ' :: '>' :: ("/dev/null".toList ++ r)) = _
    generalize "/dev/null".toList = name at file ⊢
    simp [silenceTokens, Posix.tokensFrom_sign, nothing, number, file r hr, Function.comp_def]
  | insert | delete => simp [Script.silence, silenceTokens]

namespace Script

/-- The tokens of a script. -/
def tokens : Script → List Token
  | use i => i.commandWords.map .word ++ silenceTokens i.action
  | both a b => a.tokens ++ .join .both :: b.tokens
  | either a b => a.tokens ++ .join .either :: b.tokens
  | whilst t b =>
    .word "while" :: (t.tokens ++ .join .next :: .word "do" :: (b.tokens ++ .join .next :: [.word "done"]))
  | giveUp => [.word "exit", .word "1"]
  | group a => .opening :: a.tokens ++ [.closing]

/-- A script is cut into its tokens if its peers are words. -/
theorem cutInto_tokens {s : Script} (named : ∀ i ∈ s.uses, IsWord i.rule.peer) :
    CutInto s.text.toList s.tokens := by
  induction s with
  | use i =>
    have words := Invocation.isWord_commandWords (named i (List.mem_singleton_self i))
    have line := Posix.cutInto_words (by unfold Invocation.commandWords; split <;> simp) words
    rw [text, String.toList_append, Invocation.commandLine_eq]
    refine line.append (cutInto_silence i.action) fun r hr => ?_
    cases i.action with
    | check | list => exact Posix.stops_blank _
    | insert | delete => exact hr
  | both a b iha ihb =>
    have joined := (iha fun i hi => named i (List.mem_append_left _ hi)).join
      (ihb fun i hi => named i (List.mem_append_right _ hi))
    simpa only [text, String.toList_append, tokens] using joined.1
  | either a b iha ihb =>
    have joined := (iha fun i hi => named i (List.mem_append_left _ hi)).join
      (ihb fun i hi => named i (List.mem_append_right _ hi))
    simpa only [text, String.toList_append, tokens] using joined.2.1
  | whilst t b iht ihb =>
    have test := iht fun i hi => named i (List.mem_append_left _ hi)
    have body := ihb fun i hi => named i (List.mem_append_right _ hi)
    have fixed : ∀ w ∈ ["while", "do", "done"], IsWord w := by decide
    have first := (fixed "while" (by simp)).cutInto.append test.blank fun r _ => Posix.stops_blank _
    have second := (fixed "do" (by simp)).cutInto.append body.blank fun r _ => Posix.stops_blank _
    have whole := (first.join (second.join (fixed "done" (by simp)).cutInto).2.2).2.2
    simpa [text, tokens, String.toList_append] using whole
  | giveUp =>
    have fixed : ∀ w ∈ ["exit", "1"], IsWord w := by decide
    have line : String.intercalate " " ["exit", "1"] = "exit 1" := rfl
    have cut := Posix.cutInto_words (List.cons_ne_nil _ _) fixed
    rwa [line] at cut
  | group a ih =>
    simpa only [text, String.toList_append, tokens] using (ih named).group

/-! ### Programs -/

/-- The program of a script. -/
def program : Script → Posix.Program
  | use i => .simple i.commandWords
  | both a b => .join .both a.program b.program
  | either a b => .join .either a.program b.program
  | whilst t b => .whilst 0 t.program b.program
  | giveUp => .exit 1
  | group a => .group a.program

/-- A script that is one command. -/
def IsCommand : Script → Prop
  | both _ _ | either _ _ => False
  | _ => True

/-- A script whose text groups it as it is: `&&` and `||` join a command to what is on its left. -/
def Regular : Script → Prop
  | both a b | either a b => a.Regular ∧ b.Regular ∧ b.IsCommand
  | whilst t b => t.Regular ∧ b.Regular
  | group a => a.Regular
  | _ => True

open Posix (Reader) in
/-- The tokens of a script are read as its program. -/
theorem lists_tokens {s : Script} (h : s.Regular) :
    Reader.Lists s.tokens s.program ∧ (s.IsCommand → Reader.Commands s.tokens s.program) := by
  induction s with
  | use i =>
    have command : Reader.Commands (use i).tokens (use i).program := by
      obtain ⟨elevated, action, rule⟩ := i
      cases elevated <;> cases action
      case false.check | false.list | true.check | true.list =>
        exact Reader.commands_silent (fun _ _ => rfl) rfl
      all_goals
        change Reader.Commands (_ ++ []) _
        rw [List.append_nil]
        exact Reader.commands_words (fun _ _ => rfl) rfl
    exact ⟨command.lists, fun _ => command⟩
  | both a b iha ihb =>
    obtain ⟨first, second, command⟩ := h
    exact ⟨(iha first).1.join ((ihb second).2 command) nofun, nofun⟩
  | either a b iha ihb =>
    obtain ⟨first, second, command⟩ := h
    exact ⟨(iha first).1.join ((ihb second).2 command) nofun, nofun⟩
  | whilst t b iht ihb =>
    have command := (iht h.1).1.whilst (ihb h.2).1
    exact ⟨command.lists, fun _ => command⟩
  | giveUp =>
    have leaves : Posix.command? ["exit", "1"] = some (.exit 1) := rfl
    have command := Reader.commands_words (fun _ _ => rfl) leaves
    exact ⟨command.lists, fun _ => command⟩
  | group a ih =>
    have command := (ih h).1.group
    exact ⟨command.lists, fun _ => command⟩

theorem read_text {s : Script} (regular : s.Regular) (named : ∀ i ∈ s.uses, IsWord i.rule.peer) :
    Posix.read? s.text = some s.program := by
  refine (lists_tokens regular).1.read? ?_
  have cut := cutInto_tokens named [] Posix.stops_nil
  simpa [Posix.tokens?, Posix.tokensFrom, Posix.flush] using cut

end Script

namespace Task
variable {t : Task}

theorem regular_script (t : Task) : t.script.Regular := by
  obtain ⟨change, peer, elevated⟩ := t
  cases change <;>
    simp [script, Script.block, Script.unblock, Script.ensure, Script.remove, Script.Regular, Script.IsCommand]

theorem read_text (named : IsWord t.peer) : Posix.read? t.script.text = some t.script.program :=
  t.script.read_text t.regular_script fun _ hi => peer_of_mem_uses _ hi ▸ named

end Task

end Firewall

end FaultLab
