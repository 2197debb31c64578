/-! # A small shell

The part of the shell's command language in which the scripts of this library are written: simple commands,
whose output may be thrown away, joined by `&&`, `||` and `;`, loops with `while`, and groups in parentheses.  A
text beyond that, with quotes, expansions, pipes or other redirections, is not read.

`tokens?` cuts a text into words and signs.  A word is a text of which it makes one word, itself (`isWord_iff`),
and a text that is put together from words and signs is cut into them, whatever comes after it (`CutInto`).

`read?` makes a program of the tokens; the lines that it is in the middle of are on a stack (`Reader`).  Whether
tokens are read as a command or as commands joined in a line (`Reader.Commands`, `Reader.Lists`) goes from the
parts of a program to the whole.

`Runs` is what a program does, given what the utilities do, which may depend on a state of any kind and change
it.  A program ends in one way at most (`Runs.unique`), and so does the shell that is given a text
(`Exits.unique`). -/

namespace FaultLab.Posix

/-! ### Tokens -/

/-- What stands between two commands. -/
inductive Connective where
  /-- `&&`: the second if the first succeeds. -/
  | both
  /-- `||`: the second if the first fails. -/
  | either
  /-- `;`: one after the other. -/
  | next
deriving DecidableEq

/-- A word or a sign. -/
inductive Token where
  | word (text : String)
  | join (c : Connective)
  | opening
  | closing
  /-- `>`, with the number of a file before it or not. -/
  | output
deriving DecidableEq

/-- The characters that end a word, or that are not themselves in one. -/
def specials : List Char :=
  ['|', '&', ';', '<', '>', '(', ')', '$', '*', '?', '[', ' ', '\t', '\n', '"', '\\', Char.ofNat 0,
    Char.ofNat 39, Char.ofNat 96]

/-- The characters that are not themselves at the beginning of a word. -/
def specialsAtFirst : List Char := ['#', '~']

/-- Whether a character goes on with a word. -/
def goesOn (word : List Char) (c : Char) : Bool :=
  !specials.contains c && !(word.isEmpty && specialsAtFirst.contains c)

/-- The word that was read, if there is any. -/
def flush (word : List Char) : List Token := if word.isEmpty then [] else [.word (String.ofList word)]

/-- The word before `>`, unless it is the number of a file. -/
def flushNumber (word : List Char) : List Token := if word.all Char.isDigit then [] else flush word

/-- The tokens of a text, in the middle of a word. -/
def tokensFrom (word : List Char) : List Char → Option (List Token)
  | [] => some (flush word)
  | c :: cs =>
    if goesOn word c then tokensFrom (word ++ [c]) cs
    else match c, cs with
      | ' ', cs => (tokensFrom [] cs).map (flush word ++ ·)
      | ';', cs => (tokensFrom [] cs).map (flush word ++ .join .next :: ·)
      | '&', '&' :: cs => (tokensFrom [] cs).map (flush word ++ .join .both :: ·)
      | '|', '|' :: cs => (tokensFrom [] cs).map (flush word ++ .join .either :: ·)
      | '(', cs => (tokensFrom [] cs).map (flush word ++ .opening :: ·)
      | ')', cs => (tokensFrom [] cs).map (flush word ++ .closing :: ·)
      | '>', cs => (tokensFrom [] cs).map (flushNumber word ++ .output :: ·)
      | _, _ => none

section equations
variable {word cs : List Char} {c : Char}

theorem tokensFrom_cons (goes : goesOn word c = true) :
    tokensFrom word (c :: cs) = tokensFrom (word ++ [c]) cs := by
  rw [tokensFrom.eq_def]
  exact if_pos goes

theorem not_goesOn (h : c ∈ specials) : ¬ goesOn word c = true := by simp [goesOn, h]

theorem tokensFrom_sign (word cs : List Char) :
    tokensFrom word (' ' :: cs) = (tokensFrom [] cs).map (flush word ++ ·) ∧
    tokensFrom word (';' :: cs) = (tokensFrom [] cs).map (flush word ++ .join .next :: ·) ∧
    tokensFrom word ('&' :: '&' :: cs) = (tokensFrom [] cs).map (flush word ++ .join .both :: ·) ∧
    tokensFrom word ('|' :: '|' :: cs) = (tokensFrom [] cs).map (flush word ++ .join .either :: ·) ∧
    tokensFrom word ('(' :: cs) = (tokensFrom [] cs).map (flush word ++ .opening :: ·) ∧
    tokensFrom word (')' :: cs) = (tokensFrom [] cs).map (flush word ++ .closing :: ·) ∧
    tokensFrom word ('>' :: cs) = (tokensFrom [] cs).map (flushNumber word ++ .output :: ·) := by
  refine ⟨?_, ?_, ?_, ?_, ?_, ?_, ?_⟩
  all_goals
    rw [tokensFrom.eq_def]
    exact if_neg (not_goesOn (by decide))

end equations

/-- The tokens of a text. -/
def tokens? (text : String) : Option (List Token) := tokensFrom [] text.toList

section words
variable {w : String} {ws : List String} {word cs ds r : List Char} {ts us : List Token}

/-- A text that the shell takes for one word, which stands for nothing but itself. -/
def IsWord (w : String) : Prop :=
  w ≠ "" ∧ (∀ c ∈ w.toList.head?, c ∉ specialsAtFirst) ∧ ∀ c ∈ w.toList, c ∉ specials

-- the characters of the text are looked at, not all that there are
instance (w : String) : Decidable (IsWord w) :=
  decidable_of_decidable_of_iff (p := (w != "" && w.toList.head?.all (!specialsAtFirst.contains ·) &&
    w.toList.all (!specials.contains ·)) = true) (by simp [IsWord, Option.all_eq_true, and_assoc])

/-- What may come after a word. -/
def Stops (r : List Char) : Prop := ∀ c ∈ r.head?, c = ' ' ∨ c = ';'

theorem stops_nil : Stops [] := by simp [Stops]

theorem stops_blank (r : List Char) : Stops (' ' :: r) := by simp [Stops]

/-- A text that is cut into some tokens, whatever comes after it. -/
def CutInto (cs : List Char) (ts : List Token) : Prop :=
  ∀ r, Stops r → tokensFrom [] (cs ++ r) = (tokensFrom [] r).map (ts ++ ·)

theorem tokensFrom_stops (h : Stops r) : tokensFrom word r = (tokensFrom [] r).map (flush word ++ ·) := by
  have nothing : flush [] = [] := rfl
  cases r with
  | nil => simp [tokensFrom, nothing]
  | cons c r => rcases h c rfl with rfl | rfl <;> simp [tokensFrom_sign, nothing, Function.comp_def]

theorem tokensFrom_middle (some : word ≠ []) (plain : ∀ c ∈ cs, c ∉ specials) :
    tokensFrom word (cs ++ r) = tokensFrom (word ++ cs) r := by
  induction cs generalizing word with
  | nil => rw [List.append_nil, List.nil_append]
  | cons c cs ih =>
    have goes : goesOn word c = true := by simp [goesOn, some, plain c]
    rw [List.cons_append, tokensFrom_cons goes, ih (by simp) fun x hx => plain x (List.mem_cons_of_mem c hx),
      List.append_assoc, List.singleton_append]

theorem IsWord.cutInto (h : IsWord w) : CutInto w.toList [.word w] := by
  intro r stops
  obtain ⟨some, first, plain⟩ := h
  have whole : flush w.toList = [.word w] := by
    rw [flush, String.ofList_toList, if_neg (by simpa using some)]
  rw [← whole, ← tokensFrom_stops stops]
  cases hw : w.toList with
  | nil => rfl
  | cons c cs =>
    rw [hw] at first plain
    have goes : goesOn [] c = true := by simp [goesOn, plain c, first c rfl]
    rw [List.cons_append, tokensFrom_cons goes,
      tokensFrom_middle (by simp) fun x hx => plain x (List.mem_cons_of_mem c hx)]
    rfl

/-- After a text come others that begin with what may come after a word. -/
theorem CutInto.append (h : CutInto cs ts) (h' : CutInto ds us) (stops : ∀ r, Stops r → Stops (ds ++ r)) :
    CutInto (cs ++ ds) (ts ++ us) := by
  intro r hr
  rw [List.append_assoc, h _ (stops r hr), h' r hr, Option.map_map]
  simp [Function.comp_def]

theorem CutInto.blank (h : CutInto cs ts) : CutInto (' ' :: cs) ts := by
  intro r hr
  rw [List.cons_append, (tokensFrom_sign _ _).1, h r hr, Option.map_map]
  rfl

theorem cutInto_words (some : ws ≠ []) (plain : ∀ w ∈ ws, IsWord w) :
    CutInto (String.intercalate " " ws).toList (ws.map .word) := by
  rw [String.toList_intercalate]
  induction ws with
  | nil => exact absurd rfl some
  | cons w ws ih =>
    have first := (plain w List.mem_cons_self).cutInto
    cases ws with
    | nil => simpa [List.intercalate] using first
    | cons w' ws =>
      have rest := ih (List.cons_ne_nil w' ws) fun x hx => plain x (List.mem_cons_of_mem w hx)
      have both := first.append rest.blank fun r _ => stops_blank _
      simpa [List.intercalate] using both

theorem CutInto.join (h : CutInto cs ts) (h' : CutInto ds us) :
    CutInto (cs ++ " && ".toList ++ ds) (ts ++ .join .both :: us) ∧
    CutInto (cs ++ " || ".toList ++ ds) (ts ++ .join .either :: us) ∧
    CutInto (cs ++ "; ".toList ++ ds) (ts ++ .join .next :: us) := by
  have nothing : flush [] = [] := rfl
  simp only [List.append_assoc]
  refine ⟨?_, ?_, ?_⟩
  all_goals
    refine h.append (fun r hr => ?_) (fun r _ => by simp [Stops])
    simp [tokensFrom_sign, nothing, h' r hr, Function.comp_def]

theorem CutInto.group (h : CutInto cs ts) :
    CutInto ("( ".toList ++ cs ++ " )".toList) (.opening :: ts ++ [.closing]) := by
  intro r hr
  have nothing : flush [] = [] := rfl
  simp [tokensFrom_sign, nothing, h _ (stops_blank _), Function.comp_def]

theorem toList_of_mem_flush (h : Token.word w ∈ flush word) : w.toList = word := by
  unfold flush at h
  split at h
  · cases h
  · obtain rfl := Token.word.inj (List.mem_singleton.mp h)
    exact String.toList_ofList

/-- A word is no longer than the text that it is from. -/
theorem length_le_of_mem (h : tokensFrom word cs = some ts) (hw : .word w ∈ ts) :
    w.toList.length ≤ word.length + cs.length := by
  fun_induction tokensFrom word cs generalizing ts with
  | case1 word =>
    cases h
    rw [toList_of_mem_flush hw]
    exact Nat.le_add_right ..
  | case2 word c cs goes ih =>
    have short := ih h hw
    simp only [List.length_append, List.length_cons, List.length_nil] at short ⊢
    omega
  | case10 => cases h
  | case9 word cs ends ih =>
    obtain ⟨ts, rest, rfl⟩ := Option.map_eq_some_iff.mp h
    simp only [List.mem_append, List.mem_cons, reduceCtorEq, false_or] at hw
    rcases hw with here | later
    · have here : Token.word w ∈ flush word := by
        unfold flushNumber at here
        split at here
        · cases here
        · exact here
      rw [toList_of_mem_flush here]
      exact Nat.le_add_right ..
    · have short := ih rest later
      simp only [List.length_cons, List.length_nil] at short ⊢
      omega
  | case3 word cs ends ih | case4 word cs ends ih | case5 word cs ends ih | case6 word cs ends ih
  | case7 word cs ends ih | case8 word cs ends ih =>
    obtain ⟨ts, rest, rfl⟩ := Option.map_eq_some_iff.mp h
    simp only [List.mem_append, List.mem_cons, reduceCtorEq, false_or] at hw
    rcases hw with here | later
    · rw [toList_of_mem_flush here]
      exact Nat.le_add_right ..
    · have short := ih rest later
      simp only [List.length_cons, List.length_nil] at short ⊢
      omega

/-- A text that is cut into one word, itself, has no other characters than such as go on with a word. -/
theorem plain_of_tokensFrom (h : tokensFrom word cs = some [.word (String.ofList (word ++ cs))]) :
    (word = [] → ∀ c ∈ cs.head?, c ∉ specialsAtFirst) ∧ ∀ c ∈ cs, c ∉ specials := by
  fun_induction tokensFrom word cs with
  | case1 => exact ⟨nofun, nofun⟩
  | case2 word c cs goes ih =>
    have plain : c ∉ specials ∧ (word ≠ [] ∨ c ∉ specialsAtFirst) := by simpa [goesOn] using goes
    have rest : ∀ c ∈ cs, c ∉ specials := (ih (by rw [h, List.append_assoc, List.singleton_append])).2
    refine ⟨fun first x hx => ?_, List.forall_mem_cons.mpr ⟨plain.1, rest⟩⟩
    obtain rfl : c = x := Option.some.inj hx
    exact plain.2.resolve_left (not_not_intro first)
  | case3 word cs ends =>
    -- the word is in what is cut already or in what is not, and is too long for both
    obtain ⟨ts, rest, whole⟩ := Option.map_eq_some_iff.mp h
    have there : Token.word (String.ofList (word ++ ' ' :: cs)) ∈ flush word ++ ts :=
      whole ▸ List.mem_singleton_self _
    rcases List.mem_append.mp there with here | later
    · have size := congrArg List.length (toList_of_mem_flush here)
      simp at size
    · have size := length_le_of_mem rest later
      simp only [String.toList_ofList, List.length_append, List.length_cons, List.length_nil] at size
      omega
  | case10 => cases h
  | case4 | case5 | case6 | case7 | case8 | case9 =>
    -- a sign is no word
    obtain ⟨ts, -, whole⟩ := Option.map_eq_some_iff.mp h
    have there := whole ▸ List.mem_append_right _ List.mem_cons_self
    simp at there

/-- A word is what the shell takes for one word, itself. -/
theorem isWord_iff : IsWord w ↔ tokens? w = some [.word w] := by
  constructor
  · intro h
    have cut := h.cutInto [] stops_nil
    rwa [List.append_nil] at cut
  · intro h
    have whole : tokensFrom [] w.toList = some [.word (String.ofList ([] ++ w.toList))] := by
      rw [List.nil_append, String.ofList_toList]
      exact h
    obtain ⟨first, plain⟩ := plain_of_tokensFrom whole
    refine ⟨?_, first rfl, plain⟩
    rintro rfl
    cases h

end words

/-! ### Programs -/

/-- What a text says to do. -/
inductive Program where
  /-- Call a utility. -/
  | simple (words : List String)
  /-- Leave the shell with a status. -/
  | exit (status : Nat)
  | join (c : Connective) (first second : Program)
  /-- The body as long as the test succeeds; `last` is the status of the body so far. -/
  | whilst (last : Nat) (test body : Program)
  /-- In a shell of its own. -/
  | group (inner : Program)
deriving DecidableEq

/-- The words that are not the beginning of a simple command: those of the grammar. -/
def reserved : List String :=
  ["!", "\x7b", "\x7d", "case", "do", "done", "elif", "else", "esac", "fi", "for", "if", "in", "then",
    "until", "while"]

/-- The utilities of the shell itself that go beyond their status. -/
def special : List String :=
  [".", ":", "alias", "bg", "break", "cd", "command", "continue", "eval", "exec", "exit", "export", "fc",
    "fg", "getopts", "hash", "jobs", "kill", "read", "readonly", "return", "set", "shift", "times", "trap",
    "type", "ulimit", "umask", "unalias", "unset", "wait"]

/-- The status that some digits write. -/
def status? (text : String) : Option Nat :=
  let n := Nat.ofDigitChars 10 text.toList 0
  if text ≠ "" ∧ text.toList.all Char.isDigit ∧ n < 256 then some n else none

/-- The simple command of some words; an assignment is none. -/
def command? : List String → Option Program
  | ["exit", n] => (status? n).map .exit
  | name :: args =>
    if special.contains name || name.toList.contains '=' then none else some (.simple (name :: args))
  | [] => none

/-! ### Reading -/

/-- The command that is being read. -/
inductive Piece where
  /-- It has not begun. -/
  | blank
  | words (ws : List String)
  /-- It is a simple command after whose `>` the file has to follow. -/
  | target (ws : List String)
  /-- It is a loop or a group, and complete. -/
  | whole (p : Program)
deriving DecidableEq

/-- A command that may end here. -/
def Piece.program? : Piece → Option Program
  | words ws => command? ws
  | whole p => some p
  | _ => none

/-- What stands in a line before the present command: all up to the last `;`, and what is joined to the
command by `&&` or `||`. -/
structure Line where
  before : Option Program := none
  left : Option (Connective × Program) := none
deriving DecidableEq

namespace Line

/-- Join a command to what is on its left. -/
def joined (l : Line) (p : Program) : Program :=
  match l.left with
  | none => p
  | some (c, a) => .join c a p

/-- The line up to a command. -/
def upTo (l : Line) (p : Program) : Program :=
  match l.before with
  | none => l.joined p
  | some b => .join .next b (l.joined p)

end Line

/-- What a line is part of. -/
inductive Opening where
  | group
  | test
  | body (test : Program)
deriving DecidableEq

/-- A reader in the middle of a text: the present command, the line before it, and the lines that this one is
within. -/
structure Reader where
  piece : Piece := .blank
  line : Line := {}
  outer : List (Opening × Line) := []
deriving DecidableEq

namespace Reader

/-- Read the first word of a command. -/
def begin (r : Reader) (w : String) : Option Reader :=
  match w, r.line, r.outer with
  | "while", line, outer => some ⟨.blank, {}, (.test, line) :: outer⟩
  | "do", ⟨some t, none⟩, (.test, line) :: outer => some ⟨.blank, {}, (.body t, line) :: outer⟩
  | "done", ⟨some b, none⟩, (.body t, line) :: outer => some ⟨.whole (.whilst 0 t b), line, outer⟩
  | w, line, outer => if reserved.contains w then none else some ⟨.words [w], line, outer⟩

/-- Read a token. -/
def step (r : Reader) : Token → Option Reader
  | .word w =>
    match r.piece with
    | .blank => r.begin w
    | .words ws => some { r with piece := .words (ws ++ [w]) }
    | .target ws => if w = "/dev/null" then some { r with piece := .words ws } else none
    | .whole _ => none
  | .output =>
    match r.piece with
    | .words ws => some { r with piece := .target ws }
    | _ => none
  | .opening =>
    match r.piece with
    | .blank => some ⟨.blank, {}, (.group, r.line) :: r.outer⟩
    | _ => none
  | .closing =>
    match r.piece.program?, r.outer with
    | some p, (.group, line) :: outer => some ⟨.whole (.group (r.line.upTo p)), line, outer⟩
    | _, _ => none
  | .join .next => r.piece.program?.map fun p => ⟨.blank, ⟨some (r.line.upTo p), none⟩, r.outer⟩
  | .join c => r.piece.program?.map fun p => ⟨.blank, ⟨r.line.before, some (c, r.line.joined p)⟩, r.outer⟩

/-- Read some tokens. -/
def steps (r : Reader) (ts : List Token) : Option Reader := ts.foldlM step r

/-- The program that was read, if the text may end here. -/
def finish (r : Reader) : Option Program :=
  match r.outer with
  | [] => r.piece.program?.map r.line.upTo
  | _ => none

theorem steps_append (r : Reader) (ts us : List Token) :
    r.steps (ts ++ us) = r.steps ts >>= fun r' => r'.steps us := List.foldlM_append

theorem steps_cons (r : Reader) (t : Token) (ts : List Token) :
    r.steps (t :: ts) = r.step t >>= fun r' => r'.steps ts := List.foldlM_cons

end Reader

/-- The program that a text is. -/
def read? (text : String) : Option Program := do
  let ts ← tokens? text
  let r ← Reader.steps {} ts
  r.finish

/-! ### What is read -/

namespace Reader
variable {ts us : List Token} {p q : Program}

/-- Whatever line they are in, tokens are read as a command. -/
def Commands (ts : List Token) (p : Program) : Prop :=
  ∀ line outer, ∃ piece, steps ⟨.blank, line, outer⟩ ts = some ⟨piece, line, outer⟩ ∧ piece.program? = some p

/-- At the beginning of a line and after `;`, tokens are read as commands joined by `&&` and `||`. -/
def Lists (ts : List Token) (p : Program) : Prop :=
  ∀ before outer, ∃ piece left q, steps ⟨.blank, ⟨before, none⟩, outer⟩ ts =
    some ⟨piece, ⟨before, left⟩, outer⟩ ∧ piece.program? = some q ∧ Line.joined ⟨before, left⟩ q = p

theorem Commands.lists (h : Commands ts p) : Lists ts p := by
  intro before outer
  obtain ⟨piece, read, complete⟩ := h ⟨before, none⟩ outer
  exact ⟨piece, none, p, read, complete, rfl⟩

theorem steps_words (ws : List String) {line : Line} {outer : List (Opening × Line)} (us : List String) :
    steps ⟨.words ws, line, outer⟩ (us.map .word) = some ⟨.words (ws ++ us), line, outer⟩ := by
  induction us generalizing ws with
  | nil => rw [List.append_nil]; rfl
  | cons u us ih =>
    rw [List.map_cons, steps_cons]
    exact (ih (ws ++ [u])).trans (by rw [List.append_assoc, List.singleton_append])

section simple
variable {name : String} {args : List String}

theorem steps_simple
    (first : ∀ line outer, begin ⟨.blank, line, outer⟩ name = some ⟨.words [name], line, outer⟩)
    (line : Line) (outer : List (Opening × Line)) :
    steps ⟨.blank, line, outer⟩ ((name :: args).map .word) = some ⟨.words (name :: args), line, outer⟩ := by
  rw [List.map_cons, steps_cons]
  change begin ⟨.blank, line, outer⟩ name >>= _ = _
  rw [first]
  exact steps_words [name] args

theorem commands_words
    (first : ∀ line outer, begin ⟨.blank, line, outer⟩ name = some ⟨.words [name], line, outer⟩)
    (command : command? (name :: args) = some p) : Commands ((name :: args).map .word) p :=
  fun line outer => ⟨.words (name :: args), steps_simple first line outer, command⟩

theorem commands_silent
    (first : ∀ line outer, begin ⟨.blank, line, outer⟩ name = some ⟨.words [name], line, outer⟩)
    (command : command? (name :: args) = some p) :
    Commands ((name :: args).map .word ++ [.output, .word "/dev/null"]) p := by
  refine fun line outer => ⟨.words (name :: args), ?_, command⟩
  rw [steps_append, steps_simple first]
  rfl

end simple

theorem Lists.join {c : Connective} (h : Lists ts p) (h' : Commands us q) (operator : c ≠ .next) :
    Lists (ts ++ .join c :: us) (.join c p q) := by
  intro before outer
  obtain ⟨piece, left, a, read, complete, rfl⟩ := h before outer
  obtain ⟨piece', read', complete'⟩ := h' ⟨before, some (c, Line.joined ⟨before, left⟩ a)⟩ outer
  refine ⟨piece', some (c, Line.joined ⟨before, left⟩ a), q, ?_, complete', rfl⟩
  have sign : step ⟨piece, ⟨before, left⟩, outer⟩ (.join c) =
      some ⟨.blank, ⟨before, some (c, Line.joined ⟨before, left⟩ a)⟩, outer⟩ := by
    cases c with
    | next => exact absurd rfl operator
    | both | either => simp [step, complete]
  rw [steps_append, read, Option.bind_eq_bind, Option.bind_some, steps_cons, sign]
  exact read'

/-- At the beginning of a line tokens are read as all that stands in it. -/
theorem Lists.line (h : Lists ts p) (outer : List (Opening × Line)) :
    ∃ piece line q, steps ⟨.blank, {}, outer⟩ ts = some ⟨piece, line, outer⟩ ∧ piece.program? = some q ∧
      line.upTo q = p := by
  obtain ⟨piece, left, q, read, complete, whole⟩ := h none outer
  exact ⟨piece, ⟨none, left⟩, q, read, complete, whole⟩

theorem Lists.group (h : Lists ts p) : Commands (.opening :: ts ++ [.closing]) (.group p) := by
  refine fun line outer => ⟨.whole (.group p), ?_, rfl⟩
  obtain ⟨piece, inner, q, read, complete, rfl⟩ := h.line ((.group, line) :: outer)
  rw [List.cons_append, steps_cons]
  change steps ⟨.blank, {}, (.group, line) :: outer⟩ (ts ++ [.closing]) = _
  rw [steps_append, read]
  simp [steps, step, complete]

theorem Lists.ended (h : Lists ts p) (outer : List (Opening × Line)) :
    steps ⟨.blank, {}, outer⟩ (ts ++ [.join .next]) = some ⟨.blank, ⟨some p, none⟩, outer⟩ := by
  obtain ⟨piece, line, q, read, complete, rfl⟩ := h.line outer
  rw [steps_append, read]
  simp [steps, step, complete]

theorem Lists.whilst (h : Lists ts p) (h' : Lists us q) :
    Commands (.word "while" :: (ts ++ .join .next :: .word "do" :: (us ++ .join .next :: [.word "done"])))
      (.whilst 0 p q) := by
  intro line outer
  refine ⟨.whole (.whilst 0 p q), ?_, rfl⟩
  have apart : ts ++ Token.join .next :: .word "do" :: (us ++ .join .next :: [.word "done"]) =
      (ts ++ [.join .next]) ++ .word "do" :: ((us ++ [.join .next]) ++ [.word "done"]) := by simp
  rw [steps_cons, apart]
  change steps ⟨.blank, {}, (.test, line) :: outer⟩ _ = _
  rw [steps_append, h.ended]
  change steps ⟨.blank, {}, (.body p, line) :: outer⟩ _ = _
  rw [steps_append, h'.ended]
  rfl

theorem Lists.read? {text : String} (h : Lists ts p) (cut : tokens? text = some ts) : read? text = some p := by
  obtain ⟨piece, line, q, read, complete, rfl⟩ := h.line []
  unfold Posix.read?
  rw [cut]
  change steps ⟨.blank, {}, []⟩ ts >>= finish = _
  rw [read]
  simp [finish, complete]

example : Posix.read? "( a -x || exit 1 ) && while b 2>/dev/null; do c; done" =
    some (.join .both (.group (.join .either (.simple ["a", "-x"]) (.exit 1)))
      (.whilst 0 (.simple ["b"]) (.simple ["c"]))) := by cbv

end Reader

/-! ### Running -/

/-- What utilities do: the status of a call, and what becomes of the state. -/
abbrev Utilities (σ : Type) := List String → σ → Nat × σ

/-- How a program ends: with a status, and leaving the shell or not. -/
structure Ending where
  status : Nat
  leaves : Bool
deriving DecidableEq

/-- Whether the second of two programs is run after the first. -/
def Connective.passes (c : Connective) (e : Ending) : Bool :=
  !e.leaves && match c with
    | both => e.status = 0
    | either => e.status ≠ 0
    | next => true

theorem Connective.passes_either {n : Nat} (failed : n ≠ 0) : either.passes ⟨n, false⟩ = true := by
  simp [passes, failed]

theorem Connective.not_passes_both {n : Nat} (failed : n ≠ 0) : both.passes ⟨n, false⟩ = false := by
  simp [passes, failed]

/-- What a program does.  The body of a loop is run after its test as by `&&`. -/
inductive Runs {σ : Type} (u : Utilities σ) : Program → σ → Ending → σ → Prop
  | simple (ws : List String) (s : σ) : Runs u (.simple ws) s ⟨(u ws s).1, false⟩ (u ws s).2
  | exit (n : Nat) (s : σ) : Runs u (.exit n) s ⟨n, true⟩ s
  | stop {c a b s e t} (first : Runs u a s e t) (stops : c.passes e = false) : Runs u (.join c a b) s e t
  | pass {c a b s x m e t} (first : Runs u a s x m) (passes : c.passes x = true)
    (second : Runs u b m e t) : Runs u (.join c a b) s e t
  | past {last test body s x t} (fails : Runs u test s x t) (ends : Connective.both.passes x = false) :
    Runs u (.whilst last test body) s (if x.leaves then x else ⟨last, false⟩) t
  | left {last test body s x m e t} (holds : Runs u test s x m) (goes : Connective.both.passes x = true)
    (ran : Runs u body m e t) (leaves : e.leaves = true) : Runs u (.whilst last test body) s e t
  | again {last test body s x m y k e t} (holds : Runs u test s x m) (goes : Connective.both.passes x = true)
    (ran : Runs u body m y k) (stays : y.leaves = false)
    (rest : Runs u (.whilst y.status test body) k e t) : Runs u (.whilst last test body) s e t
  | group {a s e t} (ran : Runs u a s e t) : Runs u (.group a) s ⟨e.status, false⟩ t

variable {σ : Type} {u : Utilities σ} {p : Program} {s t t' : σ} {e e' : Ending}

/-- A program ends in one way. -/
theorem Runs.unique (h : Runs u p s e t) (h' : Runs u p s e' t') : e = e' ∧ t = t' := by
  induction h generalizing e' t' with
  | simple | exit =>
    cases h'
    exact ⟨rfl, rfl⟩
  | stop first stops ih =>
    cases h' with
    | stop first' => exact ih first'
    | pass first' passes =>
      obtain ⟨rfl, -⟩ := ih first'
      exact absurd (stops.symm.trans passes) nofun
  | pass first passes second ih ih' =>
    cases h' with
    | stop first' stops =>
      obtain ⟨rfl, -⟩ := ih first'
      exact absurd (stops.symm.trans passes) nofun
    | pass first' _ second' =>
      obtain ⟨rfl, rfl⟩ := ih first'
      exact ih' second'
  | past fails ends ih =>
    cases h' with
    | past fails' =>
      obtain ⟨rfl, rfl⟩ := ih fails'
      exact ⟨rfl, rfl⟩
    | left holds goes | again holds goes =>
      obtain ⟨rfl, -⟩ := ih holds
      exact absurd (ends.symm.trans goes) nofun
  | left holds goes ran leaves ih ih' =>
    cases h' with
    | past fails ends =>
      obtain ⟨rfl, -⟩ := ih fails
      exact absurd (ends.symm.trans goes) nofun
    | left holds' _ ran' =>
      obtain ⟨rfl, rfl⟩ := ih holds'
      exact ih' ran'
    | again holds' _ ran' stays =>
      obtain ⟨rfl, rfl⟩ := ih holds'
      obtain ⟨rfl, -⟩ := ih' ran'
      exact absurd (stays.symm.trans leaves) nofun
  | again holds goes ran stays rest ih ih' ih'' =>
    cases h' with
    | past fails ends =>
      obtain ⟨rfl, -⟩ := ih fails
      exact absurd (ends.symm.trans goes) nofun
    | left holds' _ ran' leaves =>
      obtain ⟨rfl, rfl⟩ := ih holds'
      obtain ⟨rfl, -⟩ := ih' ran'
      exact absurd (stays.symm.trans leaves) nofun
    | again holds' _ ran' _ rest' =>
      obtain ⟨rfl, rfl⟩ := ih holds'
      obtain ⟨rfl, rfl⟩ := ih' ran'
      exact ih'' rest'
  | group ran ih =>
    cases h' with
    | group ran' =>
      obtain ⟨rfl, rfl⟩ := ih ran'
      exact ⟨rfl, rfl⟩

/-- The shell that is given a text ends with a status, and leaves a state. -/
def Exits (u : Utilities σ) (text : String) (s : σ) (status : Nat) (t : σ) : Prop :=
  ∃ p leaves, read? text = some p ∧ Runs u p s ⟨status, leaves⟩ t

/-- The shell ends in one way. -/
theorem Exits.unique {text : String} {n n' : Nat} (h : Exits u text s n t) (h' : Exits u text s n' t') :
    n = n' ∧ t = t' := by
  obtain ⟨p, _, read, ran⟩ := h
  obtain ⟨p', _, read', ran'⟩ := h'
  obtain rfl : p = p' := Option.some.inj (read.symm.trans read')
  obtain ⟨same, rfl⟩ := ran.unique ran'
  exact ⟨congrArg Ending.status same, rfl⟩

end FaultLab.Posix
