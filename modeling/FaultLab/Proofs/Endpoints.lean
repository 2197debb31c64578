import Mathlib.Logic.Function.Defs
import FaultLab.Failure
import FaultLab.Json.Reader

/-! # How endpoints are written

A text `Spells` an endpoint if it is a host that is not empty, a colon and a port.  The host may have colons
of its own.  The port is digits, as many as one likes, after a plus sign or not, with a value of sixteen bits.

`Text.splitLast` finds the last occurrence of a character (`splitLast_eq_some`), and `Endpoint.parsePort?`
reads what writes a port and nothing else (`parsePort?_eq_some`).  So an endpoint is read from the texts that
spell one, and a text spells what it is made of (`reads_what_is_spelled`). -/

namespace FaultLab

namespace Text
variable {c : Char} {cs front back : List Char}

theorem splitLast_eq_none : splitLast c cs = none ↔ c ∉ cs := by
  induction cs with
  | nil => simp [splitLast]
  | cons x xs ih =>
    unfold splitLast
    split
    · rename_i found
      have present : c ∈ xs := by
        refine Decidable.byContradiction fun absent => ?_
        rw [ih.mpr absent] at found
        cases found
      simp [present]
    · rename_i none
      have absent := ih.mp none
      by_cases here : x = c
      · simp [here]
      · simp [absent, here, Ne.symm here]

/-- A text is split at the last occurrence. -/
theorem splitLast_eq_some : splitLast c cs = some (front, back) ↔ cs = front ++ c :: back ∧ c ∉ back := by
  induction cs generalizing front with
  | nil => simp [splitLast]
  | cons x xs ih =>
    unfold splitLast
    cases front with
    | nil =>
      split
      · rename_i found
        refine iff_of_false (by simp) ?_
        rintro ⟨same, absent⟩
        obtain ⟨-, rfl⟩ := List.cons.inj same
        rw [splitLast_eq_none.mpr absent] at found
        cases found
      · rename_i none
        have absent := splitLast_eq_none.mp none
        constructor
        · intro h
          split at h
          · rename_i here
            cases h
            exact ⟨by rw [here, List.nil_append], absent⟩
          · cases h
        · rintro ⟨same, -⟩
          obtain ⟨rfl, rfl⟩ := List.cons.inj same
          exact if_pos rfl
    | cons y front =>
      split
      · rename_i a b found
        constructor
        · intro h
          cases h
          obtain ⟨rfl, absent⟩ := ih.mp found
          exact ⟨rfl, absent⟩
        · rintro ⟨same, absent⟩
          obtain ⟨rfl, rest⟩ := List.cons.inj same
          have := found.symm.trans (ih.mpr ⟨rest, absent⟩)
          cases this
          rfl
      · rename_i none
        refine iff_of_false ?_ ?_
        · split <;> simp
        · rintro ⟨same, -⟩
          obtain ⟨-, rest⟩ := List.cons.inj same
          exact splitLast_eq_none.mp none (rest ▸ by simp)

theorem toString_inj {m n : Nat} : toString m = toString n ↔ m = n := by
  refine ⟨fun same => ?_, congrArg toString⟩
  have digits : Nat.toDigits 10 m = Nat.toDigits 10 n := by
    apply String.ofList_injective
    rw [← Nat.repr_eq_ofList_toDigits, ← Nat.repr_eq_ofList_toDigits]
    exact same
  rw [← Nat.ofDigitChars_ten_toDigits (n := m), digits, Nat.ofDigitChars_ten_toDigits]

end Text

namespace Endpoint

/-! ### Ports -/

/-- Digits that write a number, after a plus sign or not. -/
def WritesPort (port : UInt16) (cs : List Char) : Prop :=
  ∃ digits, (cs = digits ∨ cs = '+' :: digits) ∧ digits ≠ [] ∧ (∀ c ∈ digits, '0' ≤ c ∧ c ≤ '9') ∧
    Nat.ofDigitChars 10 digits 0 = port.toNat

theorem digitsValue_eq (cs : List Char) : digitsValue cs = Nat.ofDigitChars 10 cs 0 := by
  unfold digitsValue Nat.ofDigitChars
  congr 1
  funext n c
  have : '0'.toNat = 48 := rfl
  rw [this, Nat.mul_comm]

theorem isDigit_iff {c : Char} : c.isDigit = true ↔ '0' ≤ c ∧ c ≤ '9' := by
  simp [Char.isDigit, Char.le_def]

theorem read_digits {digits : List Char} {port : UInt16} :
    (if !digits.isEmpty ∧ digits.all Char.isDigit ∧ digitsValue digits < 65536 then
      some (UInt16.ofNat (digitsValue digits)) else none) = some port ↔
    digits ≠ [] ∧ (∀ c ∈ digits, '0' ≤ c ∧ c ≤ '9') ∧ Nat.ofDigitChars 10 digits 0 = port.toNat := by
  simp only [digitsValue_eq, ← isDigit_iff]
  constructor
  · intro h
    split at h
    · rename_i proper
      obtain ⟨some, digits, small⟩ := proper
      cases h
      refine ⟨by simpa using some, by simpa using digits, ?_⟩
      rw [UInt16.toNat_ofNat_of_lt' small]
    · cases h
  · rintro ⟨some, digits, value⟩
    have small := port.toNat_lt
    rw [value, if_pos ⟨by simpa using some, by simpa using digits, by omega⟩, UInt16.ofNat_toNat]

theorem parsePort?_eq_some {cs : List Char} {port : UInt16} :
    parsePort? cs = some port ↔ WritesPort port cs := by
  have plus : ¬ ('0' ≤ '+' ∧ '+' ≤ '9') := by decide
  unfold parsePort? WritesPort
  split
  · rename_i digits
    rw [read_digits]
    constructor
    · intro h
      exact ⟨digits, .inr rfl, h⟩
    · rintro ⟨_, rfl | same, some, all, value⟩
      · exact absurd (all '+' (List.mem_cons_self ..)) plus
      · cases same
        exact ⟨some, all, value⟩
  · rename_i unsigned
    simp only [read_digits]
    constructor
    · intro h
      exact ⟨cs, .inl rfl, h⟩
    · rintro ⟨digits, rfl | rfl, h⟩
      · exact h
      · exact absurd rfl (unsigned digits)

theorem WritesPort.no_colon {cs : List Char} {port : UInt16} (h : WritesPort port cs) : ':' ∉ cs := by
  obtain ⟨digits, sign, -, all, -⟩ := h
  have absent : ':' ∉ digits := fun here => absurd (all ':' here) (by decide)
  rcases sign with rfl | rfl
  · exact absent
  · simpa using absent

theorem writesPort_toDigits (port : UInt16) : WritesPort port (Nat.toDigits 10 port.toNat) := by
  refine ⟨_, .inl rfl, Nat.toDigits_ne_nil, fun c hc => ?_, ?_⟩
  · exact isDigit_iff.mp (Nat.isDigit_of_mem_toDigits (by omega) (by omega) hc)
  · exact Nat.ofDigitChars_toDigits (by omega) (by omega)

/-! ### Texts -/

/-- A text that is a host, a colon and a port. -/
def Spells (text host : String) (port : UInt16) : Prop :=
  host ≠ "" ∧ ∃ back : String, text = host ++ ":" ++ back ∧ ':' ∉ back.toList ∧ WritesPort port back.toList

variable {text host : String} {port : UInt16}

theorem split?_eq_some {cs front : List Char} :
    split? cs = some (front, port) ↔
      front ≠ [] ∧ ∃ back, cs = front ++ ':' :: back ∧ ':' ∉ back ∧ WritesPort port back := by
  unfold split?
  constructor
  · intro h
    obtain ⟨⟨front', back⟩, found, rest⟩ := Option.bind_eq_some_iff.mp h
    obtain ⟨rfl, absent⟩ := Text.splitLast_eq_some.mp found
    dsimp only at rest
    split at rest
    · cases rest
    · rename_i some
      obtain ⟨port', read, made⟩ := Option.bind_eq_some_iff.mp rest
      cases made
      exact ⟨by simpa using some, back, rfl, absent, parsePort?_eq_some.mp read⟩
  · rintro ⟨some, back, rfl, absent, writes⟩
    rw [Text.splitLast_eq_some.mpr ⟨rfl, absent⟩]
    simp [some, parsePort?_eq_some.mpr writes]

theorem spells_iff_split? : Spells text host port ↔ split? text.toList = some (host.toList, port) := by
  have empty : host.toList ≠ [] ↔ host ≠ "" := by simp
  rw [split?_eq_some, empty, Spells]
  refine and_congr_right fun _ => ⟨?_, ?_⟩
  · rintro ⟨back, rfl, rest⟩
    exact ⟨back.toList, by simp, rest⟩
  · rintro ⟨back, same, rest⟩
    refine ⟨String.ofList back, ?_, by simpa using rest⟩
    apply String.toList_injective
    simp [same]

/-- The endpoints that are read from a text. -/
theorem parse?_eq_some {e : Endpoint} :
    parse? text = some e ↔ e = ⟨text⟩ ∧ ∃ host port, Spells text host port := by
  unfold parse?
  rw [Option.map_eq_some_iff]
  constructor
  · rintro ⟨⟨front, port⟩, split, rfl⟩
    exact ⟨rfl, String.ofList front, port, spells_iff_split?.mpr (by simpa using split)⟩
  · rintro ⟨rfl, host, port, h⟩
    exact ⟨_, spells_iff_split?.mp h, rfl⟩

theorem parse?_eq_none : parse? text = none ↔ ¬ ∃ host port, Spells text host port := by
  rw [Option.eq_none_iff_forall_not_mem]
  constructor
  · intro none spelled
    exact none ⟨text⟩ (parse?_eq_some.mpr ⟨rfl, spelled⟩)
  · intro none e he
    exact none (parse?_eq_some.mp he).2

theorem Spells.host_eq (h : Spells text host port) : (⟨text⟩ : Endpoint).host = host := by
  obtain ⟨-, back, rfl, absent, -⟩ := h
  have found : Text.splitLast ':' (host ++ ":" ++ back).toList = some (host.toList, back.toList) :=
    Text.splitLast_eq_some.mpr ⟨by simp, absent⟩
  simp only [Endpoint.host, found, String.ofList_toList]

theorem Spells.port_eq (h : Spells text host port) : (⟨text⟩ : Endpoint).port = port := by
  obtain ⟨-, back, rfl, absent, writes⟩ := h
  have found : Text.splitLast ':' (host ++ ":" ++ back).toList = some (host.toList, back.toList) :=
    Text.splitLast_eq_some.mpr ⟨by simp, absent⟩
  simp only [Endpoint.port, found, parsePort?_eq_some.mpr writes, Option.getD_some]

theorem text_ofParts (host : String) (port : UInt16) :
    (ofParts host port).text = host ++ ":" ++ String.ofList (Nat.toDigits 10 port.toNat) := by
  rw [ofParts, ← Nat.repr_eq_ofList_toDigits]
  rfl

theorem spells_ofParts (some : host ≠ "") (port : UInt16) :
    Spells (ofParts host port).text host port := by
  have writes := writesPort_toDigits port
  exact ⟨some, _, text_ofParts host port, by simpa using writes.no_colon, by simpa using writes⟩

theorem ofParts_injective : Function.Injective fun p : String × UInt16 => ofParts p.1 p.2 := by
  rintro ⟨host, port⟩ ⟨host', port'⟩ same
  have split : ∀ (host : String) (port : UInt16), Text.splitLast ':' (ofParts host port).text.toList =
      some (host.toList, Nat.toDigits 10 port.toNat) := by
    intro host port
    exact Text.splitLast_eq_some.mpr ⟨by simp [text_ofParts], (writesPort_toDigits port).no_colon⟩
  have parts := split host port
  rw [show ofParts host port = ofParts host' port' from same, split] at parts
  obtain ⟨hosts, digits⟩ := Prod.mk.inj (Option.some.inj parts)
  have ports : port.toNat = port'.toNat := by
    rw [← Nat.ofDigitChars_ten_toDigits (n := port.toNat), ← digits, Nat.ofDigitChars_ten_toDigits]
  rw [String.toList_injective hosts, UInt16.toNat_inj.mp ports]

theorem check_eq_ok {e : Endpoint} : check text = .ok e ↔ parse? text = some e := by
  unfold check
  cases parse? text <;> simp

theorem check_eq_error {cause : DataError} :
    check text = .error cause ↔ parse? text = none ∧ cause = .badEndpoint text := by
  unfold check
  cases parse? text <;> simp [eq_comm]

theorem decode_json {document : String} (read : Json.read document = (.text text, true)) :
    Json.decode decode document = ofText text := by
  unfold Json.decode
  rw [read]
  change (ofText text >>= fun e => Except.ok e) = ofText text
  cases ofText text <;> rfl

/-- A text is read as an endpoint exactly if it is a host, a colon and a port, and then it is kept and these
are its host and port; any other text is named in the complaint.  A text in a document is read in the same
way.  What is made of a host and a port is spelled by its text, and made of nothing else. -/
theorem reads_what_is_spelled :
    (∀ text e, check text = .ok e ↔ e.text = text ∧ ∃ host port, Spells text host port) ∧
    (∀ text host port, Spells text host port →
      (⟨text⟩ : Endpoint).host = host ∧ (⟨text⟩ : Endpoint).port = port) ∧
    (∀ text, (¬ ∃ host port, Spells text host port) → check text = .error (.badEndpoint text)) ∧
    (∀ document text, Json.read document = (.text text, true) →
      (∀ e, Json.decode decode document = .ok e ↔ check text = .ok e) ∧
      (∀ cause, check text = .error cause →
        Json.decode decode document = .error (.mismatch (.invalidEndpoint text)))) ∧
    (∀ host port, host ≠ "" → check (ofParts host port).text = .ok (ofParts host port) ∧
      (ofParts host port).host = host ∧ (ofParts host port).port = port) ∧
    Function.Injective fun p : String × UInt16 => ofParts p.1 p.2 := by
  refine ⟨fun text e => ?_, fun text host port h => ⟨h.host_eq, h.port_eq⟩, fun text none => ?_,
    fun document text read => ⟨fun e => ?_, fun cause bad => ?_⟩, fun host port some => ?_,
    ofParts_injective⟩
  · rw [check_eq_ok, parse?_eq_some]
    refine and_congr_left fun _ => ⟨fun same => same ▸ rfl, fun same => Endpoint.ext same⟩
  · exact check_eq_error.mpr ⟨parse?_eq_none.mpr none, rfl⟩
  · rw [decode_json read, check_eq_ok, ofText]
    cases parse? text <;> simp
  · rw [decode_json read, ofText, (check_eq_error.mp bad).1]
  · have spelled := spells_ofParts some port
    exact ⟨check_eq_ok.mpr (parse?_eq_some.mpr ⟨rfl, host, port, spelled⟩), spelled.host_eq,
      spelled.port_eq⟩

/-- A host with colons of its own, and a port with a sign and leading zeros. -/
theorem reads_what_is_spelled_bracketed :
    check "[fe80::1]:+0080" = .ok ⟨"[fe80::1]:+0080"⟩ ∧
      (⟨"[fe80::1]:+0080"⟩ : Endpoint).host = "[fe80::1]" ∧
      (⟨"[fe80::1]:+0080"⟩ : Endpoint).port = 80 ∧
      (ofParts "[fe80::1]" 80).host = "[fe80::1]" := by
  have spelled : Spells "[fe80::1]:+0080" "[fe80::1]" 80 := by
    have digits : "0080".toList.all Char.isDigit = true := by decide
    exact ⟨by decide, "+0080", by decide, by decide, "0080".toList, .inr (by decide), by decide,
      fun c hc => isDigit_iff.mp (List.all_eq_true.mp digits c hc), by decide⟩
  have parts := reads_what_is_spelled.2.1 _ _ _ spelled
  exact ⟨(reads_what_is_spelled.1 _ _).mpr ⟨rfl, _, _, spelled⟩, parts.1, parts.2,
    (reads_what_is_spelled.2.2.2.2.1 "[fe80::1]" 80 (by decide)).2.1⟩

end Endpoint

end FaultLab
