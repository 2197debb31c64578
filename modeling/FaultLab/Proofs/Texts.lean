import FaultLab.Json.Reader
import FaultLab.Json.Writer

/-! # Texts that are read as they were written

`Json.write` and `Json.read` are inverse on the documents that JSON can say in full (`Json.Plain`):
no fractions, integers of sixty-four bits, names for all entries, and nothing broken off.

The reader goes on with what follows a value, so each lemma is about a written part with any text
after it that cannot belong to it: digits end where no digit follows (`number_toDigits`), strings
at their quote (`pieces_flatMap`), and a value where the text is over or goes on with a comma or a
bracket (`Json.Ends`, `Plain.readable`).  The fuel of the reader is more than the length of the text,
which is what the induction on the document needs.

The result is `Json.decode_write`: a value is read from a written text as from the document. -/

namespace FaultLab.Json

/-- Whether JSON can say a document in full. -/
inductive Plain : Document → Prop
  | null : Plain .null
  | bool (value : Bool) : Plain (.bool value)
  | natural (n : Nat) (small : n ≤ maxUnsigned) : Plain (.integer n)
  | text (value : String) : Plain (.text value)
  | list {items : List Document} (each : ∀ d ∈ items, Plain d) : Plain (.list items true)
  | table {entries : List (Option String × Document)} (named : ∀ p ∈ entries, p.1.isSome = true)
    (each : ∀ p ∈ entries, Plain p.2) : Plain (.table entries true)

theorem Plain.intact {d : Document} (h : Plain d) : d.intact = true := by
  cases h <;> rfl

/-! ### Digits -/

section digits
variable {acc k n : Nat} {ds r : List Char}

/-- Whether a text cannot go on a number. -/
def NoDigit (r : List Char) : Prop := ∀ c ∈ r.head?, c.isDigit = false

theorem takeDigits_of_noDigit (h : NoDigit r) : takeDigits acc k r = (acc, k, r) := by
  cases r with
  | nil => rfl
  | cons c r =>
    have stops : c.isDigit = false := h c rfl
    simp [takeDigits, stops]

/-- A significand takes up digits as long as their value has sixty-four bits. -/
theorem takeDigits_append (digits : ∀ c ∈ ds, c.isDigit = true) (stops : NoDigit r)
    (small : Nat.ofDigitChars 10 ds acc ≤ maxUnsigned) :
    takeDigits acc k (ds ++ r) = (Nat.ofDigitChars 10 ds acc, k + ds.length, r) := by
  induction ds generalizing acc k with
  | nil => exact takeDigits_of_noDigit stops
  | cons c ds ih =>
    have digit := digits c List.mem_cons_self
    have zero : '0'.toNat = 48 := rfl
    rw [Nat.ofDigitChars_cons, zero, Nat.mul_comm] at small ⊢
    have grows : acc * 10 + (c.toNat - 48) ≤ Nat.ofDigitChars 10 ds (acc * 10 + (c.toNat - 48)) := by
      rw [Nat.ofDigitChars_eq_ofDigitChars_zero]
      have scale : 0 < 10 ^ ds.length := Nat.pow_pos (by omega)
      have := Nat.le_mul_of_pos_left (acc * 10 + (c.toNat - 48)) scale
      omega
    have fits : acc * 10 + (c.toNat - 48) ≤ maxUnsigned := Nat.le_trans grows small
    rw [List.cons_append, takeDigits, if_pos ⟨digit, fits⟩,
      ih (fun x hx => digits x (List.mem_cons_of_mem c hx)) small, List.length_cons]
    congr 2
    omega

theorem isDigit_of_mem_toDigits {c : Char} (h : c ∈ Nat.toDigits 10 n) : c.isDigit = true :=
  Nat.isDigit_of_mem_toDigits (by omega) (by omega) h

/-- Only zero is written with a zero in front. -/
theorem eq_zero_of_head?_toDigits (h : (Nat.toDigits 10 n).head? = some '0') : n = 0 := by
  induction n using Nat.strongRecOn with
  | ind n ih =>
    rw [Nat.toDigits_eq_if (by omega)] at h
    split at h
    · rename_i small
      have digit : Nat.digitChar n = '0' := Option.some.inj h
      have value := Nat.toNat_digitChar_of_lt_ten small
      rw [digit] at value
      have zero : '0'.toNat = 48 := rfl
      omega
    · rename_i large
      have front : (Nat.toDigits 10 (n / 10)).head? = some '0' := by
        rwa [List.head?_append, Option.or_of_isSome] at h
        exact List.isSome_head?.mpr Nat.toDigits_ne_nil
      have := ih (n / 10) (by omega) front
      omega

theorem number_toDigits (small : n ≤ maxUnsigned) (stops : NoDigit r)
    (whole : ∀ c ∈ r.head?, c ≠ '.' ∧ c ≠ 'e' ∧ c ≠ 'E') :
    number false (Nat.toDigits 10 n ++ r) = (.integer n, r) := by
  have digits : ∀ c ∈ Nat.toDigits 10 n, c.isDigit = true := fun c => isDigit_of_mem_toDigits
  have value : Nat.ofDigitChars 10 (Nat.toDigits 10 n) 0 = n :=
    Nat.ofDigitChars_toDigits (by omega) (by omega)
  have front : (Nat.toDigits 10 n ++ r).takeWhile Char.isDigit = Nat.toDigits 10 n := by
    rw [List.takeWhile_append_of_pos digits]
    cases r with
    | nil => simp
    | cons c r =>
      have : c.isDigit = false := stops c rfl
      simp [this]
  have taken : takeDigits 0 0 (Nat.toDigits 10 n ++ r) = (n, (Nat.toDigits 10 n).length, r) := by
    rw [takeDigits_append digits stops (by rw [value]; exact small), value, Nat.zero_add]
  have proper : ¬ ((Nat.toDigits 10 n).isEmpty = true ∨
      (Nat.toDigits 10 n).head? = some '0' ∧ 1 < (Nat.toDigits 10 n).length) := by
    rintro (empty | ⟨zero, long⟩)
    · exact Nat.toDigits_ne_nil (List.isEmpty_iff.mp empty)
    · rw [eq_zero_of_head?_toDigits zero] at long
      exact absurd long (by decide)
  unfold number
  simp only [front, taken]
  rw [if_neg proper, if_neg (Nat.lt_irrefl _)]
  cases r with
  | nil => rfl
  | cons c r =>
    obtain ⟨point, small, large⟩ := whole c rfl
    split
    · simp_all
    · simp_all
    · simp_all
    · simp

end digits

/-! ### Strings -/

section strings
variable {cs r : List Char} {c : Char} {n : Nat}

theorem hexValue_nibble : ∀ n < 16, hexValue (nibble n) = some n := by decide

theorem hex4_nibbles (small : c.toNat < 0x20) :
    hex4 '0' '0' (nibble (c.toNat / 16)) (nibble c.toNat) = some c.toNat := by
  have high := hexValue_nibble (c.toNat / 16) (by omega)
  have low : hexValue (nibble c.toNat) = some (c.toNat % 16) := by
    have := hexValue_nibble (c.toNat % 16) (Nat.mod_lt _ (by omega))
    rwa [nibble, Nat.mod_mod] at this
  have zero : hexValue '0' = some 0 := rfl
  simp only [hex4, zero, high, low, Option.bind_eq_bind, Option.bind_some, Option.pure_def,
    Option.some.injEq]
  omega

theorem pieces_cons (quote : c ≠ '"') (slash : c ≠ '\\') (shown : ¬ c.toNat < 0x20) :
    pieces (c :: r) = (pieces r).bind fun (ps, r) => some (.char c :: ps, r) := by
  rw [pieces.eq_def]
  split
  · simp_all
  · simp_all
  · simp_all
  · simp_all
  · rename_i same
    obtain ⟨rfl, rfl⟩ := List.cons_eq_cons.mp same
    rw [if_neg (by simp [slash, shown])]
    rfl

theorem pieces_escapeChar (c : Char) (r : List Char) :
    pieces (escapeChar c ++ r) = (pieces r).bind fun (ps, r) => some (.char c :: ps, r) := by
  unfold escapeChar
  split
  · subst c
    rfl
  split
  · subst c
    rfl
  split
  · subst c
    rfl
  split
  · subst c
    rfl
  split
  · subst c
    rfl
  split
  · subst c
    rfl
  split
  · subst c
    rfl
  split
  · rename_i control
    have unit : Piece.ofUnit c.toNat = .char c := by
      rw [Piece.ofUnit, if_neg (by omega), Char.ofNat_toNat]
    simp only [List.cons_append, List.nil_append]
    rw [pieces, hex4_nibbles control, Option.bind_eq_bind, Option.bind_some, unit]
    rfl
  · rename_i quote slash _ _ _ _ _ shown
    exact pieces_cons quote slash shown

theorem pieces_flatMap (cs r : List Char) :
    pieces (cs.flatMap escapeChar ++ '"' :: r) = some (cs.map .char, r) := by
  induction cs with
  | nil => rfl
  | cons c cs ih =>
    rw [List.flatMap_cons, List.append_assoc, pieces_escapeChar, ih]
    rfl

theorem join_map_char (cs : List Char) : join (cs.map .char) = some cs := by
  induction cs with
  | nil => rfl
  | cons c cs ih =>
    rw [List.map_cons, join, ih]
    rfl

/-- A string is read as it was written, up to its closing quote. -/
theorem quoted_writeString (s : String) (r : List Char) :
    quoted ((writeString s).tail ++ r) = some (some s, r) := by
  have body : (writeString s).tail ++ r = s.toList.flatMap escapeChar ++ '"' :: r := by
    simp [writeString]
  rw [quoted, body, pieces_flatMap, Option.map_some]
  simp only [join_map_char, Option.map_some, String.ofList_toList]

end strings

/-! ### Values -/

section values
variable {d : Document} {ds : List Document} {es : List (Option String × Document)} {r : List Char}
  {n : Nat}

/-- Whether a value is over where a text begins. -/
def Ends (r : List Char) : Prop := ∀ c ∈ r.head?, c = ',' ∨ c = ']' ∨ c = '}'

theorem Ends.noDigit (h : Ends r) : NoDigit r := by
  intro c hc
  rcases h c hc with rfl | rfl | rfl <;> rfl

theorem Ends.whole (h : Ends r) : ∀ c ∈ r.head?, c ≠ '.' ∧ c ≠ 'e' ∧ c ≠ 'E' := by
  intro c hc
  rcases h c hc with rfl | rfl | rfl <;> decide

/-- Whether a text can only be a value. -/
def Opens (cs : List Char) : Prop := ∃ c r, cs = c :: r ∧ isBlank c = false ∧ c ≠ ']' ∧ c ≠ '}'

theorem opens_of_isDigit {c : Char} (h : c.isDigit = true) (r : List Char) : Opens (c :: r) := by
  refine ⟨c, r, rfl, ?_, ?_, ?_⟩
  · rw [Bool.eq_false_iff]
    intro blank
    simp only [isBlank, Bool.or_eq_true, decide_eq_true_eq] at blank
    obtain ((rfl | rfl) | rfl) | rfl := blank <;> cases h
  · rintro rfl
    cases h
  · rintro rfl
    cases h

theorem skipBlank_opens {cs : List Char} (h : Opens cs) (r : List Char) :
    skipBlank (cs ++ r) = cs ++ r := by
  obtain ⟨c, cs, rfl, seen, -, -⟩ := h
  simp [skipBlank, seen]

/-- A document that can be said in full begins with what only a value begins with. -/
theorem Plain.opens (h : Plain d) : Opens (writeChars d) := by
  cases h with
  | null => exact ⟨_, _, rfl, rfl, by decide, by decide⟩
  | bool b => cases b <;> exact ⟨_, _, rfl, rfl, by decide, by decide⟩
  | natural n small =>
    have digits : writeChars (.integer n) = Nat.toDigits 10 n := by
      rw [writeChars]
      rfl
    rw [digits]
    cases front : Nat.toDigits 10 n with
    | nil => exact absurd front Nat.toDigits_ne_nil
    | cons c r => exact opens_of_isDigit (isDigit_of_mem_toDigits (front ▸ List.mem_cons_self)) r
  | text s => exact ⟨_, _, rfl, rfl, by decide, by decide⟩
  | list each => exact ⟨_, _, rfl, rfl, by decide, by decide⟩
  | table named each => exact ⟨_, _, rfl, rfl, by decide, by decide⟩

/-- Whether a document is read as it was written, whatever value may follow. -/
def Readable (d : Document) : Prop :=
  ∀ n r, (writeChars d).length < n → Ends r → value n (writeChars d ++ r) = (d, r)

theorem value_digit {c : Char} (digit : c.isDigit = true) (r : List Char) :
    value (n + 1) (c :: r) = number false (c :: r) := by
  have whole : skipBlank (c :: r) = c :: r := skipBlank_opens (opens_of_isDigit digit []) r
  rw [value, whole]
  split
  · simp_all
  · simp_all
  · simp_all
  · simp_all
  · simp_all
  · simp_all
  · simp_all
  · rfl

/-- What follows an item decides how its list goes on. -/
theorem items_item {c : Char} (plain : Plain d) (reads : Readable d)
    (room : (writeChars d).length < n) (ends : c = ',' ∨ c = ']') :
    items (n + 1) (writeChars d ++ c :: r) =
      if c = ',' then (d :: (items n r).1, (items n r).2) else ([d], true, r) := by
  have ended : Ends (c :: r) := by
    rintro x ⟨⟩
    exact ends.imp_right Or.inl
  rw [items, reads n _ room ended]
  simp only [plain.intact, if_true]
  obtain rfl | rfl := ends <;> rfl

theorem entries_entry {c : Char} {k : String} (plain : Plain d) (reads : Readable d)
    (room : (writeChars d).length < n) (ends : c = ',' ∨ c = '}') :
    entries (n + 1) (writeString k ++ ':' :: (writeChars d ++ c :: r)) =
      if c = ',' then ((some k, d) :: (entries n r).1, (entries n r).2)
      else ([(some k, d)], true, r) := by
  have ended : Ends (c :: r) := by
    rintro x ⟨⟩
    exact ends.imp_right Or.inr
  have name := quoted_writeString k (':' :: (writeChars d ++ c :: r))
  have front : skipBlank (writeString k ++ ':' :: (writeChars d ++ c :: r)) =
      '"' :: ((writeString k).tail ++ ':' :: (writeChars d ++ c :: r)) := rfl
  have colon : skipBlank (':' :: (writeChars d ++ c :: r)) = ':' :: (writeChars d ++ c :: r) := rfl
  rw [entries, front]
  simp only [name, colon, reads n _ room ended, plain.intact, if_true]
  obtain rfl | rfl := ends <;> rfl

theorem value_bracket {cs : List Char} (h : Opens cs) (r : List Char) :
    value (n + 1) ('[' :: (cs ++ r)) =
      (.list (items n (cs ++ r)).1 (items n (cs ++ r)).2.1, (items n (cs ++ r)).2.2) := by
  have front : skipBlank ('[' :: (cs ++ r)) = '[' :: (cs ++ r) := rfl
  rw [value, front]
  simp only [skipBlank_opens h]
  obtain ⟨c, cs, rfl, -, open', -⟩ := h
  split
  · simp_all
  · rfl

theorem value_brace {cs : List Char} (h : Opens cs) (r : List Char) :
    value (n + 1) ('{' :: (cs ++ r)) =
      (.table (entries n (cs ++ r)).1 (entries n (cs ++ r)).2.1, (entries n (cs ++ r)).2.2) := by
  have front : skipBlank ('{' :: (cs ++ r)) = '{' :: (cs ++ r) := rfl
  rw [value, front]
  simp only [skipBlank_opens h]
  obtain ⟨c, cs, rfl, -, -, open'⟩ := h
  split
  · simp_all
  · rfl

theorem Opens.append {cs : List Char} (h : Opens cs) (r : List Char) : Opens (cs ++ r) := by
  obtain ⟨c, cs, rfl, seen⟩ := h
  exact ⟨c, cs ++ r, rfl, seen⟩

theorem opens_writeItems (h : Plain d) (ds : List Document) : Opens (writeItems (d :: ds)) := by
  cases ds with
  | nil => simpa only [writeItems] using h.opens.append _
  | cons e ds => simpa only [writeItems] using h.opens.append _

theorem opens_writeEntries (p : Option String × Document) (es : List (Option String × Document)) :
    Opens (writeEntries (p :: es)) := by
  have quote : Opens (writeName p.1) := ⟨_, _, rfl, rfl, by decide, by decide⟩
  cases es with
  | nil =>
    simp only [writeEntries, List.append_assoc]
    exact quote.append _
  | cons q es =>
    simp only [writeEntries, List.append_assoc]
    exact quote.append _

/-- The items of a list are read as they were written, if each one is. -/
theorem items_writeItems (each : ∀ d ∈ ds, Plain d ∧ Readable d) (some : ds ≠ [])
    (room : (writeItems ds).length < n) : items n (writeItems ds ++ r) = (ds, true, r) := by
  induction ds generalizing n with
  | nil => exact absurd rfl some
  | cons d ds ih =>
    obtain ⟨plain, reads⟩ := each d List.mem_cons_self
    obtain ⟨n, rfl⟩ := Nat.exists_eq_succ_of_ne_zero (Nat.ne_zero_of_lt room)
    cases ds with
    | nil =>
      have text : writeItems [d] ++ r = writeChars d ++ ']' :: r := by simp [writeItems]
      have short : (writeChars d).length < n := by
        simp only [writeItems, List.length_append, List.length_singleton] at room
        omega
      rw [text, items_item plain reads short (.inr rfl)]
      rfl
    | cons e ds =>
      have text : writeItems (d :: e :: ds) ++ r =
          writeChars d ++ ',' :: (writeItems (e :: ds) ++ r) := by simp [writeItems]
      have length : (writeItems (d :: e :: ds)).length =
          (writeChars d).length + ((writeItems (e :: ds)).length + 1) := by simp [writeItems]
      have rest := ih (fun x hx => each x (List.mem_cons_of_mem d hx)) (List.cons_ne_nil e ds)
        (n := n) (by omega)
      rw [text, items_item plain reads (by omega) (.inl rfl), if_pos rfl, rest]

theorem entries_writeEntries (named : ∀ p ∈ es, p.1.isSome = true)
    (each : ∀ p ∈ es, Plain p.2 ∧ Readable p.2) (some : es ≠ [])
    (room : (writeEntries es).length < n) : entries n (writeEntries es ++ r) = (es, true, r) := by
  induction es generalizing n with
  | nil => exact absurd rfl some
  | cons p es ih =>
    obtain ⟨name, d⟩ := p
    obtain ⟨k, rfl⟩ := Option.isSome_iff_exists.mp (named (name, d) List.mem_cons_self)
    obtain ⟨plain, reads⟩ := each (Option.some k, d) List.mem_cons_self
    obtain ⟨n, rfl⟩ := Nat.exists_eq_succ_of_ne_zero (Nat.ne_zero_of_lt room)
    cases es with
    | nil =>
      have text : writeEntries [(Option.some k, d)] ++ r =
          writeString k ++ ':' :: (writeChars d ++ '}' :: r) := by simp [writeEntries, writeName]
      have short : (writeChars d).length < n := by
        simp only [writeEntries, List.length_append, List.length_cons] at room
        omega
      rw [text, entries_entry plain reads short (.inr rfl)]
      rfl
    | cons q es =>
      have text : writeEntries ((Option.some k, d) :: q :: es) ++ r =
          writeString k ++ ':' :: (writeChars d ++ ',' :: (writeEntries (q :: es) ++ r)) := by
        simp [writeEntries, writeName]
      have length : (writeEntries ((Option.some k, d) :: q :: es)).length =
          (writeString k).length + ((writeChars d).length + ((writeEntries (q :: es)).length + 1) + 1) := by
        simp [writeEntries, writeName]
      have rest := ih (fun x hx => named x (List.mem_cons_of_mem _ hx))
        (fun x hx => each x (List.mem_cons_of_mem _ hx)) (List.cons_ne_nil q es) (n := n) (by omega)
      have short : (writeChars d).length < n := by omega
      rw [text, entries_entry plain reads short (.inl rfl), if_pos rfl, rest]

/-- **A document that JSON can say in full is read as it was written**, whatever follows it. -/
theorem Plain.readable (h : Plain d) : Readable d := by
  induction h with
  | null =>
    intro n r room _
    obtain ⟨n, rfl⟩ := Nat.exists_eq_succ_of_ne_zero (Nat.ne_zero_of_lt room)
    rfl
  | bool b =>
    intro n r room _
    obtain ⟨n, rfl⟩ := Nat.exists_eq_succ_of_ne_zero (Nat.ne_zero_of_lt room)
    cases b <;> rfl
  | natural k small =>
    intro n r room ends
    obtain ⟨n, rfl⟩ := Nat.exists_eq_succ_of_ne_zero (Nat.ne_zero_of_lt room)
    have text : writeChars (.integer k) = Nat.toDigits 10 k := by
      rw [writeChars]
      rfl
    have read := number_toDigits small ends.noDigit ends.whole
    rw [text]
    cases front : Nat.toDigits 10 k with
    | nil => exact absurd front Nat.toDigits_ne_nil
    | cons c cs =>
      rw [front] at read
      have digit : c.isDigit = true := isDigit_of_mem_toDigits (front ▸ List.mem_cons_self)
      rw [List.cons_append, value_digit digit]
      exact read
  | text s =>
    intro n r room _
    obtain ⟨n, rfl⟩ := Nat.exists_eq_succ_of_ne_zero (Nat.ne_zero_of_lt room)
    have front : skipBlank (writeChars (.text s) ++ r) = '"' :: ((writeString s).tail ++ r) := rfl
    rw [value, front]
    simp only [string, quoted_writeString]
  | @list ds each ih =>
    intro n r room _
    obtain ⟨n, rfl⟩ := Nat.exists_eq_succ_of_ne_zero (Nat.ne_zero_of_lt room)
    cases ds with
    | nil => rfl
    | cons d ds =>
      have text : writeChars (.list (d :: ds) true) = '[' :: writeItems (d :: ds) := by rw [writeChars]
      rw [text, List.length_cons] at room
      have read := items_writeItems (r := r) (fun x hx => ⟨each x hx, ih x hx⟩)
        (List.cons_ne_nil d ds) (n := n) (by omega)
      rw [text, List.cons_append, value_bracket (opens_writeItems (each d List.mem_cons_self) ds), read]
  | @table es named each ih =>
    intro n r room _
    obtain ⟨n, rfl⟩ := Nat.exists_eq_succ_of_ne_zero (Nat.ne_zero_of_lt room)
    cases es with
    | nil => rfl
    | cons p es =>
      have text : writeChars (.table (p :: es) true) = '{' :: writeEntries (p :: es) := by rw [writeChars]
      rw [text, List.length_cons] at room
      have read := entries_writeEntries (r := r) named (fun x hx => ⟨each x hx, ih x hx⟩)
        (List.cons_ne_nil p es) (n := n) (by omega)
      rw [text, List.cons_append, value_brace (opens_writeEntries p es), read]

end values

/-! ### Whole texts -/

section texts
variable {α : Type} {d : Document}

theorem read_write (h : Plain d) : read (write d) = (d, true) := by
  have ended : Ends [] := by simp [Ends]
  have whole := h.readable _ [] (Nat.lt_succ_self _) ended
  rw [List.append_nil] at whole
  rw [read, write, String.toList_ofList]
  simp only [whole]
  rfl

/-- **A value is read from a written text as from the document.** -/
theorem decode_write (h : Plain d) (item : Decoder α) : decode item (write d) = item d := by
  rw [decode, read_write h]
  exact bind_pure (item d)

end texts

end FaultLab.Json
