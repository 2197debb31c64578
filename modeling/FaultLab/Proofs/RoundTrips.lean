import Mathlib.Algebra.GroupWithZero.Nat
import FaultLab.Health
import FaultLab.Proofs.Records
import FaultLab.Proofs.Texts

/-! # What goes over the wire comes back

A layout, a report or a snapshot is written as a document and the document as a text; the other side
reads the text back.  `RoundTrips` says that the values of a kind come back as they went out, which makes
different values different texts, and that whatever text a value was read from, what is written for the
value is read to the same value again.

The names of members are checked when they are read, so a value comes back if its endpoints are
`Accepted`; and what was read has accepted endpoints only.  `wire_round_trips` puts the two together. -/

namespace FaultLab

/-- Whether values of which `P` holds come back from the wire as they went out, and values that were
read are such values. -/
structure RoundTrips {α : Type} (encode : α → Document) (item : Decoder α) (P : α → Prop) : Prop where
  back : ∀ a, P a → Json.decode item (Json.write (encode a)) = .ok a
  injective : ∀ a b, P a → P b → Json.write (encode a) = Json.write (encode b) → a = b
  again : ∀ text a, Json.decode item text = .ok a →
    P a ∧ Json.decode item (Json.write (encode a)) = .ok a

theorem RoundTrips.of_document {α : Type} {encode : α → Document} {item : Decoder α} {P : α → Prop}
    (plain : ∀ a, Json.Plain (encode a)) (back : ∀ a, P a → item (encode a) = .ok a)
    (sound : ∀ d a, item d = .ok a → P a) : RoundTrips encode item P := by
  have comes : ∀ a, P a → Json.decode item (Json.write (encode a)) = .ok a := by
    intro a ha
    rw [Json.decode_write (plain a)]
    exact back a ha
  refine ⟨comes, fun a b ha hb same => ?_, fun text a read => ?_⟩
  · have both := comes a ha
    rw [same, comes b hb] at both
    exact (Except.ok.inj both).symm
  · have made : item (Json.read text).1 = .ok a := by
      unfold Json.decode at read
      generalize Json.read text = seen at read ⊢
      obtain ⟨a', made, clean⟩ := bind_eq_ok.mp read
      split at clean
      · rw [made, ← Except.ok.inj clean]
      · cases clean
    have ha := sound _ a made
    exact ⟨ha, comes a ha⟩

/-! ### Identifiers -/

namespace Uuid

theorem length_hex (n value : Nat) : (hex n value).length = n := by
  induction n generalizing value with
  | zero => rfl
  | succ n ih => rw [hex, List.length_append, ih, List.length_singleton]

theorem digit?_digitChar : ∀ d < 16, digit? (Nat.digitChar d) = some d := by decide

theorem exists_digits (n value : Nat) : ∃ ds, (hex n value).mapM digit? = some ds ∧
    ds.foldl (fun n d => n * 16 + d) 0 = value % 16 ^ n := by
  induction n generalizing value with
  | zero => exact ⟨[], rfl, by simp [Nat.mod_one]⟩
  | succ n ih =>
    obtain ⟨ds, front, sum⟩ := ih (value / 16)
    have last := digit?_digitChar (value % 16) (Nat.mod_lt _ (by omega))
    refine ⟨ds ++ [value % 16], ?_, ?_⟩
    · rw [hex, List.mapM_append, front]
      simp [last]
    · rw [List.foldl_append, sum, List.foldl_cons, List.foldl_nil, Nat.pow_succ, Nat.mul_comm (16 ^ n),
        Nat.mod_mul]
      omega

theorem isSome_digit?_of_mem_hex {n value : Nat} {c : Char} (h : c ∈ hex n value) :
    (digit? c).isSome = true := by
  induction n generalizing value with
  | zero => cases h
  | succ n ih =>
    rcases List.mem_append.mp h with h | h
    · exact ih h
    · rw [List.mem_singleton.mp h, digit?_digitChar _ (Nat.mod_lt _ (by omega))]
      rfl

theorem length_simple (u : Uuid) : u.simple.length = 32 := length_hex 32 u.bits

theorem ofSimple_simple (u : Uuid) : ofSimple u.simple = some u := by
  obtain ⟨ds, digits, sum⟩ := exists_digits 32 u.bits
  have value : ofNat (u.bits % 16 ^ 32) = u := by
    obtain ⟨bits, small⟩ := u
    have scale : (16 : Nat) ^ 32 = Nat.pow 2 128 := by decide
    simp only [ofNat, scale, Nat.mod_eq_of_lt small]
  have digits : u.simple.mapM digit? = some ds := digits
  rw [ofSimple, digits, Option.bind_eq_bind, Option.bind_some, if_pos u.length_simple, sum, value]
  rfl

theorem ofHyphenated_hyphenated (u : Uuid) : ofHyphenated u.hyphenated = some u := by
  have length := u.length_simple
  have simple := ofSimple_simple u
  rw [hyphenated]
  generalize u.simple = ds at length simple ⊢
  have rejoin : ∀ n, (ds.drop n).take 4 ++ ds.drop (n + 4) = ds.drop n := by
    intro n
    rw [← List.drop_drop, List.take_append_drop]
  rw [ofHyphenated, if_pos (by simp [length]), ← simple]
  congr 1
  simp [List.drop_append, length, List.drop_take]
  rw [rejoin 16, rejoin 12, rejoin 8, List.take_append_drop]

theorem exists_hyphenated (u : Uuid) :
    ∃ c cs, u.hyphenated = c :: cs ∧ (digit? c).isSome = true := by
  have length := u.length_simple
  cases h : u.simple with
  | nil =>
    rw [h] at length
    cases length
  | cons c cs =>
    have digit : (digit? c).isSome = true := by
      have there : c ∈ u.simple := by simp [h]
      exact isSome_digit?_of_mem_hex there
    have front : u.hyphenated = c :: u.hyphenated.tail := by
      rw [hyphenated, h]
      rfl
    exact ⟨c, _, front, digit⟩

theorem parse?_hyphenated (u : Uuid) : parse? (String.ofList u.hyphenated) = some u := by
  obtain ⟨c, cs, front, digit⟩ := u.exists_hyphenated
  have long : u.hyphenated.length = 36 := by simp [hyphenated, u.length_simple]
  rw [parse?, String.toList_ofList]
  split
  · rename_i urn
    rw [front] at urn
    obtain ⟨rfl, -⟩ := List.cons_eq_cons.mp urn
    cases digit
  · rename_i brace
    rw [front] at brace
    obtain ⟨rfl, -⟩ := List.cons_eq_cons.mp brace
    cases digit
  · rw [if_neg (by omega)]
    exact ofHyphenated_hyphenated u

theorem decode_encode (u : Uuid) : decode u.encode = .ok u := by
  simp only [encode, decode, parse?_hyphenated]

end Uuid

/-! ### Values and lists -/

namespace Decoder
variable {α β : Type}

theorem u64_encodeU64 (n : UInt64) : u64 (encodeU64 n) = .ok n := by
  have bound := n.toNat_lt
  have within : (0 : Int) ≤ n.toNat ∧ (n.toNat : Int) ≤ 0xffffffffffffffff := by omega
  rw [u64, encodeU64, integer, if_pos within]
  exact congrArg Except.ok (UInt64.ofNat_toNat)

theorem choice_text (reading : Reading) (names : List (String × α)) (s : String) :
    choice reading names (.text s) = variant names s := by
  cases reading <;> rfl

theorem list_ofList {item : Decoder α} {encode : α → Document} {as : List α}
    (back : ∀ a ∈ as, item (encode a) = .ok a) : list item (.ofList (as.map encode)) = .ok as := by
  have items : (as.map encode).mapM item = .ok as := by
    rw [mapM_eq_ok, List.forall₂_map_left_iff, List.forall₂_same]
    exact back
  rw [Document.ofList, list, items]
  rfl

theorem entries_ofEntries {key : String → Except Problem α} {item : Decoder β} (name : α → String)
    {encode : β → Document} {ps : List (α × β)} (keys : ∀ p ∈ ps, key (name p.1) = .ok p.1)
    (back : ∀ p ∈ ps, item (encode p.2) = .ok p.2) :
    entries key item (.ofEntries (ps.map fun p => (name p.1, encode p.2))) = .ok ps := by
  rw [Document.ofEntries, entries]
  refine bind_eq_ok.mpr ⟨ps, mapM_eq_ok.mpr ?_, rfl⟩
  rw [List.forall₂_map_left_iff, List.forall₂_map_left_iff, List.forall₂_same]
  intro p hp
  simp [named, keys p hp, back p hp, bind, Except.bind, pure, Except.pure]

theorem exists_of_mem_list {item : Decoder α} {d : Document} {as : List α}
    (h : list item d = .ok as) {a : α} (ha : a ∈ as) : ∃ d, item d = .ok a := by
  unfold list at h
  split at h
  · obtain ⟨as', items, h⟩ := bind_eq_ok.mp h
    obtain ⟨-, -, h⟩ := bind_eq_ok.mp h
    cases h
    obtain ⟨d, -, read⟩ := exists_of_forall₂ (mapM_eq_ok.mp items).flip ha
    exact ⟨d, read⟩
  · cases h

theorem exists_of_mem_entries {key : String → Except Problem α} {item : Decoder β} {d : Document}
    {ps : List (α × β)} (h : entries key item d = .ok ps) {p : α × β} (hp : p ∈ ps) :
    ∃ name, key name = .ok p.1 := by
  unfold entries at h
  split at h
  · obtain ⟨ps', pairs, h⟩ := bind_eq_ok.mp h
    obtain ⟨-, -, h⟩ := bind_eq_ok.mp h
    cases h
    obtain ⟨d, -, read⟩ := exists_of_forall₂ (mapM_eq_ok.mp pairs).flip hp
    obtain ⟨name, -, read⟩ := bind_eq_ok.mp read
    obtain ⟨a, keyed, read⟩ := bind_eq_ok.mp read
    obtain ⟨b, -, read⟩ := bind_eq_ok.mp read
    cases read
    exact ⟨name, keyed⟩
  · cases h

end Decoder

/-! ### Endpoints -/

namespace Endpoint
variable {e : Endpoint}

/-- Whether the text of an endpoint is one that is read as an endpoint. -/
def Accepted (e : Endpoint) : Prop := parse? e.text = some e

instance : DecidablePred Accepted := fun e => inferInstanceAs (Decidable (parse? e.text = some e))

theorem ofText_text (h : e.Accepted) : ofText e.text = .ok e := by
  have parsed : parse? e.text = some e := h
  rw [ofText, parsed]

theorem Accepted.of_ofText {text : String} (h : ofText text = .ok e) : e.Accepted := by
  unfold ofText at h
  split at h
  · rename_i e' parsed
    cases h
    have same : e.text = text := by
      obtain ⟨_, -, made⟩ := Option.map_eq_some_iff.mp parsed
      rw [← made]
    rw [Accepted, same, parsed]
  · cases h

theorem decode_encode (h : e.Accepted) : decode e.encode = .ok e := ofText_text h

theorem Accepted.of_decode {d : Document} (h : decode d = .ok e) : e.Accepted := by
  obtain ⟨text, -, h⟩ := bind_eq_ok.mp h
  exact .of_ofText h

theorem decode_list {es : List Endpoint} (h : ∀ e ∈ es, e.Accepted) :
    Decoder.list decode (.ofList (es.map encode)) = .ok es :=
  Decoder.list_ofList fun e he => decode_encode (h e he)

theorem Accepted.of_decode_list {d : Document} {es : List Endpoint}
    (h : Decoder.list decode d = .ok es) : ∀ e ∈ es, e.Accepted := by
  intro e he
  obtain ⟨d, read⟩ := Decoder.exists_of_mem_list h he
  exact .of_decode read

end Endpoint

namespace EndpointSet
variable {s : EndpointSet}

theorem ofList_toList (s : EndpointSet) : ofList s.toList = s := ext fun _ => mem_ofList

theorem decode_encode (h : ∀ e ∈ s.toList, e.Accepted) : decode s.encode = .ok s := by
  rw [decode, encode, Endpoint.decode_list h]
  exact congrArg Except.ok s.ofList_toList

theorem accepted_of_decode {d : Document} (h : decode d = .ok s) : ∀ e ∈ s.toList, e.Accepted := by
  obtain ⟨es, read, rfl⟩ := map_eq_ok.mp h
  intro e he
  exact Endpoint.Accepted.of_decode_list read e (mem_ofList.mp he)

end EndpointSet

namespace EndpointTable
variable {α : Type} {t : EndpointTable α} {item : Decoder α} {encode' : α → Document}

/-- What entries in rising order add to a table. -/
theorem get?_foldl_sorted {es : List (Endpoint × α)} (sorted : es.Pairwise fun a b => a.1 < b.1)
    (t : EndpointTable α) (e : Endpoint) :
    (es.foldl (fun t (e, a) => t.insert e a) t).get? e = (lookup e es).or (t.get? e) := by
  induction es generalizing t with
  | nil => rfl
  | cons p es ih =>
    obtain ⟨first, sorted⟩ := List.pairwise_cons.mp sorted
    rw [List.foldl_cons, ih sorted, get?_insert]
    by_cases here : e = p.1
    · subst here
      rw [lookup_eq_none_of_lt first]
      simp [lookup]
    · have other : p.1 ≠ e := Ne.symm here
      simp [lookup, here, other]

theorem ofList_entries (t : EndpointTable α) : ofList t.entries = t := by
  refine ext fun e => ?_
  rw [ofList, get?_foldl_sorted t.sorted, get?_empty, Option.or_none]
  rfl

theorem mem_keys_foldl {es : List (Endpoint × α)} {t : EndpointTable α} {e : Endpoint}
    (h : e ∈ (es.foldl (fun t (e, a) => t.insert e a) t).keys) : e ∈ t.keys ∨ e ∈ es.map Prod.fst := by
  induction es generalizing t with
  | nil => exact .inl h
  | cons p es ih =>
    rcases ih h with inserted | later
    · rw [mem_keys, get?_insert] at inserted
      by_cases here : e = p.1
      · exact .inr (by simp [here])
      · rw [if_neg here] at inserted
        exact .inl (mem_keys.mpr inserted)
    · exact .inr (List.mem_cons_of_mem _ later)

theorem mem_fst_of_mem_keys_ofList {es : List (Endpoint × α)} {e : Endpoint}
    (h : e ∈ (ofList es).keys) : e ∈ es.map Prod.fst := by
  rcases mem_keys_foldl h with none | later
  · cases none
  · exact later

theorem decode_encode (keys : ∀ e ∈ t.keys, e.Accepted) (back : ∀ a, item (encode' a) = .ok a) :
    decode item (t.encode encode') = .ok t := by
  have read : Decoder.entries Endpoint.ofText item (t.encode encode') = .ok t.entries := by
    refine Decoder.entries_ofEntries Endpoint.text (fun p hp => ?_) fun p _ => back p.2
    exact Endpoint.ofText_text (keys p.1 (List.mem_map_of_mem hp))
  rw [decode, read]
  exact congrArg Except.ok t.ofList_entries

theorem accepted_of_decode {d : Document} (h : decode item d = .ok t) :
    ∀ e ∈ t.keys, e.Accepted := by
  obtain ⟨es, read, rfl⟩ := map_eq_ok.mp h
  intro e he
  obtain ⟨p, mem, rfl⟩ := List.mem_map.mp (mem_fst_of_mem_keys_ofList he)
  obtain ⟨name, keyed⟩ := Decoder.exists_of_mem_entries read mem
  exact .of_ofText keyed

end EndpointTable

/-! ### Names of fixed sets -/

theorem ReplicationMode.decode_encode (reading : Reading) (m : ReplicationMode) :
    decode reading m.encode = .ok m := by
  rw [encode, decode, Decoder.choice_text]
  cases m <;> rfl

theorem ClusterStatus.decode_encode (s : ClusterStatus) : decode s.encode = .ok s := by
  rw [encode, decode, Decoder.choice_text]
  cases s <;> rfl

theorem Connectivity.decode_encode (c : Connectivity) : decode c.encode = .ok c := by
  rw [encode, decode, Decoder.choice_text]
  cases c <;> rfl

theorem NodeHealth.decode_encode (h : NodeHealth) : decode h.encode = .ok h := by
  rw [encode, decode, Decoder.choice_text]
  cases h <;> rfl

theorem Reliability.decode_encode (r : Reliability) : decode r.encode = .ok r := by
  rw [encode, decode, Decoder.choice_text]
  cases r <;> rfl

/-! ### Layouts -/

theorem Stripe.decode_encode (reading : Reading) {s : Stripe} (h : ∀ e ∈ s.logServers, e.Accepted) :
    decode reading s.encode = .ok s := by
  have fields : reader.Takes [("logServers", .ofList (s.logServers.map Endpoint.encode))] s :=
    (RecordReader.takes_field "logServers" (Endpoint.decode_list h)).map Stripe.mk
  exact fields.decode (by simp) _ _

theorem Stripe.accepted_of_decode {reading : Reading} {d : Document} {s : Stripe}
    (h : decode reading d = .ok s) : ∀ e ∈ s.logServers, e.Accepted := by
  obtain ⟨look, made⟩ := RecordReader.decode_eq_ok h
  obtain ⟨es, listed, rfl⟩ := RecordReader.make_map_eq_ok made
  obtain ⟨d, read⟩ := RecordReader.make_field_eq_ok listed
  exact Endpoint.Accepted.of_decode_list read

namespace Segment
variable {reading : Reading} {s : Segment}

/-- The log servers of a segment, stripe by stripe. -/
def logServers (s : Segment) : List Endpoint := s.stripes.flatMap Stripe.logServers

theorem decode_stop (stop : Option UInt64) : Decoder.optional Decoder.u64
    (match stop with | some n => encodeU64 n | none => .null) = .ok stop := by
  cases stop with
  | none => rfl
  | some n =>
    have read := Decoder.u64_encodeU64 n
    unfold encodeU64 at read ⊢
    simp only [Decoder.optional, read]
    rfl

theorem decode_encode (reading : Reading) (h : ∀ e ∈ s.logServers, e.Accepted) :
    decode reading s.encode = .ok s := by
  have stripes : Decoder.list (Stripe.decode reading) (.ofList (s.stripes.map Stripe.encode)) =
      .ok s.stripes := by
    refine Decoder.list_ofList fun t ht => Stripe.decode_encode reading fun e he => ?_
    exact h e (List.mem_flatMap.mpr ⟨t, ht, he⟩)
  have fields := ((((RecordReader.takes_field "replicationMode"
    (ReplicationMode.decode_encode reading s.mode)).map Segment.mk).seq
    (RecordReader.takes_field "start" (Decoder.u64_encodeU64 s.start))).seq
    (RecordReader.takes_nullable "end" (decode_stop s.stop))).seq
    (RecordReader.takes_field "stripes" stripes)
  exact fields.decode (by simp) "LayoutSegment" reading

theorem accepted_of_decode {d : Document} (h : decode reading d = .ok s) :
    ∀ e ∈ s.logServers, e.Accepted := by
  obtain ⟨look, made⟩ := RecordReader.decode_eq_ok h
  obtain ⟨_, stripes, three, listed, rfl⟩ := RecordReader.make_seq_eq_ok made
  obtain ⟨_, stop, two, -, rfl⟩ := RecordReader.make_seq_eq_ok three
  obtain ⟨_, start, one, -, rfl⟩ := RecordReader.make_seq_eq_ok two
  obtain ⟨mode, -, rfl⟩ := RecordReader.make_map_eq_ok one
  obtain ⟨d, read⟩ := RecordReader.make_field_eq_ok listed
  intro e he
  obtain ⟨t, ht, he⟩ := List.mem_flatMap.mp he
  obtain ⟨d, read⟩ := Decoder.exists_of_mem_list read ht
  exact Stripe.accepted_of_decode read e he

end Segment

namespace Layout
variable {reading : Reading} {l : Layout}

/-- The endpoints that a layout names. -/
def endpoints (l : Layout) : List Endpoint :=
  l.servers ++ l.sequencers ++ l.segments.flatMap Segment.logServers ++ l.unresponsive.toList

/-- Whether a layout names accepted endpoints only. -/
def Addressed (l : Layout) : Prop := ∀ e ∈ l.endpoints, e.Accepted

instance : DecidablePred Addressed := fun l =>
  inferInstanceAs (Decidable (∀ e ∈ l.endpoints, e.Accepted))

theorem addressed_iff : l.Addressed ↔ (∀ e ∈ l.servers, e.Accepted) ∧ (∀ e ∈ l.sequencers, e.Accepted) ∧
    (∀ s ∈ l.segments, ∀ e ∈ s.logServers, e.Accepted) ∧ ∀ e ∈ l.unresponsive.toList, e.Accepted := by
  simp only [Addressed, endpoints, List.mem_append, List.mem_flatMap]
  constructor
  · intro h
    exact ⟨fun e he => h e (by simp [he]), fun e he => h e (by simp [he]),
      fun s hs e he => h e (.inl (.inr ⟨s, hs, he⟩)), fun e he => h e (by simp [he])⟩
  · rintro ⟨servers, sequencers, segments, unresponsive⟩ e (((he | he) | ⟨s, hs, he⟩) | he)
    · exact servers e he
    · exact sequencers e he
    · exact segments s hs e he
    · exact unresponsive e he

theorem decode_encode (reading : Reading) (h : l.Addressed) : decode reading l.encode = .ok l := by
  obtain ⟨servers, sequencers, segments, unresponsive⟩ := addressed_iff.mp h
  have segments : Decoder.list (Segment.decode reading) (.ofList (l.segments.map Segment.encode)) =
      .ok l.segments :=
    Decoder.list_ofList fun s hs => Segment.decode_encode reading (segments s hs)
  have fields := ((((((RecordReader.takes_field "epoch"
    (Decoder.u64_encodeU64 l.epoch)).map Layout.mk).seq
    (RecordReader.takes_field "servers" (Endpoint.decode_list servers))).seq
    (RecordReader.takes_fieldOr "sequencers" (Endpoint.decode_list sequencers) [])).seq
    (RecordReader.takes_fieldOr "segments" segments [])).seq
    (RecordReader.takes_fieldOr "unresponsiveServers" (EndpointSet.decode_encode unresponsive)
      .empty)).seq
    (RecordReader.takes_field "clusterId" (Uuid.decode_encode l.clusterId))
  exact fields.decode (by simp) "Layout" reading

theorem addressed_of_decode {d : Document} (h : decode reading d = .ok l) : l.Addressed := by
  obtain ⟨look, made⟩ := RecordReader.decode_eq_ok h
  obtain ⟨_, clusterId, five, -, rfl⟩ := RecordReader.make_seq_eq_ok made
  obtain ⟨_, unresponsive, four, quiet, rfl⟩ := RecordReader.make_seq_eq_ok five
  obtain ⟨_, segments, three, parts, rfl⟩ := RecordReader.make_seq_eq_ok four
  obtain ⟨_, sequencers, two, sequence, rfl⟩ := RecordReader.make_seq_eq_ok three
  obtain ⟨_, servers, one, serve, rfl⟩ := RecordReader.make_seq_eq_ok two
  obtain ⟨epoch, -, rfl⟩ := RecordReader.make_map_eq_ok one
  refine addressed_iff.mpr ⟨?servers, ?sequencers, ?segments, ?unresponsive⟩
  case servers =>
    obtain ⟨d, read⟩ := RecordReader.make_field_eq_ok serve
    exact Endpoint.Accepted.of_decode_list read
  case sequencers =>
    rcases RecordReader.make_fieldOr_eq_ok sequence with rfl | ⟨d, read⟩
    · exact fun _ he => absurd he List.not_mem_nil
    · exact Endpoint.Accepted.of_decode_list read
  case segments =>
    rcases RecordReader.make_fieldOr_eq_ok parts with rfl | ⟨d, read⟩
    · exact fun _ hs => absurd hs List.not_mem_nil
    · intro s hs
      obtain ⟨d, read⟩ := Decoder.exists_of_mem_list read hs
      exact Segment.accepted_of_decode read
  case unresponsive =>
    rcases RecordReader.make_fieldOr_eq_ok quiet with rfl | ⟨d, read⟩
    · exact fun _ he => absurd he List.not_mem_nil
    · exact EndpointSet.accepted_of_decode read

end Layout

/-! ### Reports and snapshots -/

namespace StatusReport
variable {r : StatusReport}

/-- Whether a report names accepted endpoints only. -/
def Addressed (r : StatusReport) : Prop :=
  (∀ e ∈ r.connectivity.keys, e.Accepted) ∧ ∀ e ∈ r.health.keys, e.Accepted

instance : DecidablePred Addressed := fun r =>
  inferInstanceAs (Decidable ((∀ e ∈ r.connectivity.keys, e.Accepted) ∧ ∀ e ∈ r.health.keys, e.Accepted))

theorem decode_encode (h : r.Addressed) : decode r.encode = .ok r := by
  have connectivity := EndpointTable.decode_encode h.1 Connectivity.decode_encode
  have health := EndpointTable.decode_encode h.2 NodeHealth.decode_encode
  have fields := ((((RecordReader.takes_field "overall"
    (ClusterStatus.decode_encode r.overall)).map StatusReport.mk).seq
    (RecordReader.takes_field "connectivity" connectivity)).seq
    (RecordReader.takes_field "health" health)).seq
    (RecordReader.takes_field "reliability" (Reliability.decode_encode r.reliability))
  exact fields.decode (by simp) "ClusterStatusReport" .direct

theorem addressed_of_decode {d : Document} (h : decode d = .ok r) : r.Addressed := by
  obtain ⟨look, made⟩ := RecordReader.decode_eq_ok h
  obtain ⟨_, reliability, three, -, rfl⟩ := RecordReader.make_seq_eq_ok made
  obtain ⟨_, health, two, healthy, rfl⟩ := RecordReader.make_seq_eq_ok three
  obtain ⟨_, connectivity, one, connected, rfl⟩ := RecordReader.make_seq_eq_ok two
  obtain ⟨overall, -, rfl⟩ := RecordReader.make_map_eq_ok one
  obtain ⟨d, read⟩ := RecordReader.make_field_eq_ok connected
  obtain ⟨d', read'⟩ := RecordReader.make_field_eq_ok healthy
  exact ⟨EndpointTable.accepted_of_decode read, EndpointTable.accepted_of_decode read'⟩

end StatusReport

namespace Snapshot
variable {s : Snapshot}

/-- Whether a snapshot names accepted endpoints only. -/
def Addressed (s : Snapshot) : Prop := s.layout.Addressed ∧ s.status.Addressed

instance : DecidablePred Addressed := fun s =>
  inferInstanceAs (Decidable (s.layout.Addressed ∧ s.status.Addressed))

theorem decode_encode (h : s.Addressed) : decode s.encode = .ok s := by
  have fields := ((RecordReader.takes_field "layout" (Layout.decode_encode .direct h.1)).map
    Snapshot.mk).seq (RecordReader.takes_field "status" (StatusReport.decode_encode h.2))
  exact fields.decode (by simp) "ClusterSnapshot" .direct

theorem addressed_of_decode {d : Document} (h : decode d = .ok s) : s.Addressed := by
  obtain ⟨look, made⟩ := RecordReader.decode_eq_ok h
  obtain ⟨_, status, one, second, rfl⟩ := RecordReader.make_seq_eq_ok made
  obtain ⟨layout, first, rfl⟩ := RecordReader.make_map_eq_ok one
  obtain ⟨d, read⟩ := RecordReader.make_field_eq_ok first
  obtain ⟨d', read'⟩ := RecordReader.make_field_eq_ok second
  exact ⟨Layout.addressed_of_decode read, StatusReport.addressed_of_decode read'⟩

end Snapshot

/-! ### Documents that JSON can say in full -/

section plain

theorem plain_ofList {ds : List Document} (each : ∀ d ∈ ds, Json.Plain d) : Json.Plain (.ofList ds) :=
  .list each

theorem plain_ofEntries {es : List (String × Document)} (each : ∀ p ∈ es, Json.Plain p.2) :
    Json.Plain (.ofEntries es) := by
  refine .table (fun p hp => ?_) fun p hp => ?_
  · obtain ⟨e, -, rfl⟩ := List.mem_map.mp hp
    rfl
  · obtain ⟨e, he, rfl⟩ := List.mem_map.mp hp
    exact each e he

theorem plain_map {α : Type} {encode : α → Document} (each : ∀ a, Json.Plain (encode a)) (as : List α) :
    Json.Plain (.ofList (as.map encode)) := by
  refine plain_ofList fun d hd => ?_
  obtain ⟨a, -, rfl⟩ := List.mem_map.mp hd
  exact each a

theorem plain_encodeU64 (n : UInt64) : Json.Plain (encodeU64 n) := by
  have bound := n.toNat_lt
  have small : n.toNat ≤ Json.maxUnsigned := by
    unfold Json.maxUnsigned
    omega
  exact .natural n.toNat small

theorem Endpoint.plain_encode (e : Endpoint) : Json.Plain e.encode := .text e.text

theorem EndpointTable.plain_encode {α : Type} {encode' : α → Document}
    (each : ∀ a, Json.Plain (encode' a)) (t : EndpointTable α) : Json.Plain (t.encode encode') := by
  refine plain_ofEntries fun p hp => ?_
  obtain ⟨e, -, rfl⟩ := List.mem_map.mp hp
  exact each e.2

theorem Stripe.plain_encode (s : Stripe) : Json.Plain s.encode := by
  refine plain_ofEntries fun p hp => ?_
  rw [List.mem_singleton.mp hp]
  exact plain_map Endpoint.plain_encode s.logServers

theorem Segment.plain_encode (s : Segment) : Json.Plain s.encode := by
  refine plain_ofEntries ?_
  simp only [List.forall_mem_cons, List.not_mem_nil, false_implies, implies_true, and_true]
  refine ⟨.text _, plain_encodeU64 s.start, ?_, plain_map Stripe.plain_encode s.stripes⟩
  cases s.stop with
  | none => exact .null
  | some n => exact plain_encodeU64 n

theorem Layout.plain_encode (l : Layout) : Json.Plain l.encode := by
  refine plain_ofEntries ?_
  simp only [List.forall_mem_cons, List.not_mem_nil, false_implies, implies_true, and_true]
  exact ⟨plain_encodeU64 l.epoch, plain_map Endpoint.plain_encode l.servers,
    plain_map Endpoint.plain_encode l.sequencers, plain_map Segment.plain_encode l.segments,
    plain_map Endpoint.plain_encode l.unresponsive.toList, .text _⟩

theorem StatusReport.plain_encode (r : StatusReport) : Json.Plain r.encode := by
  have connectivity : ∀ c, Json.Plain (Connectivity.encode c) := fun c => .text c.wireName
  have health : ∀ h, Json.Plain (NodeHealth.encode h) := fun h => .text h.wireName
  refine plain_ofEntries ?_
  simp only [List.forall_mem_cons, List.not_mem_nil, false_implies, implies_true, and_true]
  exact ⟨.text _, EndpointTable.plain_encode connectivity r.connectivity,
    EndpointTable.plain_encode health r.health, .text _⟩

theorem Snapshot.plain_encode (s : Snapshot) : Json.Plain s.encode := by
  refine plain_ofEntries ?_
  simp only [List.forall_mem_cons, List.not_mem_nil, false_implies, implies_true, and_true]
  exact ⟨s.layout.plain_encode, s.status.plain_encode⟩

end plain

/-- **Layouts, reports and snapshots come back as they went out.** -/
theorem wire_round_trips : RoundTrips Layout.encode (Layout.decode .direct) Layout.Addressed ∧
    RoundTrips StatusReport.encode StatusReport.decode StatusReport.Addressed ∧
    RoundTrips Snapshot.encode Snapshot.decode Snapshot.Addressed := by
  refine ⟨?layouts, ?reports, ?snapshots⟩
  case layouts =>
    exact .of_document Layout.plain_encode (fun _ => Layout.decode_encode .direct)
      fun _ _ => Layout.addressed_of_decode
  case reports =>
    exact .of_document StatusReport.plain_encode (fun _ => StatusReport.decode_encode)
      fun _ _ => StatusReport.addressed_of_decode
  case snapshots =>
    exact .of_document Snapshot.plain_encode (fun _ => Snapshot.decode_encode)
      fun _ _ => Snapshot.addressed_of_decode

/-- A snapshot with names that have to be escaped, the greatest numbers, and an open segment. -/
def oddSnapshot : Snapshot where
  layout :=
    { epoch := 0xffffffffffffffff
      servers := [⟨"a\"b\\c\n:+7"⟩, ⟨"\u00e9\u0001::0"⟩]
      sequencers := []
      segments := [⟨.quorum, 0xffffffffffffffff, none, []⟩, ⟨.chain, 0, some 1, [⟨[⟨"\u2028:65535"⟩]⟩]⟩]
      unresponsive := .ofList [⟨"\u00e9\u0001::0"⟩]
      clusterId := .ofNat 7 }
  status := ⟨.degraded, .ofList [(⟨"\t:1"⟩, .unresponsive)], .ofList [(⟨"\t:1"⟩, .unknown)], .weakNoQuorum⟩

theorem odd_snapshot_comes_back : oddSnapshot.Addressed ∧
    Json.decode Snapshot.decode (Json.write oddSnapshot.encode) = .ok oddSnapshot := by
  have addressed : oddSnapshot.Addressed := by decide +kernel
  exact ⟨addressed, wire_round_trips.2.2.back oddSnapshot addressed⟩

end FaultLab
