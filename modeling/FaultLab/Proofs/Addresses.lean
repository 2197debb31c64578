import FaultLab.Container.Backend
import FaultLab.Proofs.ContainerLeftovers
import FaultLab.Proofs.Endpoints

/-! # Addresses of containers

A text `SpellsNetwork` if it is four numbers of eight bits with dots between them and a mask of 24 bits.  The
address of a member is read off such a text from the left, and the address of the gateway from the right;
both keep the first three numbers as they are written (`Container.SpellsNetwork.nodeAddress_eq`,
`Container.SpellsNetwork.gatewayAddress?_eq`).  So members with different indices have different addresses, and no
member has an index above 244.

A deployment makes its members one after the other (`Orchestrator.Makes`), up to the last one or to the first
that cannot be made (`Orchestrator.makes_of_provisionAll`).  In containers these have different endpoints, and
the one with the index 245 cannot be made, whatever the daemon does (`Container.addresses_never_collide`). -/

namespace FaultLab

namespace Text
variable {c : Char} {cs front back : List Char}

/-- A text is split at the first occurrence. -/
theorem splitFirst_eq_some : splitFirst c cs = some (front, back) ↔ cs = front ++ c :: back ∧ c ∉ front := by
  induction cs generalizing front with
  | nil => simp [splitFirst]
  | cons x xs ih =>
    unfold splitFirst
    by_cases here : x = c
    · rw [if_pos here]
      cases front with
      | nil => simp [here]
      | cons y front =>
        refine iff_of_false (by simp) ?_
        rintro ⟨same, absent⟩
        obtain ⟨rfl, -⟩ := List.cons.inj same
        exact absent (here ▸ List.mem_cons_self)
    · rw [if_neg here]
      cases front with
      | nil => simp [here]
      | cons y front =>
        simp only [Option.map_eq_some_iff, Prod.exists, Prod.mk.injEq, List.cons.injEq, List.cons_append,
          List.mem_cons, not_or]
        constructor
        · rintro ⟨a, b, found, ⟨rfl, rfl⟩, rfl⟩
          obtain ⟨rfl, absent⟩ := ih.mp found
          exact ⟨⟨rfl, rfl⟩, Ne.symm here, absent⟩
        · rintro ⟨⟨rfl, same⟩, -, absent⟩
          exact ⟨front, back, ih.mpr ⟨same, absent⟩, ⟨rfl, rfl⟩, rfl⟩

theorem splitEvery_eq_splitOn (c : Char) (cs : List Char) : splitEvery (· = c) cs = cs.splitOn c := by
  rw [List.splitOn_eq_splitOnP]
  induction cs with
  | nil => rfl
  | cons x xs ih =>
    rw [List.splitOnP_cons_eq_if_modifyHead, ← ih, splitEvery]
    by_cases here : x = c
    · simp [here]
    · simp only [here, decide_false, beq_iff_eq, if_false, Bool.false_eq_true]
      cases parts : splitEvery (· = c) xs with
      | nil => exact absurd (ih.symm.trans parts) (List.splitOnP_ne_nil _ xs)
      | cons first rest => rfl

/-- Parts without a character are what a text is split into at every occurrence, if it is these parts with the
character between them. -/
theorem splitEvery_eq_iff {parts : List (List Char)} (some : parts ≠ []) (apart : ∀ part ∈ parts, c ∉ part) :
    splitEvery (· = c) cs = parts ↔ cs = [c].intercalate parts := by
  rw [splitEvery_eq_splitOn]
  constructor
  · rintro rfl
    exact (List.intercalate_splitOn c).symm
  · rintro rfl
    exact List.splitOn_intercalate c apart some

end Text

namespace Container

/-! ### Numbers of eight bits -/

/-- Digits that write a number of eight bits, after a plus sign or not. -/
def WritesByte (cs : List Char) : Prop :=
  ∃ digits, (cs = digits ∨ cs = '+' :: digits) ∧ digits ≠ [] ∧ (∀ c ∈ digits, '0' ≤ c ∧ c ≤ '9') ∧
    Nat.ofDigitChars 10 digits 0 ≤ 255

theorem isSome_digits {digits : List Char} :
    (if !digits.isEmpty ∧ digits.all Char.isDigit ∧ Endpoint.digitsValue digits < 256 then
      some (Endpoint.digitsValue digits) else none).isSome = true ↔
    digits ≠ [] ∧ (∀ c ∈ digits, '0' ≤ c ∧ c ≤ '9') ∧ Nat.ofDigitChars 10 digits 0 ≤ 255 := by
  rw [Option.isSome_ite, Endpoint.digitsValue_eq]
  simp [Endpoint.isDigit_iff, Nat.lt_succ_iff]

theorem isSome_octet? {cs : List Char} : (octet? cs).isSome = true ↔ WritesByte cs := by
  have plus : ¬ ('0' ≤ '+' ∧ '+' ≤ '9') := by decide
  unfold octet? WritesByte
  split
  · rename_i digits
    rw [isSome_digits]
    constructor
    · intro h
      exact ⟨digits, .inr rfl, h⟩
    · rintro ⟨_, rfl | same, some, all, small⟩
      · exact absurd (all '+' List.mem_cons_self) plus
      · cases same
        exact ⟨some, all, small⟩
  · rename_i unsigned
    rw [isSome_digits]
    constructor
    · intro h
      exact ⟨cs, .inl rfl, h⟩
    · rintro ⟨digits, rfl | rfl, h⟩
      · exact h
      · exact absurd rfl (unsigned digits)

theorem WritesByte.notMem {cs : List Char} (h : WritesByte cs) : '.' ∉ cs ∧ '/' ∉ cs := by
  obtain ⟨digits, sign, -, all, -⟩ := h
  have dot : '.' ∉ digits := fun here => absurd (all '.' here) (by decide)
  have slash : '/' ∉ digits := fun here => absurd (all '/' here) (by decide)
  rcases sign with rfl | rfl
  · exact ⟨dot, slash⟩
  · exact ⟨by simpa using dot, by simpa using slash⟩

/-! ### Networks -/

/-- A text that is four numbers with dots between them, as they are written, and a mask of 24 bits. -/
structure SpellsNetwork (subnet a b c d : String) : Prop where
  text : subnet = a ++ "." ++ b ++ "." ++ c ++ "." ++ d ++ "/24"
  bytes : ∀ part ∈ [a, b, c, d], WritesByte part.toList

variable {subnet address a b c d : String} {index i j : Nat}

theorem SpellsNetwork.base (h : SpellsNetwork subnet a b c d) :
    Text.splitFirst '/' subnet.toList =
      some (['.'].intercalate [a.toList, b.toList, c.toList, d.toList], ['2', '4']) := by
  have slash : ∀ part ∈ [a, b, c, d], '/' ∉ part.toList := fun part hp => (h.bytes part hp).notMem.2
  simp only [List.forall_mem_cons] at slash
  refine Text.splitFirst_eq_some.mpr ⟨?_, ?_⟩
  · simp [h.text, List.intercalate]
  · simp [List.intercalate, slash]

theorem subnetBase?_eq_some {x y z : List Char} : subnetBase? subnet = some (x, y, z) ↔
    ∃ a b c d, SpellsNetwork subnet a b c d ∧ x = a.toList ∧ y = b.toList ∧ z = c.toList := by
  constructor
  · intro h
    obtain ⟨⟨base, mask⟩, found, h⟩ := Option.bind_eq_some_iff.mp h
    dsimp only at h
    split at h
    · rename_i a b c d parts
      split at h
      · rename_i proper
        cases h
        simp only [isSome_octet?] at proper
        obtain ⟨rfl, bytes⟩ := proper
        obtain ⟨text, -⟩ := Text.splitFirst_eq_some.mp found
        have dots : ∀ part ∈ [x, y, z, d], '.' ∉ part := by
          simp [bytes.1.notMem, bytes.2.1.notMem, bytes.2.2.1.notMem, bytes.2.2.2.notMem]
        rw [Text.splitEvery_eq_iff (by simp) dots] at parts
        refine ⟨.ofList x, .ofList y, .ofList z, .ofList d, ⟨?_, by simpa using bytes⟩, by simp⟩
        apply String.toList_injective
        simp [text, parts, List.intercalate]
      · cases h
    · cases h
  · rintro ⟨a, b, c, d, h, rfl, rfl, rfl⟩
    have dots : ∀ part ∈ [a.toList, b.toList, c.toList, d.toList], '.' ∉ part := by
      have := fun part hp => (h.bytes part hp).notMem.1
      simpa using this
    have bytes := h.bytes
    simp only [List.forall_mem_cons] at bytes
    unfold subnetBase?
    rw [h.base, Option.bind_eq_bind, Option.bind_some]
    dsimp only
    rw [(Text.splitEvery_eq_iff (by simp) dots).mpr rfl]
    simp [isSome_octet?, bytes]

/-- The first three numbers of a network, as they are written. -/
def frontOf (a b c : String) : String := a ++ "." ++ b ++ "." ++ c

/-- The address of a member ends in its index and ten, as long as there are such addresses. -/
theorem SpellsNetwork.nodeAddress_eq (h : SpellsNetwork subnet a b c d) (index : Nat) :
    nodeAddress subnet index =
      if index ≤ 244 then .ok (frontOf a b c ++ "." ++ toString (10 + index))
      else .error (.invalid s!"too many nodes for subnet {subnet}") := by
  have last : toString (10 + index) = String.ofList (Nat.toDigits 10 (10 + index)) :=
    Nat.repr_eq_ofList_toDigits
  unfold nodeAddress
  rw [subnetBase?_eq_some.mpr ⟨a, b, c, d, h, rfl, rfl, rfl⟩]
  dsimp only
  by_cases fits : index ≤ 244
  · rw [if_pos fits, if_neg (by omega), last]
    congr 1
    apply String.toList_injective
    simp [frontOf]
  · rw [if_neg fits, if_pos (by omega)]

/-- Without a network there are no addresses. -/
theorem nodeAddress_of_not_spells (none : ¬ ∃ a b c d, SpellsNetwork subnet a b c d) (index : Nat) :
    nodeAddress subnet index = .error (.invalid s!"subnet {Text.quote subnet} is not an IPv4 /24") := by
  unfold nodeAddress
  cases base : subnetBase? subnet with
  | none => rfl
  | some parts =>
    obtain ⟨a, b, c, d, h, -⟩ := subnetBase?_eq_some.mp base
    exact absurd ⟨a, b, c, d, h⟩ none

theorem nodeAddress_eq_ok : nodeAddress subnet index = .ok address ↔
    index ≤ 244 ∧ ∃ a b c d, SpellsNetwork subnet a b c d ∧
      address = frontOf a b c ++ "." ++ toString (10 + index) := by
  constructor
  · intro made
    by_cases spelled : ∃ a b c d, SpellsNetwork subnet a b c d
    · obtain ⟨a, b, c, d, h⟩ := spelled
      rw [h.nodeAddress_eq] at made
      split at made
      · rename_i fits
        cases made
        exact ⟨fits, a, b, c, d, h, rfl⟩
      · cases made
    · rw [nodeAddress_of_not_spells spelled] at made
      cases made
  · rintro ⟨fits, a, b, c, d, h, rfl⟩
    rw [h.nodeAddress_eq, if_pos fits]

theorem SpellsNetwork.gatewayAddress?_eq (h : SpellsNetwork subnet a b c d) :
    gatewayAddress? subnet = some (frontOf a b c ++ ".1") := by
  have dot : '.' ∉ d.toList := (h.bytes d (by simp)).notMem.1
  have split : Text.splitLast '.' (['.'].intercalate [a.toList, b.toList, c.toList, d.toList]) =
      some ((frontOf a b c).toList, d.toList) :=
    Text.splitLast_eq_some.mpr ⟨by simp [frontOf, List.intercalate], dot⟩
  have one : (frontOf a b c ++ ".1").toList = (frontOf a b c).toList ++ ['.', '1'] := String.toList_append
  unfold gatewayAddress?
  rw [h.base, Option.bind_eq_bind, Option.bind_some]
  dsimp only
  rw [split, Option.bind_some]
  dsimp only
  rw [← one, String.ofList_toList]
  rfl

theorem nodeAddress_inj (first : nodeAddress subnet i = .ok address)
    (second : nodeAddress subnet j = .ok address) : i = j := by
  obtain ⟨-, a, b, c, d, spells, made⟩ := nodeAddress_eq_ok.mp first
  obtain ⟨-, a', b', c', d', spells', made'⟩ := nodeAddress_eq_ok.mp second
  have front : frontOf a b c = frontOf a' b' c' := by
    have gateways := spells.gatewayAddress?_eq.symm.trans spells'.gatewayAddress?_eq
    exact (String.append_left_inj _).mp (Option.some.inj gateways)
  rw [made, front, String.append_right_inj] at made'
  have := Text.toString_inj.mp made'
  omega

theorem SpellsNetwork.nodeAddress_ne (h : SpellsNetwork subnet a b c d) (index : Nat) :
    nodeAddress subnet index ≠ .ok (frontOf a b c ++ ".1") := by
  intro made
  rw [h.nodeAddress_eq] at made
  split at made
  · have same := Except.ok.inj made
    rw [String.append_assoc, String.append_right_inj] at same
    have numbers : toString (10 + index) = toString 1 := (String.append_right_inj ".").mp same
    have := Text.toString_inj.mp numbers
    omega
  · cases made

end Container

/-! ### Members one after the other -/

namespace Orchestrator
variable {σ : Type} {o : Orchestrator σ} {fixture : Fixture} {identity : Uuid} {index left limit : Nat}
  {nodes before : List (Node σ)} {node : Node σ} {s t u : σ}

/-- Members are made from an index on, one after the other. -/
inductive Makes (o : Orchestrator σ) (fixture : Fixture) : Nat → List (Node σ) → σ → σ → Prop
  | nil (index : Nat) (s : σ) : Makes o fixture index [] s s
  | cons {index : Nat} {node : Node σ} {nodes : List (Node σ)} {s t u : σ}
    (made : (o.backend.provision index fixture).result s = (.ok node, t))
    (rest : Makes o fixture (index + 1) nodes t u) : Makes o fixture index (node :: nodes) s u

/-- Members are made up to the last one or to the first that cannot be made. -/
theorem makes_of_provisionAll {outcome : Except Failure Unit}
    (h : (o.provisionAll fixture index before left).result s = ((outcome, nodes), t)) :
    ∃ made u, nodes = before ++ made ∧ o.Makes fixture index made s u ∧
      ((outcome = .ok () ∧ made.length = left) ∨ ∃ e, outcome = .error e ∧ made.length < left ∧
        (o.backend.provision (index + made.length) fixture).result u = (.error e, t)) := by
  induction left generalizing index before s with
  | zero =>
    cases h
    exact ⟨[], s, (List.append_nil _).symm, .nil index s, .inl ⟨rfl, rfl⟩⟩
  | succ left ih =>
    unfold provisionAll at h
    rw [Call.bind_eq, Call.result_bind] at h
    rcases provisioned : (o.backend.provision index fixture).toCall.result s with ⟨outcome', v⟩
    rw [provisioned] at h
    cases outcome' with
    | error e =>
      cases h
      exact ⟨[], s, (List.append_nil _).symm, .nil index s, .inr ⟨e, rfl, Nat.succ_pos left, provisioned⟩⟩
    | ok node =>
      obtain ⟨made, u, rfl, makes, came⟩ := ih h
      refine ⟨node :: made, u, by simp, .cons provisioned makes, ?_⟩
      have next : index + (node :: made).length = index + 1 + made.length := by
        rw [List.length_cons]
        omega
      rw [next, List.length_cons, Nat.add_lt_add_iff_right, Nat.add_right_cancel_iff]
      exact came

theorem Makes.provisioned (h : o.Makes fixture index nodes s t) {k : Nat} (at_k : nodes[k]? = some node) :
    ∃ u v, (o.backend.provision (index + k) fixture).result u = (.ok node, v) := by
  induction h generalizing k with
  | nil => cases at_k
  | cons made _ ih =>
    cases k with
    | zero =>
      cases at_k
      exact ⟨_, _, made⟩
    | succ k =>
      obtain ⟨u, v, made⟩ := ih at_k
      rw [Nat.add_assoc, Nat.add_comm 1 k] at made
      exact ⟨u, v, made⟩

/-- How a deployment fails whose members cannot all be made: at once, while the backend is prepared, or while
a member is made, with at most `limit` of them before it. -/
inductive StopsBy (o : Orchestrator σ) (fixture : Fixture) (limit : Nat) (s : σ) : Failure → Prop
  | invalid {cause : FixtureError} (invalid : fixture.validate = .error cause) :
    StopsBy o fixture limit s (.fixture cause)
  | unprepared {e : Failure} {t : σ} (failed : (o.backend.prepare fixture).result s = (.error e, t)) :
    StopsBy o fixture limit s e
  | unmade {e : Failure} {s₁ t u : σ} {nodes : List (Node σ)}
    (prepared : (o.backend.prepare fixture).result s = (.ok (), s₁))
    (makes : o.Makes fixture 0 nodes s₁ t) (few : nodes.length ≤ limit)
    (failed : (o.backend.provision nodes.length fixture).result t = (.error e, u)) :
    StopsBy o fixture limit s e

/-- A deployment that asks for more members than can be made fails before that. -/
theorem stopsBy_of_deploy (bounded : ∀ nodes s t, o.Makes fixture 0 nodes s t → nodes.length ≤ limit)
    (many : limit < fixture.nodeCount) (identity : Uuid) (s : σ) :
    ∃ e t, (o.deploy fixture identity).result s = (.error e, t) ∧ o.StopsBy fixture limit s e := by
  -- All members were never made.
  have short : ∀ {nodes s t}, (o.provisionAll fixture 0 [] fixture.nodeCount).result s ≠
      ((.ok (), nodes), t) := by
    intro nodes s t all
    obtain ⟨made, u, -, makes, ⟨-, whole⟩ | ⟨e, failed, -⟩⟩ := makes_of_provisionAll all
    · have := bounded made s u makes
      omega
    · cases failed
  rcases deployed : (o.deploy fixture identity).result s with ⟨outcome, t⟩
  cases outcome with
  | ok g =>
    obtain ⟨nodes, client, -, deploys⟩ := deploy_eq_ok deployed
    obtain ⟨s₁, s₂, s₃, -, all, -⟩ := deploys.made
    exact absurd all short
  | error e =>
    refine ⟨e, t, rfl, ?_⟩
    have fails := deploy_fails ⟨deployed, rfl⟩
    generalize (o.deploy fixture identity).toCall.elapsed s = d at fails
    cases fails with
    | invalid invalid => exact .invalid invalid
    | unprepared valid failed cleared => exact .unprepared failed.result
    | unmade valid prepared failed cleared =>
      obtain ⟨made, u, rfl, makes, ⟨whole, -⟩ | ⟨e', same, -, refused⟩⟩ :=
        makes_of_provisionAll failed.result
      · cases whole
      · cases same
        rw [Nat.zero_add] at refused
        exact .unmade prepared.result makes (bounded _ _ _ makes) refused
    | unreached valid prepared made failed cleared => exact absurd made.result short
    | untaken valid prepared made reached failed cleared => exact absurd made.result short

end Orchestrator

/-! ### The containers of a deployment -/

namespace Container
variable {σ : Type} {p : Project σ} {connector : Connector σ} {fixture : Fixture} {nodes : List (Node σ)}
  {node : Node σ} {index i j : Nat} {e : Endpoint} {s t : σ}

/-- The endpoint that a fixture in containers has for the member with an index. -/
def HasEndpoint (fixture : Fixture) (index : Nat) (e : Endpoint) : Prop :=
  ∃ spec address, fixture.backend = .containers spec ∧ nodeAddress spec.subnet index = .ok address ∧
    e = .ofParts address spec.memberPort

theorem HasEndpoint.le (h : HasEndpoint fixture index e) : index ≤ 244 := by
  obtain ⟨spec, address, -, made, -⟩ := h
  exact (nodeAddress_eq_ok.mp made).1

theorem HasEndpoint.inj (first : HasEndpoint fixture i e) (second : HasEndpoint fixture j e) : i = j := by
  obtain ⟨spec, address, backend, made, rfl⟩ := first
  obtain ⟨spec', address', backend', made', same⟩ := second
  cases backend.symm.trans backend'
  have parts := @Endpoint.ofParts_injective (address, spec.memberPort) (address', spec.memberPort) same
  obtain ⟨rfl, -⟩ := Prod.mk.inj parts
  exact nodeAddress_inj made made'

theorem specOf_eq_ok {spec : ContainerSpec} (h : specOf fixture = .ok spec) :
    fixture.backend = .containers spec := by
  unfold specOf at h
  split at h
  · rename_i backend
    cases h
    exact backend
  · cases h

/-- Whatever the daemon does, a member that was made has the endpoint for its index. -/
theorem hasEndpoint_of_provision (made : (p.provision index fixture).result s = (.ok node, t)) :
    HasEndpoint fixture index node.id := by
  obtain ⟨spec, s₁, specified, made⟩ := Attempt.bind_eq_ok made
  obtain ⟨address, s₂, addressed, made⟩ := Attempt.bind_eq_ok made
  obtain ⟨_, s₃, created, made⟩ := Attempt.bind_eq_ok made
  obtain ⟨commanded, s₄, roomed, made⟩ := Attempt.bind_eq_ok made
  obtain ⟨_, s₅, started, made⟩ := Attempt.bind_eq_ok made
  cases made
  refine ⟨spec, address, specOf_eq_ok (Attempt.give_eq_ok specified).1, ?_, rfl⟩
  have addressed := (Attempt.give_eq_ok addressed).1
  cases known : nodeAddress spec.subnet index with
  | ok a =>
    rw [known] at addressed
    cases addressed
    rfl
  | error e =>
    rw [known] at addressed
    cases addressed

section makes
variable (h : Orchestrator.Makes ⟨p.backend, connector⟩ fixture 0 nodes s t)
include h

theorem hasEndpoint_of_makes {k : Nat} (at_k : nodes[k]? = some node) : HasEndpoint fixture k node.id := by
  obtain ⟨u, v, made⟩ := h.provisioned at_k
  rw [Nat.zero_add] at made
  exact hasEndpoint_of_provision made

theorem nodup_of_makes : (nodes.map Node.id).Nodup := by
  rw [List.nodup_iff_getElem?_ne_getElem?]
  intro i j before inside same
  rw [List.length_map] at inside
  rw [List.getElem?_map, List.getElem?_map, List.getElem?_eq_getElem inside,
    List.getElem?_eq_getElem (before.trans inside)] at same
  have first := hasEndpoint_of_makes h (List.getElem?_eq_getElem (before.trans inside))
  have second := hasEndpoint_of_makes h (List.getElem?_eq_getElem inside)
  rw [Option.some.inj same] at first
  exact absurd (first.inj second) (Nat.ne_of_lt before)

/-- The member with the index 245 cannot be made. -/
theorem length_of_makes : nodes.length ≤ 245 := by
  refine Nat.le_of_not_lt fun more => ?_
  have last := (hasEndpoint_of_makes h (List.getElem?_eq_getElem more)).le
  omega

end makes

/-- An address in a network is made of the first three numbers of the network as they are written and a number
from 10 to 254, which is another one for each member; the address of the gateway has the same three numbers and
a one.  There is such an address exactly for the indices up to 244 of a text that spells a network.  So the
members that a deployment makes have different endpoints, and where more than 245 are asked for, the
deployment fails while one with an index of at most 245 is made, or before. -/
theorem addresses_never_collide (p : Project σ) (connector : Connector σ) (fixture : Fixture)
    (identity : Uuid) (s : σ) :
    (∀ subnet index, (∃ address, nodeAddress subnet index = .ok address) ↔
      (∃ a b c d, SpellsNetwork subnet a b c d) ∧ index ≤ 244) ∧
    (∀ subnet a b c d, SpellsNetwork subnet a b c d → gatewayAddress? subnet = some (frontOf a b c ++ ".1") ∧
      ∀ index address, nodeAddress subnet index = .ok address → address ≠ frontOf a b c ++ ".1" ∧
        ∃ n, 10 ≤ n ∧ n ≤ 254 ∧ address = frontOf a b c ++ "." ++ toString n) ∧
    (∀ subnet i j address, nodeAddress subnet i = .ok address → nodeAddress subnet j = .ok address → i = j) ∧
    (∀ outcome nodes u v, (Orchestrator.provisionAll ⟨p.backend, connector⟩ fixture 0 []
        fixture.nodeCount).result u = ((outcome, nodes), v) →
      (nodes.map Node.id).Nodup ∧ ∀ k node, nodes[k]? = some node → HasEndpoint fixture k node.id) ∧
    (∀ g t, (Orchestrator.deploy ⟨p.backend, connector⟩ fixture identity).result s = (.ok g, t) →
      g.endpoints.Nodup ∧ g.endpoints.length = fixture.nodeCount ∧ fixture.nodeCount ≤ 245) ∧
    (245 < fixture.nodeCount → ∃ e t,
      (Orchestrator.deploy ⟨p.backend, connector⟩ fixture identity).result s = (.error e, t) ∧
        Orchestrator.StopsBy ⟨p.backend, connector⟩ fixture 245 s e) := by
  refine ⟨fun subnet index => ?_, fun subnet a b c d h => ⟨h.gatewayAddress?_eq, fun index address made => ?_⟩,
    fun subnet i j address => nodeAddress_inj, fun outcome nodes u v made => ?_, fun g t deployed => ?_,
    fun many => ?_⟩
  · constructor
    · rintro ⟨address, made⟩
      obtain ⟨fits, a, b, c, d, h, -⟩ := nodeAddress_eq_ok.mp made
      exact ⟨⟨a, b, c, d, h⟩, fits⟩
    · rintro ⟨⟨a, b, c, d, h⟩, fits⟩
      exact ⟨_, nodeAddress_eq_ok.mpr ⟨fits, a, b, c, d, h, rfl⟩⟩
  · refine ⟨fun same => h.nodeAddress_ne index (same ▸ made), ?_⟩
    rw [h.nodeAddress_eq] at made
    split at made
    · cases made
      exact ⟨10 + index, by omega, by omega, rfl⟩
    · cases made
  · obtain ⟨_, t, rfl, makes, -⟩ := Orchestrator.makes_of_provisionAll made
    exact ⟨nodup_of_makes makes, fun k node at_k => hasEndpoint_of_makes makes at_k⟩
  · obtain ⟨nodes, client, rfl, deploys⟩ := Orchestrator.deploy_eq_ok deployed
    obtain ⟨s₁, s₂, s₃, -, all, -⟩ := deploys.made
    obtain ⟨made, u, rfl, makes, ⟨-, whole⟩ | ⟨e, failed, -⟩⟩ := Orchestrator.makes_of_provisionAll all
    · rw [← whole]
      exact ⟨nodup_of_makes makes, List.length_map .., length_of_makes makes⟩
    · cases failed
  · exact Orchestrator.stopsBy_of_deploy (fun nodes u v makes => length_of_makes makes) many identity s

/-- A network that is written with a sign and with leading zeros, and a deployment of one member too many. -/
theorem addresses_never_collide_crowded :
    SpellsNetwork "10.+20.030.0/24" "10" "+20" "030" "0" ∧
    gatewayAddress? "10.+20.030.0/24" = some "10.+20.030.1" ∧
    (∃ address, nodeAddress "10.+20.030.0/24" 244 = .ok address ∧ address ≠ "10.+20.030.1" ∧
      nodeAddress "10.+20.030.0/24" 0 ≠ .ok address) ∧
    ∃ e t, (Orchestrator.deploy ⟨Ledger.watched.project.backend, Ledger.down⟩ (Ledger.fixture 246)
        default).result (Ledger.blank []) = (.error e, t) ∧
      Orchestrator.StopsBy ⟨Ledger.watched.project.backend, Ledger.down⟩ (Ledger.fixture 246) 245
        (Ledger.blank []) e := by
  have spells : SpellsNetwork "10.+20.030.0/24" "10" "+20" "030" "0" := by
    refine ⟨by decide, fun part hp => ?_⟩
    have digits : ∀ part ∈ ["10", "+20", "030", "0"], (octet? part.toList).isSome = true := by decide
    exact isSome_octet?.mp (digits part hp)
  obtain ⟨accepts, shares, apart, -, -, crowded⟩ := addresses_never_collide Ledger.watched.project
    Ledger.down (Ledger.fixture 246) default (Ledger.blank [])
  obtain ⟨gateway, others⟩ := shares _ _ _ _ _ spells
  obtain ⟨address, last⟩ := (accepts "10.+20.030.0/24" 244).mpr ⟨⟨_, _, _, _, spells⟩, Nat.le_refl _⟩
  refine ⟨spells, gateway, ⟨address, last, (others 244 address last).1, fun first => ?_⟩, crowded (by decide)⟩
  exact absurd (apart _ _ _ _ first last) (by decide)

end Container

end FaultLab
