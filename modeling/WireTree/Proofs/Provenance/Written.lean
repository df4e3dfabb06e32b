import WireTree.Proofs.Integers.Field
import WireTree.Proofs.Provenance.Basic
import WireTree.Proofs.Spelling.Shared

/-!
# Schemas with one spelling for each value

Texts, integers and lists of them leave no choice of notation, so that a value is read from what is
written for it and from nothing else.
Main statements: `Grammar.oneSpelling_list`, with the scalars that it starts from; and, where there
is a choice, what is read as a table (`Grammar.read_table_iff`), and what is read from a payload
under a tag, in whichever notation (`Grammar.exists_of_read_tagged`).
-/

namespace WireTree

open Json (Numeral Outline nestingItems nestingMembers outlineItems outlineMembers)

variable {ι α β γ : Type}

namespace Grammar

/-- A value is read from the outline of what is written for it, whenever the containers in it may be
opened, and from no other. -/
def OneSpelling (g : Grammar ι) (schema : Schema g.Carrier α) (write : α → Json) : Prop :=
  ∀ depth feed o a,
    g.read depth feed schema o = .ok a ↔ o = (write a).outline ∧ (write a).nesting ≤ depth

variable {g : Grammar ι} {depth : Nat} {feed : Feed}

theorem oneSpelling_string : g.OneSpelling Format.string .text := by
  intro depth feed o s
  have scalar : g.read depth feed Format.string o = Schema.readText id o := by
    cases depth <;> rfl
  rw [scalar]
  constructor
  · intro read
    cases o with
    | text content =>
      cases content with
      | none => simp [Schema.readText] at read
      | some s =>
        cases read
        exact ⟨rfl, Nat.zero_le depth⟩
    | _ => simp [Schema.readText] at read
  · rintro ⟨rfl, -⟩
    rfl

theorem readInteger_eq_ok_iff {rule : IntegerRule α} {o : Outline} {a : α} :
    Schema.readInteger rule o = .ok a ↔
      ∃ numeral k, o = .number numeral ∧ numeral.toInteger? = some k ∧ rule.accept k = .ok a := by
  cases o with
  | number numeral =>
    cases integer : numeral.toInteger? with
    | none => simp [Schema.readInteger, integer]
    | some k => cases accepted : rule.accept k <;> simp [Schema.readInteger, integer, accepted]
  | _ => simp [Schema.readInteger]

/-- An integer has one literal, and if 64 bits hold it the literal counts as an integer. -/
theorem oneSpelling_integer {rule : IntegerRule α} (value : α → Int)
    (accepts : ∀ k a, rule.accept k = .ok a ↔ k = value a)
    (fits : ∀ a, Numeral.Fits64 (value a)) :
    g.OneSpelling (.integer rule) fun a => .ofInt (value a) := by
  intro depth feed o a
  have scalar : g.read depth feed (.integer rule) o = Schema.readInteger rule o := by
    cases depth <;> rfl
  rw [scalar, readInteger_eq_ok_iff]
  constructor
  · rintro ⟨numeral, k, rfl, integer, accepted⟩
    obtain ⟨denotes, -⟩ := Numeral.toInteger?_eq_some_iff.mp integer
    obtain rfl := Numeral.denotes_iff_eq_ofInt.mp denotes
    obtain rfl := (accepts k a).mp accepted
    exact ⟨rfl, Nat.zero_le depth⟩
  · rintro ⟨rfl, -⟩
    have denotes := Numeral.denotes_iff_eq_ofInt.mpr (rfl : Numeral.ofInt (value a) = _)
    exact ⟨_, _, rfl, Numeral.toInteger?_eq_some_iff.mpr ⟨denotes, fits a⟩,
      (accepts _ a).mpr rfl⟩

theorem oneSpelling_word : g.OneSpelling Format.word fun w : UInt32 => .ofInt w.toNat := by
  refine oneSpelling_integer (fun w : UInt32 => (w.toNat : Int)) ?_ ?_
  · intro k w
    have bound : w.toNat < 4294967296 := w.toNat_lt
    have size : (UInt32.size : Int) = 4294967296 := rfl
    by_cases inside : 0 ≤ k ∧ k ≤ (UInt32.size - 1 : Int)
    · rw [Format.accept_bounded inside.1 inside.2, Except.ok.injEq, ← UInt32.toNat_inj,
        UInt32.toNat_ofNat_of_lt' (by omega)]
      omega
    · refine iff_of_false ?_ (by omega)
      show (if 0 ≤ k ∧ k ≤ (UInt32.size - 1 : Int) then _ else _) ≠ _
      rw [if_neg inside]
      nofun
  · intro w
    have bound : w.toNat < 4294967296 := w.toNat_lt
    rw [Numeral.fits64_iff]
    omega

theorem ofInt?_eq_some_iff {k : Int} {s : BigInteger.Sign} :
    BigInteger.Sign.ofInt? k = some s ↔ k = s.toInt := by
  unfold BigInteger.Sign.ofInt?
  split_ifs with negative zero positive
  · cases s <;> simp [BigInteger.Sign.toInt, negative]
  · cases s <;> simp [BigInteger.Sign.toInt, zero]
  · cases s <;> simp [BigInteger.Sign.toInt, positive]
  · cases s <;> simp [BigInteger.Sign.toInt, negative, zero, positive]

theorem oneSpelling_sign : g.OneSpelling Format.sign fun s => .ofInt s.toInt := by
  refine oneSpelling_integer BigInteger.Sign.toInt ?_ ?_
  · intro k s
    dsimp only
    by_cases inside : -128 ≤ k ∧ k < 128
    · rw [if_pos inside, ← ofInt?_eq_some_iff]
      cases BigInteger.Sign.ofInt? k <;> simp
    · rw [if_neg inside]
      refine iff_of_false nofun ?_
      cases s <;> simp only [BigInteger.Sign.toInt] <;> omega
  · intro s
    cases s <;> decide

/-! ## Lists -/

variable {schema : Schema g.Carrier α} {write : α → Json}

theorem OneSpelling.forall₂_iff (item : g.OneSpelling schema write) {items : List Outline}
    {values : List α} :
    List.Forall₂ (fun o a => g.read depth feed schema o = .ok a) items values ↔
      items = outlineItems (values.map write) ∧ nestingItems (values.map write) ≤ depth := by
  induction values generalizing items with
  | nil =>
    rw [List.forall₂_nil_right_iff]
    constructor
    · rintro rfl
      exact ⟨rfl, Nat.zero_le depth⟩
    · rintro ⟨rfl, -⟩
      rfl
  | cons a values ih =>
    rw [List.forall₂_cons_right_iff, List.map_cons, outlineItems, nestingItems, Nat.max_le]
    constructor
    · rintro ⟨first, items, read, others, rfl⟩
      obtain ⟨rfl, shallow⟩ := (item depth feed first a).mp read
      obtain ⟨rfl, below⟩ := ih.mp others
      exact ⟨rfl, shallow, below⟩
    · rintro ⟨rfl, shallow, below⟩
      exact ⟨_, _, (item depth feed _ a).mpr ⟨rfl, shallow⟩, ih.mpr ⟨rfl, below⟩, rfl⟩

theorem oneSpelling_list {wanted : String} (item : g.OneSpelling schema write) :
    g.OneSpelling (.list wanted schema) (.ofList write) := by
  intro depth feed o values
  constructor
  · intro read
    obtain ⟨inner, items, rfl, rfl, each⟩ := exists_of_read_list read
    obtain ⟨rfl, below⟩ := item.forall₂_iff.mp each
    exact ⟨rfl, Nat.succ_le_succ below⟩
  · rintro ⟨rfl, shallow⟩
    cases depth with
    | zero => cases shallow
    | succ depth =>
      refine bind_eq_ok_iff.mpr ⟨values, mapM_eq_ok_iff.mpr ?_, rfl⟩
      exact item.forall₂_iff.mpr ⟨rfl, Nat.le_of_succ_le_succ shallow⟩

/-- A pair is read from an array of two items. -/
theorem read_pair_iff {wanted counted : String} {first : Schema g.Carrier α}
    {second : Schema g.Carrier β} {make : α × β × Unit → γ} {o : Outline} {c : γ} :
    g.read depth feed (.shape (.tuple wanted counted (.cons first (.cons second .nil)) make)) o =
        .ok c ↔
      ∃ inner x y a b, depth = inner + 1 ∧ o = .array [x, y] true ∧
        g.read inner feed first x = .ok a ∧ g.read inner feed second y = .ok b ∧
        make (a, b, ()) = c := by
  constructor
  · intro read
    cases o with
    | array items closed =>
      cases depth with
      | zero => cases read
      | succ inner =>
        obtain ⟨⟨values, extra⟩, elements, finished⟩ := bind_eq_ok_iff.mp read
        obtain ⟨rfl, rfl, made⟩ := finishArray_eq_ok_iff.mp finished
        obtain _ | ⟨x, items⟩ := items
        · cases elements
        · obtain ⟨a, readFirst, elements⟩ := bind_eq_ok_iff.mp elements
          obtain ⟨⟨values, extra⟩, elements, same⟩ := bind_eq_ok_iff.mp elements
          cases same
          obtain _ | ⟨y, items⟩ := items
          · cases elements
          · obtain ⟨b, readSecond, elements⟩ := bind_eq_ok_iff.mp elements
            obtain ⟨⟨values, extra⟩, elements, same⟩ := bind_eq_ok_iff.mp elements
            cases same
            cases elements
            exact ⟨inner, x, y, a, b, rfl, rfl, readFirst, readSecond, made⟩
    | _ => cases depth <;> simp [Grammar.read, Schema.layer, Shape.read] at read
  · rintro ⟨inner, x, y, a, b, rfl, rfl, readFirst, readSecond, made⟩
    have elements : (Items.cons first (.cons second .nil)).readElements (g.inside inner) feed
        counted true 0 [x, y] = .ok ((a, b, ()), []) := by
      refine bind_eq_ok_iff.mpr ⟨a, readFirst, bind_eq_ok_iff.mpr ⟨((b, ()), []), ?_, rfl⟩⟩
      exact bind_eq_ok_iff.mpr ⟨b, readSecond, rfl⟩
    exact bind_eq_ok_iff.mpr ⟨_, elements, finishArray_eq_ok_iff.mpr ⟨rfl, rfl, made⟩⟩

/-! ## Tables -/

/-- Entries are read from the members that are written for pairs, and put in the order of these. -/
theorem OneSpelling.readEntries_iff (item : g.OneSpelling schema write)
    {members : List Outline.Member} {before after : Table α} :
    (g.inside depth).readEntries feed schema before members = .ok after ↔
      ∃ pairs : List (String × α),
        members = outlineMembers (pairs.map fun pair => (pair.1, write pair.2)) ∧
        nestingMembers (pairs.map fun pair => (pair.1, write pair.2)) ≤ depth ∧
        pairs.foldl (fun t pair => t.put pair.1 pair.2) before = after := by
  induction members generalizing before with
  | nil =>
    constructor
    · intro read
      cases read
      exact ⟨[], rfl, Nat.zero_le depth, rfl⟩
    · rintro ⟨pairs, none, -, rfl⟩
      cases pairs with
      | nil => rfl
      | cons => cases none
  | cons member members ih =>
    obtain ⟨key, value⟩ := member
    constructor
    · intro read
      cases key with
      | none => cases read
      | some key =>
        obtain ⟨a, first, others⟩ := bind_eq_ok_iff.mp read
        obtain ⟨rfl, shallow⟩ := (item depth feed value a).mp first
        obtain ⟨pairs, rfl, below, made⟩ := ih.mp others
        exact ⟨(key, a) :: pairs, rfl, Nat.max_le.mpr ⟨shallow, below⟩, made⟩
    · rintro ⟨pairs, same, below, made⟩
      cases pairs with
      | nil => cases same
      | cons pair pairs =>
        cases same
        obtain ⟨shallow, below⟩ := Nat.max_le.mp below
        refine bind_eq_ok_iff.mpr ⟨pair.2, (item depth feed _ _).mpr ⟨rfl, shallow⟩, ?_⟩
        exact ih.mpr ⟨pairs, rfl, below, made⟩

/-- A table leaves no choice but which values of its keys stand before the last ones. -/
theorem read_table_iff (item : g.OneSpelling schema write) {o : Outline} {table : Table α} :
    g.read depth feed (.table schema) o = .ok table ↔
      ∃ pairs : List (String × α),
        o = (Json.object (pairs.map fun pair => (pair.1, write pair.2))).outline ∧
        (Json.object (pairs.map fun pair => (pair.1, write pair.2))).nesting ≤ depth ∧
        Table.ofList pairs = table := by
  constructor
  · intro read
    cases o with
    | object members closed =>
      cases depth with
      | zero => cases read
      | succ depth =>
        obtain ⟨entries, found, finished⟩ := bind_eq_ok_iff.mp read
        obtain ⟨pairs, rfl, below, made⟩ := item.readEntries_iff.mp found
        cases closed with
        | false => cases finished
        | true =>
          cases finished
          exact ⟨pairs, rfl, Nat.succ_le_succ below, made⟩
    | _ => cases depth <;> simp [Grammar.read, Schema.layer] at read
  · rintro ⟨pairs, rfl, shallow, made⟩
    cases depth with
    | zero => cases shallow
    | succ depth =>
      have below := Nat.le_of_succ_le_succ shallow
      refine bind_eq_ok_iff.mpr ⟨table, ?_, rfl⟩
      exact item.readEntries_iff.mpr ⟨pairs, rfl, below, made⟩

/-! ## Unions -/

/-- The notations of a payload under a tag: an object in which the tag or the payload is first, with
members under other keys or without, and an array of both. -/
inductive Tagged (tag : String) (payload : Json) : Json → Prop where
  | members {members : List (String × Json)}
      (both : Arms.unionMembers members = [("type", .text tag), ("value", payload)]) :
      Tagged tag payload (.object members)
  | turned {members : List (String × Json)}
      (both : Arms.unionMembers members = [("value", payload), ("type", .text tag)]) :
      Tagged tag payload (.object members)
  | items : Tagged tag payload (.array [.text tag, payload])

/-- What is read from a payload under a tag is what the alternative makes of the payload. -/
theorem exists_of_read_tagged {n : Nat} {name tag : String} {arms : Arms (Schema g.Carrier) n α}
    {make : β → α} {inner : Schema g.Carrier β} {payload json : Json} {a : α}
    (offered : arms.offers.lookup tag = some (.payload inner make))
    (tagged : Tagged tag payload json)
    (read : g.read depth feed (.shape (.union name arms)) json.outline = .ok a) :
    ∃ depth' feed' b, g.read depth' feed' inner payload.outline = .ok b ∧ make b = a := by
  obtain ⟨parts, open_, conforms⟩ := conforms_iff.mp (read_eq_ok_iff.mp read)
  cases depth with
  | zero => cases open_
  | succ depth =>
    cases open_
    have made {feed : Feed} (present : (Offer.payload inner make).Present (g.parts depth) feed
        payload a) : ∃ depth' feed' b, g.read depth' feed' inner payload.outline = .ok b ∧
          make b = a := by
      obtain ⟨b, conforms, made⟩ := present
      exact ⟨depth, feed, b, read_eq_ok_iff.mpr conforms, made⟩
    cases tagged with
    | members both =>
      obtain ⟨_, _, offer, gives, found, held⟩ := conforms
      rw [both] at held
      rcases held with ⟨alone, -⟩ | ⟨value, ⟨same, present⟩ | ⟨turned, -⟩⟩
      · cases alone
      · cases same
        cases gives
        cases offered.symm.trans found
        exact made present
      · simp at turned
    | turned both =>
      obtain ⟨_, _, offer, gives, found, held⟩ := conforms
      rw [both] at held
      rcases held with ⟨alone, -⟩ | ⟨value, ⟨same, -⟩ | ⟨same, -, present⟩⟩
      · simp at alone
      · simp at same
      · cases same
        cases gives
        cases offered.symm.trans found
        exact made present
    | items =>
      obtain ⟨_, _, _, offer, same, identifies, present⟩ := conforms
      cases same
      cases identifies with
      | name found =>
        cases offered.symm.trans found
        exact made present

end Grammar

end WireTree
