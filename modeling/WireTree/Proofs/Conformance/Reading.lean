import WireTree.Proofs.Conformance.Basic
import WireTree.Proofs.Outcome

/-!
# Reading succeeds exactly for what conforms

Reading a JSON value by a schema succeeds exactly if the value conforms, and yields the value that
it conforms as. Reading takes the parts of a value in turn and stops at the first that does not fit,
so what has to be shown is that nothing else depends on the order.
Main statement: `Grammar.read_eq_ok_iff`, for every grammar, every schema and every limit on the
containers that may be opened, with `Fields.readObject_eq_ok_iff` for the members of an object.
-/

namespace WireTree

open Json (Outline outlineItems outlineMembers)

variable {S : Type → Type 1} {α β σ τ : Type}

/-! ## Outcomes that are no values -/

@[simp] theorem refuse_eq_ok_iff {why : Refusal} {a : α} : refuse why = .ok a ↔ False :=
  iff_of_false nofun id

@[simp] theorem malformed_eq_ok_iff {a : α} : malformed = .ok a ↔ False :=
  iff_of_false nofun id

@[simp] theorem mismatch_eq_ok_iff {o : Json.Outline} {wanted : String} {a : α} :
    mismatch o wanted = .ok a ↔ False := by
  unfold mismatch
  cases o.found? <;> simp

theorem Schema.misnamed_eq_ok_iff {check : KeyCheck} {o : Json.Outline} {a : α} :
    misnamed check o = .ok a ↔ False := by
  cases o with
  | misplaced value =>
    cases check with
    | syntactic => exact malformed_eq_ok_iff
    | typed => exact mismatch_eq_ok_iff
  | _ => exact malformed_eq_ok_iff

/-! ## Members by their keys -/

section Members

variable {κ ν ω : Type} [DecidableEq κ] {members : List (κ × ν)} {key name : κ} {value : ν}

theorem valuesOf_cons_self :
    valuesOf ((key, value) :: members) key = value :: valuesOf members key := by
  simp [valuesOf]

theorem valuesOf_cons_of_ne (different : name ≠ key) :
    valuesOf ((name, value) :: members) key = valuesOf members key := by
  simp [valuesOf, different]

theorem besides_cons_self : besides ((key, value) :: members) key = besides members key := by
  simp [besides]

theorem besides_cons_of_ne (different : name ≠ key) :
    besides ((name, value) :: members) key = (name, value) :: besides members key := by
  simp [besides, different]

theorem valuesOf_append_cons (before after : List (κ × ν)) :
    valuesOf (before ++ (name, value) :: after) key =
      valuesOf before key ++
        if name = key then value :: valuesOf after key else valuesOf after key := by
  by_cases same : name = key <;> simp [valuesOf, same]

theorem besides_append_cons (before after : List (κ × ν)) :
    besides (before ++ (name, value) :: after) key =
      besides before key ++
        if name = key then besides after key else (name, value) :: besides after key := by
  by_cases same : name = key <;> simp [besides, same]

theorem mem_valuesOf : value ∈ valuesOf members key ↔ (key, value) ∈ members := by
  simp [valuesOf]

theorem mem_besides {member : κ × ν} :
    member ∈ besides members key ↔ member ∈ members ∧ member.1 ≠ key := by
  simp [besides]

theorem valuesOf_besides (different : key ≠ name) :
    valuesOf (besides members name) key = valuesOf members key := by
  rw [valuesOf, besides, List.filter_filter]
  refine congrArg _ (List.filter_congr fun member _ => ?_)
  by_cases own : member.1 = key <;> simp [own, different]

end Members

namespace Json

theorem intact_outline (json : Json) : json.outline.intact = true := by
  cases json <;> rfl

theorem outline_eq_null_iff {json : Json} : json.outline = .null ↔ json = .null := by
  cases json <;> simp [outline]

theorem valuesOf_outlineMembers (members : List (String × Json)) (key : String) :
    valuesOf (outlineMembers members) (some key) = (valuesOf members key).map outline := by
  rw [outlineMembers_eq_map]
  simp [valuesOf, List.filter_map, Function.comp_def]

theorem besides_outlineMembers (members : List (String × Json)) (key : String) :
    besides (outlineMembers members) (some key) = outlineMembers (besides members key) := by
  rw [outlineMembers_eq_map, outlineMembers_eq_map]
  simp [besides, List.filter_map, Function.comp_def]

end Json

variable {inside : Inside S} {feed : Feed}

/-! ## The members of an object -/

namespace Fields

variable {members : List Outline.Member}

/-- Members under unknown keys are skipped. -/
theorem readMembers_nil_eq_ok_iff {slots : Unit} :
    (nil : Fields S Unit Unit).readMembers inside feed () members = .ok slots ↔
      ∀ member ∈ members, member.1.isSome = true ∧ member.2.intact = true := by
  induction members with
  | nil => exact iff_of_true rfl nofun
  | cons member members ih =>
    obtain ⟨key, value⟩ := member
    cases key with
    | none => exact iff_of_false nofun fun each => nomatch (each _ List.mem_cons_self).1
    | some key =>
      show (if value.intact then nil.readMembers inside feed () members else malformed) = _ ↔ _
      cases intact : value.intact with
      | true => simp [ih, intact]
      | false => simp [intact]

/-- Taking the members of an object, the first field takes those under its key, of which there
may be one if it has no value yet, and the other fields take the rest. -/
theorem readMembers_cons_eq_ok_iff {key : String} {presence : Presence α} {schema : S α}
    {rest : Fields S σ τ} {slot slot' : Option α} {slots slots' : σ} :
    (cons key presence schema rest).readMembers inside feed (slot, slots) members =
        .ok (slot', slots') ↔
      (valuesOf members (some key) = [] ∧ slot' = slot ∨
        slot = none ∧ ∃ value a, valuesOf members (some key) = [value] ∧
          inside.read feed schema value = .ok a ∧ slot' = some a) ∧
      rest.readMembers inside feed slots (besides members (some key)) = .ok slots' := by
  induction members generalizing slot slots with
  | nil => simp [readMembers, valuesOf, besides, eq_comm]
  | cons member members ih =>
    obtain ⟨name, value⟩ := member
    by_cases same : name = some key
    · subst same
      rw [readMembers, readMember, if_pos rfl, valuesOf_cons_self, besides_cons_self]
      cases slot with
      | some a => simp [bind_eq_ok_iff]
      | none =>
        -- the first value of the key fills the slot, and no other may follow
        have filled (a : α) := @ih (some a) slots
        show ((inside.read feed schema value >>= fun a => .ok (some (some a, slots))) >>= _) = _ ↔ _
        rw [bind_assoc, bind_eq_ok_iff]
        constructor
        · rintro ⟨a, read, more⟩
          obtain ⟨⟨alone, last⟩ | ⟨empty, -⟩, others⟩ := (filled a).mp more
          · exact ⟨.inr ⟨rfl, value, a, by rw [alone], read, last⟩, others⟩
          · cases empty
        · rintro ⟨⟨empty, -⟩ | ⟨-, _, a, alone, read, rfl⟩, others⟩
          · cases empty
          · obtain ⟨rfl, empty⟩ := List.cons.inj alone
            exact ⟨a, read, (filled a).mpr ⟨.inl ⟨empty, rfl⟩, others⟩⟩
    · rw [valuesOf_cons_of_ne same, besides_cons_of_ne same]
      cases name with
      | none => exact iff_of_false (by rintro ⟨⟩) (by rintro ⟨-, ⟨⟩⟩)
      | some name =>
        have different : key ≠ name := fun equal => same (congrArg some equal.symm)
        rw [readMembers, readMember, if_neg different, readMembers]
        cases rest.readMember inside feed name value slots with
        | error e => exact iff_of_false (by rintro ⟨⟩) (by rintro ⟨-, ⟨⟩⟩)
        | ok found =>
          cases found with
          | some slots'' => exact ih
          | none =>
            show (if value.intact then _ else _) = _ ↔ _ ∧ (if value.intact then _ else _) = _
            cases value.intact with
            | true => exact ih
            | false => simp

/-- A slot is resolved to the value in it, or else to the one that stands for an absent member. -/
theorem resolve_eq_ok_iff {key : String} {presence : Presence α} {slot : Option α} {a : α} :
    resolve key presence slot = .ok a ↔ slot.or presence.absent? = some a := by
  cases slot with
  | some value => simp [resolve]
  | none => cases presence <;> simp [resolve, Presence.absent?]

theorem complete_cons_eq_ok_iff {key : String} {presence : Presence α} {schema : S α}
    {rest : Fields S σ τ} {slot : Option α} {slots : σ} {a : α} {values : τ} :
    (cons key presence schema rest).complete (slot, slots) = .ok (a, values) ↔
      slot.or presence.absent? = some a ∧ rest.complete slots = .ok values := by
  simp [complete, bind_eq_ok_iff, resolve_eq_ok_iff, pure, Except.pure]

variable {closed : Bool}

/-- Without fields, the members only have to be well formed. -/
theorem readObject_nil_eq_ok_iff {values : Unit} :
    (nil : Fields S Unit Unit).readObject inside feed members closed = .ok values ↔
      closed = true ∧ ∀ member ∈ members, member.1.isSome = true ∧ member.2.intact = true := by
  rw [readObject, bind_eq_ok_iff]
  cases closed with
  | true => simp [readMembers_nil_eq_ok_iff, blank, complete]
  | false => simp

/-- Of an object, the first field takes the value under its key, or what stands for an absent
one, and the other fields take the other members. -/
theorem readObject_cons_eq_ok_iff {key : String} {presence : Presence α} {schema : S α}
    {rest : Fields S σ τ} {a : α} {values : τ} :
    (cons key presence schema rest).readObject inside feed members closed = .ok (a, values) ↔
      (valuesOf members (some key) = [] ∧ presence.absent? = some a ∨
        ∃ value, valuesOf members (some key) = [value] ∧
          inside.read feed schema value = .ok a) ∧
      rest.readObject inside feed (besides members (some key)) closed = .ok values := by
  rw [readObject, readObject, bind_eq_ok_iff, bind_eq_ok_iff]
  cases closed with
  | false => simp
  | true =>
    constructor
    · rintro ⟨⟨slot, slots⟩, taken, completed⟩
      obtain ⟨first, others⟩ := readMembers_cons_eq_ok_iff.mp taken
      obtain ⟨resolved, completed⟩ := complete_cons_eq_ok_iff.mp completed
      refine ⟨?_, slots, others, completed⟩
      rcases first with ⟨absent, rfl⟩ | ⟨-, value, b, alone, read, rfl⟩
      · exact .inl ⟨absent, resolved⟩
      · cases resolved
        exact .inr ⟨value, alone, read⟩
    · rintro ⟨⟨absent, resolved⟩ | ⟨value, alone, read⟩, slots, others, completed⟩
      · exact ⟨(none, slots), readMembers_cons_eq_ok_iff.mpr ⟨.inl ⟨absent, rfl⟩, others⟩,
          complete_cons_eq_ok_iff.mpr ⟨resolved, completed⟩⟩
      · exact ⟨(some a, slots),
          readMembers_cons_eq_ok_iff.mpr ⟨.inr ⟨rfl, value, a, alone, read, rfl⟩, others⟩,
          complete_cons_eq_ok_iff.mpr ⟨rfl, completed⟩⟩

end Fields

/-- The parts of a container are read exactly if they conform. -/
structure Exact (inside : Inside S) (parts : Parts S) : Prop where
  depth : inside.depth = parts.depth
  read : ∀ {α : Type} {feed : Feed} {schema : S α} {json : Json} {a : α},
    inside.read feed schema json.outline = .ok a ↔ parts.Conform feed schema json a

variable {parts : Parts S}

/-! ## Records and tuples -/

namespace Fields

theorem readObject_eq_ok_iff (reads : Exact inside parts) {fields : Fields S σ τ}
    {members : List (String × Json)} {values : τ} :
    fields.readObject inside feed (outlineMembers members) true = .ok values ↔
      fields.ConformObject (parts.Conform feed) members values := by
  induction fields generalizing members with
  | nil =>
    rw [readObject_nil_eq_ok_iff, Json.outlineMembers_eq_map, List.forall_mem_map]
    simp [ConformObject, Json.intact_outline]
  | cons key presence schema rest ih =>
    obtain ⟨a, values⟩ := values
    rw [readObject_cons_eq_ok_iff, Json.valuesOf_outlineMembers, Json.besides_outlineMembers, ih,
      ConformObject]
    simp [List.map_eq_singleton_iff, reads.read]

theorem readElements_eq_ok_iff (reads : Exact inside parts) {wanted : String}
    {fields : Fields S σ τ} {items : List Json} {values : τ} {index : Nat} :
    fields.readElements inside feed wanted true index (outlineItems items) = .ok (values, []) ↔
      fields.ConformArray (parts.Conform feed) items values := by
  induction fields generalizing items index with
  | nil => cases items <;> simp [readElements, ConformArray, outlineItems]
  | cons key presence schema rest ih =>
    obtain ⟨a, values⟩ := values
    cases items with
    | cons item items =>
      simp [readElements, ConformArray, outlineItems, bind_eq_ok_iff, map_eq_ok_iff, reads.read, ih]
    | nil =>
      have tail {values : _} := @ih [] values (index + 1)
      rw [outlineItems] at tail ⊢
      cases presence <;>
        simp [readElements, ConformArray, map_eq_ok_iff, Presence.cutOff?, tail, and_comm]

end Fields

theorem finishArray_eq_ok_iff {taken : Nat} {extra : List Outline} {closed : Bool} {a b : α} :
    finishArray feed taken extra closed a = .ok b ↔ extra = [] ∧ closed = true ∧ a = b := by
  unfold finishArray
  cases extra <;> cases closed <;> cases feed <;> simp

theorem Fields.readArray_eq_ok_iff (reads : Exact inside parts) {name : String}
    {fields : Fields S σ τ} {items : List Json} {values : τ} :
    fields.readArray inside feed name (outlineItems items) true = .ok values ↔
      fields.ConformArray (parts.Conform feed) items values := by
  rw [readArray, bind_eq_ok_iff]
  simp [finishArray_eq_ok_iff, readElements_eq_ok_iff reads]

theorem Items.readElements_eq_ok_iff (reads : Exact inside parts) {counted : String}
    {components : Items S τ} {items : List Json} {values : τ} {index : Nat} :
    components.readElements inside feed counted true index (outlineItems items) =
        .ok (values, []) ↔
      components.Conform (parts.Conform feed) items values := by
  induction components generalizing items index with
  | nil => cases items <;> simp [readElements, Conform, outlineItems]
  | cons schema rest ih =>
    obtain ⟨a, values⟩ := values
    cases items with
    | cons item items =>
      simp [readElements, Conform, outlineItems, bind_eq_ok_iff, map_eq_ok_iff, reads.read, ih]
    | nil => simp [readElements, Conform, outlineItems]

/-! ## Names -/

namespace Schema

theorem resolveName_eq_ok_iff {names : List (String × α)} {name : String} {a : α} :
    resolveName names name = .ok a ↔ names.lookup name = some a := by
  unfold resolveName
  cases names.lookup name <;> simp

theorem readChoiceObject_eq_ok_iff {check : KeyCheck} {names : List (String × α)}
    {members : List (String × Json)} {a : α} :
    readChoiceObject check names (outlineMembers members) true = .ok a ↔
      ∃ name, members = [(name, .null)] ∧ names.lookup name = some a := by
  cases members with
  | nil => simp [outlineMembers, readChoiceObject]
  | cons member members =>
    obtain ⟨name, value⟩ := member
    rw [outlineMembers, readChoiceObject, bind_eq_ok_iff]
    cases value <;> cases members <;>
      simp [Json.outline, outlineMembers, resolveName_eq_ok_iff]

theorem readHeldChoice_eq_ok_iff {names : List (String × α)} {members : List (String × Json)}
    {a : α} :
    readHeldChoice names (outlineMembers members) = .ok a ↔
      ∃ name, (members = [(name, .null)] ∨ members = [(name, .object [])]) ∧
        names.lookup name = some a := by
  cases members with
  | nil => simp [outlineMembers, readHeldChoice]
  | cons member members =>
    obtain ⟨name, value⟩ := member
    cases members with
    | cons _ _ => simp [outlineMembers, readHeldChoice]
    | nil =>
      rw [outlineMembers, outlineMembers, readHeldChoice, bind_eq_ok_iff]
      cases value with
      | object parts => cases parts <;> simp [Json.outline, outlineMembers, resolveName_eq_ok_iff]
      | _ => simp [Json.outline, resolveName_eq_ok_iff]

theorem readChoice_eq_ok_iff {names : List (String × α)} {room : Option KeyCheck} {json : Json}
    {a : α} :
    readChoice room feed names json.outline = .ok a ↔
      ∃ name, GivesName room.isSome feed json name ∧ names.lookup name = some a := by
  constructor
  · intro read
    cases json with
    | text name => exact ⟨name, .text feed name, resolveName_eq_ok_iff.mp read⟩
    | object members =>
      cases feed with
      | text =>
        cases room with
        | none => cases read
        | some check =>
          obtain ⟨name, rfl, found⟩ := readChoiceObject_eq_ok_iff.mp read
          exact ⟨name, .object name rfl, found⟩
      | buffer =>
        obtain ⟨name, rfl | rfl, found⟩ := readHeldChoice_eq_ok_iff.mp read
        · exact ⟨name, .held name, found⟩
        · exact ⟨name, .heldEmpty name, found⟩
    | _ => cases feed <;> simp [Json.outline, readChoice] at read
  · rintro ⟨name, gives, found⟩
    cases gives with
    | text => exact resolveName_eq_ok_iff.mpr found
    | object _ open_ =>
      obtain ⟨check, rfl⟩ := Option.isSome_iff_exists.mp open_
      show readChoiceObject check names (outlineMembers [(name, .null)]) true = .ok a
      exact readChoiceObject_eq_ok_iff.mpr ⟨name, rfl, found⟩
    | held => exact readHeldChoice_eq_ok_iff.mpr ⟨name, .inl rfl, found⟩
    | heldEmpty => exact readHeldChoice_eq_ok_iff.mpr ⟨name, .inr rfl, found⟩

theorem readIdentifier_eq_ok_iff {entries : List (String × α)} {json : Json} {a : α} :
    readIdentifier feed entries json.outline = .ok a ↔
      ∃ name, Identifies entries feed json name a := by
  constructor
  · intro read
    cases json with
    | text name => exact ⟨name, .name (resolveName_eq_ok_iff.mp read)⟩
    | number numeral =>
      cases feed with
      | text => simp [Json.outline, readIdentifier] at read
      | buffer =>
        simp only [Json.outline, readIdentifier, Outline.found?, Json.Numeral.toNumber?] at read
        cases integer : numeral.toInteger? with
        | none =>
          cases double : numeral.toDouble? <;> simp [integer, double] at read
        | some n =>
          cases n with
          | negSucc n => simp [integer] at read
          | ofNat index =>
            simp only [integer] at read
            cases found : entries[index]? with
            | none => simp [found] at read
            | some entry =>
              obtain ⟨name, b⟩ := entry
              rw [found] at read
              cases read
              exact ⟨name, .number integer found⟩
    | _ => cases feed <;> simp [Json.outline, readIdentifier, Outline.found?] at read
  · rintro ⟨name, identifies⟩
    cases identifies with
    | name found => exact resolveName_eq_ok_iff.mpr found
    | number integer found =>
      simp [Json.outline, readIdentifier, Outline.found?, Json.Numeral.toNumber?, integer, found]

end Schema

/-! ## Unions -/

theorem lookup_map {β γ : Type _} {f : String → β → γ} {entries : List (String × β)}
    {name : String} :
    (entries.map fun entry => (entry.1, f entry.1 entry.2)).lookup name =
      (entries.lookup name).map (f name) := by
  induction entries with
  | nil => rfl
  | cons entry entries ih =>
    rw [List.map_cons, List.lookup_cons, List.lookup_cons, ih]
    cases same : name == entry.1 with
    | true => rw [beq_iff_eq.mp same]; rfl
    | false => rfl

namespace Arms

variable {n : Nat}

theorem alternatives_eq_map (inside : Inside S) (union : String) (arms : Arms S n α) :
    arms.alternatives inside union =
      arms.offers.map fun entry => (entry.1, alternative inside union entry.1 entry.2) := by
  induction arms with
  | nil => rfl
  | bare tag value rest ih | payload tag schema make rest ih =>
    rw [alternatives, offers, List.map_cons, ih]
    rfl

theorem absent_eq_ok_iff {union tag : String} {offer : Offer S α} {a : α} :
    (alternative inside union tag offer).absent = .ok a ↔ offer.Absent a := by
  cases offer <;> simp [alternative, Alternative.bare, Alternative.payload, Offer.Absent]

theorem present_eq_ok_iff (reads : Exact inside parts) {union tag : String} {offer : Offer S α}
    {json : Json} {a : α} :
    (alternative inside union tag offer).present feed json.outline = .ok a ↔
      offer.Present parts feed json a := by
  cases offer with
  | bare value =>
    cases json <;> cases room : inside.room <;>
      simp [alternative, Alternative.bare, Offer.Present, Json.outline, room]
  | payload schema make =>
    simp [alternative, Alternative.payload, Offer.Present, map_eq_ok_iff, reads.read]

theorem identifies_alternatives_iff {union name : String} {arms : Arms S n α} {json : Json}
    {chosen : Alternative α} :
    Identifies (arms.alternatives inside union) feed json name chosen ↔
      ∃ offer, Identifies arms.offers feed json name offer ∧
        alternative inside union name offer = chosen := by
  rw [alternatives_eq_map]
  constructor
  · intro identifies
    cases identifies with
    | name found =>
      rw [lookup_map, Option.map_eq_some_iff] at found
      obtain ⟨offer, found, made⟩ := found
      exact ⟨offer, .name found, made⟩
    | number integer found =>
      rw [List.getElem?_map, Option.map_eq_some_iff] at found
      obtain ⟨⟨tag, offer⟩, found, made⟩ := found
      cases made
      exact ⟨offer, .number integer found, rfl⟩
  · rintro ⟨offer, identifies, rfl⟩
    cases identifies with
    | name found => exact .name (by rw [lookup_map, found]; rfl)
    | number integer found => exact .number integer (by rw [List.getElem?_map, found]; rfl)

theorem readArray_eq_ok_iff (reads : Exact inside parts) {union : String} {arms : Arms S n α}
    {items : List Json} {a : α} :
    arms.readArray inside feed union (outlineItems items) true = .ok a ↔
      arms.ConformArray parts feed items a := by
  match items with
  | [] => simp [readArray, ConformArray, outlineItems]
  | [tag] => simp [readArray, ConformArray, outlineItems, bind_eq_ok_iff]
  | tag :: value :: extra =>
    simp only [readArray, outlineItems, bind_eq_ok_iff, Schema.readIdentifier_eq_ok_iff,
      identifies_alternatives_iff, finishArray_eq_ok_iff]
    constructor
    · rintro ⟨_, ⟨name, offer, identifies, rfl⟩, _, read, none, -, rfl⟩
      have present := (present_eq_ok_iff reads).mp read
      cases extra with
      | nil => exact ⟨tag, value, name, offer, rfl, identifies, present⟩
      | cons _ _ => cases none
    · rintro ⟨_, _, name, offer, alone, identifies, present⟩
      cases alone
      exact ⟨_, ⟨name, offer, identifies, rfl⟩, a, (present_eq_ok_iff reads).mpr present, rfl,
        trivial, rfl⟩

/-! ### The members of a union -/

/-- Taking the next member of a union skips those that do not belong to it. -/
theorem nextMember_cases (members : List (String × Json)) :
    unionMembers members = [] ∧ nextMember (outlineMembers members) true = .ok none ∨
      ∃ member value rest,
        unionMembers members = (UnionMember.key member, value) :: unionMembers rest ∧
          nextMember (outlineMembers members) true =
            .ok (some (member, value.outline, outlineMembers rest)) := by
  induction members with
  | nil => exact .inl ⟨rfl, rfl⟩
  | cons member members ih =>
    obtain ⟨name, value⟩ := member
    rw [outlineMembers, nextMember]
    by_cases tag : name = "type"
    · subst tag
      exact .inr ⟨.tag, value, members, rfl, rfl⟩
    · by_cases payload : name = "value"
      · subst payload
        exact .inr ⟨.payload, value, members, rfl, rfl⟩
      · have other : unionMembers ((name, value) :: members) = unionMembers members := by
          simp [unionMembers, tag, payload]
        rw [other, if_neg tag, if_neg payload, value.intact_outline]
        exact ih

theorem finishObject_eq_ok_iff {members : List (String × Json)} {a b : α} :
    finishObject (outlineMembers members) true a = .ok b ↔ unionMembers members = [] ∧ a = b := by
  rw [finishObject]
  rcases nextMember_cases members with ⟨none, next⟩ | ⟨member, value, rest, more, next⟩
  · rw [next, none]
    simp [bind, Except.bind, pure, Except.pure]
  · rw [next, more]
    simp [bind, Except.bind]

theorem readChoice_eq_ok_iff {union : String} {arms : Arms S n α} {room : Option KeyCheck}
    {json : Json} {chosen : Alternative α} :
    Schema.readChoice room feed (arms.alternatives inside union) json.outline = .ok chosen ↔
      ∃ name offer, GivesName room.isSome feed json name ∧ arms.offers.lookup name = some offer ∧
        alternative inside union name offer = chosen := by
  rw [Schema.readChoice_eq_ok_iff, alternatives_eq_map]
  simp only [lookup_map, Option.map_eq_some_iff]
  tauto

/-- A payload is read, and no other member of the union may follow it. -/
theorem readPayload_eq_ok_iff (reads : Exact inside parts) {union tag : String}
    {offer : Offer S α} {json : Json} {members : List (String × Json)} {a : α} :
    (∃ b, (alternative inside union tag offer).present feed json.outline = .ok b ∧
        finishObject (outlineMembers members) true b = .ok a) ↔
      unionMembers members = [] ∧ offer.Present parts feed json a := by
  simp [present_eq_ok_iff reads, finishObject_eq_ok_iff, and_comm]

theorem readObject_eq_ok_iff (reads : Exact inside parts) {union : String} {arms : Arms S n α}
    {members : List (String × Json)} {a : α} :
    arms.readObject inside feed union (outlineMembers members) true = .ok a ↔
      arms.ConformObject parts feed members a := by
  have room : inside.room.isSome = decide (0 < parts.depth) := by
    rw [Inside.isSome_room, reads.depth]
  unfold readObject ConformObject
  rcases nextMember_cases members with ⟨nothing, taken⟩ | ⟨member, first, rest, more, taken⟩
  · rw [taken, nothing]
    simp [bind, Except.bind]
  · rw [taken, more]
    rcases nextMember_cases rest with ⟨nothing, next⟩ | ⟨other, second, others, more, next⟩
    · -- one member of the union, which has to be the tag of an alternative without payload
      rw [nothing]
      cases member with
      | tag =>
        simp [bind_eq_ok_iff, readChoice_eq_ok_iff, room, next, UnionMember.key,
          absent_eq_ok_iff, and_assoc]
      | payload =>
        cases sound : first.outline.soundWithin inside.depth <;>
          simp [bind_eq_ok_iff, next, UnionMember.key, sound]
    · rw [more]
      cases member with
      | tag =>
        cases other with
        | tag => simp [bind_eq_ok_iff, next, UnionMember.key]
        | payload =>
          simp [bind_eq_ok_iff, readChoice_eq_ok_iff, room, next, UnionMember.key,
            readPayload_eq_ok_iff reads, and_assoc]
      | payload =>
        cases sound : first.outline.soundWithin inside.depth with
        | false => simp [bind_eq_ok_iff, UnionMember.key, sound, ← reads.depth]
        | true =>
          cases other with
          | tag =>
            simp [bind_eq_ok_iff, readChoice_eq_ok_iff, room, next, UnionMember.key, sound,
              ← reads.depth, readPayload_eq_ok_iff reads, and_assoc]
          | payload => simp [bind_eq_ok_iff, next, UnionMember.key, sound]

end Arms

/-! ## Lists and tables -/

namespace Inside

theorem readList_eq_ok_iff (reads : Exact inside parts) {item : S α} {items : List Json}
    {values : List α} :
    inside.readList feed item (outlineItems items) true = .ok values ↔
      List.Forall₂ (parts.Conform feed item) items values := by
  rw [readList, Json.outlineItems_eq_map, bind_eq_ok_iff]
  simp [mapM_eq_ok_iff, reads.read, pure, Except.pure]

theorem readEntries_eq_ok_iff (reads : Exact inside parts) {item : S α}
    {members : List (String × Json)} {before entries : Table α} :
    inside.readEntries feed item before (outlineMembers members) = .ok entries ↔
      ∃ values, List.Forall₂ (parts.Conform feed item) (members.map (·.2)) values ∧
        ((members.map (·.1)).zip values).foldl (fun t entry => t.put entry.1 entry.2) before =
          entries := by
  induction members generalizing before with
  | nil => simp [outlineMembers, readEntries]
  | cons member members ih =>
    obtain ⟨key, value⟩ := member
    rw [outlineMembers, readEntries, bind_eq_ok_iff]
    simp only [reads.read, ih, List.map_cons, List.forall₂_cons_left_iff]
    constructor
    · rintro ⟨a, first, values, others, rfl⟩
      exact ⟨a :: values, ⟨a, values, first, others, rfl⟩, rfl⟩
    · rintro ⟨_, ⟨a, values, first, others, rfl⟩, rfl⟩
      exact ⟨a, first, values, others, rfl⟩

theorem readTable_eq_ok_iff (reads : Exact inside parts) {item : S α}
    {members : List (String × Json)} {entries : Table α} :
    inside.readTable feed item (outlineMembers members) true = .ok entries ↔
      ∃ values, List.Forall₂ (parts.Conform feed item) (members.map (·.2)) values ∧
        Table.ofList ((members.map (·.1)).zip values) = entries := by
  rw [readTable, bind_eq_ok_iff]
  simp [readEntries_eq_ok_iff reads, Table.ofList, pure, Except.pure]

end Inside

/-! ## Schemas -/

theorem enter_eq_ok_iff {within : Option (Parts S)} {inside : Option (Inside S)}
    (reads : Option.Rel Exact inside within) {use : Inside S → Reading α} {a : α}
    {Use : Parts S → Prop}
    (used : ∀ {inside : Inside S} {parts : Parts S}, Exact inside parts →
      (use inside = .ok a ↔ Use parts)) :
    enter inside use = .ok a ↔ ∃ parts ∈ within, Use parts := by
  cases reads with
  | none => simp [enter]
  | some reads => simp [enter, used reads]

theorem Shape.read_eq_ok_iff {within : Option (Parts S)} {inside : Option (Inside S)}
    (reads : Option.Rel Exact inside within) {shape : Shape S α} {json : Json} {a : α} :
    shape.read inside feed json.outline = .ok a ↔ shape.Conforms within feed json a := by
  cases shape with
  | record name fields make =>
    cases json with
    | object members =>
      refine enter_eq_ok_iff reads fun reads => ?_
      simp [map_eq_ok_iff, Fields.readObject_eq_ok_iff reads, and_comm]
    | array items =>
      refine enter_eq_ok_iff reads fun reads => ?_
      simp [map_eq_ok_iff, Fields.readArray_eq_ok_iff reads, and_comm]
    | _ => simp [Json.outline, read, Conforms]
  | tuple wanted counted components make =>
    cases json with
    | array items =>
      refine enter_eq_ok_iff reads fun reads => ?_
      simp [bind_eq_ok_iff, finishArray_eq_ok_iff, Items.readElements_eq_ok_iff reads, and_comm]
    | _ => simp [Json.outline, read, Conforms]
  | union name arms =>
    cases json with
    | object members => exact enter_eq_ok_iff reads fun reads => Arms.readObject_eq_ok_iff reads
    | array items => exact enter_eq_ok_iff reads fun reads => Arms.readArray_eq_ok_iff reads
    | _ => simp [Json.outline, read, Conforms]

theorem Schema.layer_eq_ok_iff {ι : Type} {K : ι → Type}
    {shape : (i : ι) → Shape (Schema K) (K i)} {within : Option (Parts (Schema K))}
    {inside : Option (Inside (Schema K))} (reads : Option.Rel Exact inside within) {α : Type}
    (schema : Schema K α) {json : Json} {a : α} :
    schema.layer shape inside feed json.outline = .ok a ↔
      schema.Conforms shape within feed json a := by
  cases schema with
  | integer rule =>
    cases json with
    | number numeral =>
      cases integer : numeral.toInteger? with
      | none => simp [Json.outline, layer, readInteger, Conforms, integer]
      | some n =>
        cases accepted : rule.accept n <;>
          simp [Json.outline, layer, readInteger, Conforms, integer, accepted]
    | _ => simp [Json.outline, layer, readInteger, Conforms]
  | double =>
    cases json with
    | number numeral =>
      cases double : numeral.toDouble? <;>
        simp [Json.outline, layer, readDouble, Conforms, double]
    | _ => simp [Json.outline, layer, readDouble, Conforms]
  | boolean => cases json <;> simp [Json.outline, layer, readBoolean, Conforms]
  | text make => cases json <;> simp [Json.outline, layer, readText, Conforms]
  | choice names =>
    have open_ : (inside.map Inside.keyCheck).isSome = within.isSome := by cases reads <;> rfl
    rw [layer, Conforms, ← open_]
    exact readChoice_eq_ok_iff
  | optional inner =>
    by_cases absent : json = .null
    · subst absent
      simp [Json.outline, layer, Conforms, eq_comm]
    · have present : layer shape inside feed (optional inner) json.outline =
          some <$> layer shape inside feed inner json.outline := by
        cases json <;> first | rfl | exact absurd rfl absent
      rw [present, map_eq_ok_iff, Conforms]
      simp [absent, layer_eq_ok_iff reads inner, eq_comm]
  | list wanted item =>
    cases json with
    | array items =>
      simp only [Conforms, Json.array.injEq, exists_eq_left']
      exact enter_eq_ok_iff reads fun reads => Inside.readList_eq_ok_iff reads
    | _ => simp [Json.outline, layer, Conforms]
  | table item =>
    cases json with
    | object members =>
      simp only [Conforms, Json.object.injEq, exists_and_left, exists_eq_left']
      exact enter_eq_ok_iff reads fun reads => Inside.readTable_eq_ok_iff reads
    | _ => simp [Json.outline, layer, Conforms]
  | shape inner => exact Shape.read_eq_ok_iff reads
  | node i => exact Shape.read_eq_ok_iff reads

namespace Grammar

variable {ι : Type} {g : Grammar ι}

/-- Reading gives a value exactly if the JSON value conforms as it. -/
theorem read_eq_ok_iff {depth : Nat} {schema : Schema g.Carrier α} {json : Json} {a : α} :
    g.read depth feed schema json.outline = .ok a ↔ g.Conforms depth feed schema json a := by
  induction depth generalizing α feed json with
  | zero => exact Schema.layer_eq_ok_iff .none schema
  | succ depth ih => exact Schema.layer_eq_ok_iff (.some ⟨rfl, ih⟩) schema

end Grammar

end WireTree
