import WireTree.Proofs.Variants.Plain

/-!
# Plain values that were held back

A plain value conforms wherever it is read from, and one that conforms is well formed throughout and
not too deep, as what is held back has to be. So it does not matter for a plain union whether its
tag or its payload comes first.
Main statements: `Plain.conforms_of_feed`, `Plain.soundWithin` and `Plain.conformObject_iff`.
-/

namespace WireTree

open Json (Outline outlineItems outlineMembers)

variable {S : Type → Type 1} {ι α β σ τ : Type} {g : Grammar ι} {feed feed' : Feed}

/-! ## The members of a union -/

section TwoKeys

variable {key other : String} {members : List (String × Json)} {first second : Json}

theorem eq_nil_of_valuesOf (own : ∀ member ∈ members, member.1 = key ∨ member.1 = other)
    (none : valuesOf members key = []) (noOther : valuesOf members other = []) : members = [] := by
  cases members with
  | nil => rfl
  | cons member members =>
    obtain ⟨name, value⟩ := member
    rcases own _ List.mem_cons_self with rfl | rfl
    · rw [valuesOf_cons_self] at none
      cases none
    · rw [valuesOf_cons_self] at noOther
      cases noOther

/-- The members under two keys, if there is one value of the first and none of the second. -/
theorem eq_singleton_of_valuesOf (different : key ≠ other)
    (own : ∀ member ∈ members, member.1 = key ∨ member.1 = other)
    (one : valuesOf members key = [first]) (noOther : valuesOf members other = []) :
    members = [(key, first)] := by
  cases members with
  | nil => cases one
  | cons member members =>
    obtain ⟨name, value⟩ := member
    have rest := fun m found => own m (List.mem_cons_of_mem _ found)
    rcases own _ List.mem_cons_self with rfl | rfl
    · rw [valuesOf_cons_self, List.cons.injEq] at one
      rw [valuesOf_cons_of_ne different] at noOther
      rw [eq_nil_of_valuesOf rest one.2 noOther, one.1]
    · rw [valuesOf_cons_self] at noOther
      cases noOther

/-- The members under two keys, if there is one value of either. -/
theorem eq_pair_of_valuesOf (different : key ≠ other)
    (own : ∀ member ∈ members, member.1 = key ∨ member.1 = other)
    (one : valuesOf members key = [first]) (oneOther : valuesOf members other = [second]) :
    members = [(key, first), (other, second)] ∨ members = [(other, second), (key, first)] := by
  cases members with
  | nil => cases one
  | cons member members =>
    obtain ⟨name, value⟩ := member
    have rest := fun m found => own m (List.mem_cons_of_mem _ found)
    have rest' := fun m found => (rest m found).symm
    rcases own _ List.mem_cons_self with rfl | rfl
    · rw [valuesOf_cons_self, List.cons.injEq] at one
      rw [valuesOf_cons_of_ne different] at oneOther
      rw [eq_singleton_of_valuesOf (Ne.symm different) rest' oneOther one.2, one.1]
      exact .inl rfl
    · rw [valuesOf_cons_self, List.cons.injEq] at oneOther
      rw [valuesOf_cons_of_ne (Ne.symm different)] at one
      rw [eq_singleton_of_valuesOf different rest one oneOther.2, oneOther.1]
      exact .inr rfl

end TwoKeys

namespace Arms

theorem valuesOf_unionMembers {key : String} (own : key = "type" ∨ key = "value")
    (members : List (String × Json)) :
    valuesOf (unionMembers members) key = valuesOf members key := by
  unfold valuesOf unionMembers
  rw [List.filter_filter]
  congr 1
  refine List.filter_congr fun member _ => ?_
  by_cases same : member.1 = key
  · simpa [same] using own
  · simp [same]

theorem unionMembers_own (members : List (String × Json)) :
    ∀ member ∈ unionMembers members, member.1 = "type" ∨ member.1 = "value" := by
  intro member found
  simpa using (List.mem_filter.mp found).2

variable {members : List (String × Json)} {tag value : Json}

theorem unionMembers_eq_tag (tagged : valuesOf members "type" = [tag])
    (absent : valuesOf members "value" = []) : unionMembers members = [("type", tag)] := by
  rw [← valuesOf_unionMembers (.inl rfl)] at tagged
  rw [← valuesOf_unionMembers (.inr rfl)] at absent
  exact eq_singleton_of_valuesOf (by decide) (unionMembers_own members) tagged absent

theorem unionMembers_eq_both (tagged : valuesOf members "type" = [tag])
    (present : valuesOf members "value" = [value]) :
    unionMembers members = [("type", tag), ("value", value)] ∨
      unionMembers members = [("value", value), ("type", tag)] := by
  rw [← valuesOf_unionMembers (.inl rfl)] at tagged
  rw [← valuesOf_unionMembers (.inr rfl)] at present
  exact eq_pair_of_valuesOf (by decide) (unionMembers_own members) tagged present

end Arms

theorem givesName_text_iff {room : Bool} {content name : String} :
    GivesName room feed (.text content) name ↔ content = name := by
  constructor
  · intro gives
    cases gives
    rfl
  · rintro rfl
    exact .text feed content

theorem identifies_text_iff.{u} {β : Type u} {entries : List (String × β)}
    {content name : String} {b : β} :
    Identifies entries feed (.text content) name b ↔
      content = name ∧ entries.lookup content = some b := by
  constructor
  · intro identifies
    cases identifies with
    | name found => exact ⟨rfl, found⟩
  · rintro ⟨rfl, found⟩
    exact .name found

namespace Plain

variable {n : Nat} {name : String} {arms : Arms (Schema g.Carrier) n α}
  {members : List (String × Json)} {parts : Parts (Schema g.Carrier)} {a : α}

/-- In a plain object the tag is a text. -/
theorem tag_eq_text (plain : Plain g (.shape (.union name arms)) (.object members)) {tag : Json}
    (found : tag ∈ valuesOf members "type") : ∃ content, tag = .text content := by
  rcases plain.here _ (mem_valuesOf.mp found) with ⟨-, text⟩ | wrong
  · exact text
  · simp at wrong

/-- A plain object that conforms to a union has one tag, a text, and at most one payload. -/
theorem conformObject_cases (plain : Plain g (.shape (.union name arms)) (.object members))
    (conforms : arms.ConformObject parts feed members a) :
    ∃ tag offer, valuesOf members "type" = [.text tag] ∧ arms.offers.lookup tag = some offer ∧
      (valuesOf members "value" = [] ∧ offer.Absent a ∨
        ∃ value, valuesOf members "value" = [value] ∧
          (Arms.unionMembers members = [("type", .text tag), ("value", value)] ∧
              offer.Present parts feed value a ∨
            Arms.unionMembers members = [("value", value), ("type", .text tag)] ∧
              value.outline.soundWithin parts.depth = true ∧
              offer.Present parts .buffer value a)) := by
  obtain ⟨json, tag, offer, gives, offered, fits⟩ := conforms
  have tags := Arms.valuesOf_unionMembers (.inl rfl) members
  have values := Arms.valuesOf_unionMembers (.inr rfl) members
  have tagged : valuesOf members "type" = [json] := by
    rcases fits with ⟨alone, -⟩ | ⟨value, ⟨both, -⟩ | ⟨both, -⟩⟩
    · rw [← tags, alone]; rfl
    · rw [← tags, both]; rfl
    · rw [← tags, both]; rfl
  obtain ⟨content, rfl⟩ := plain.tag_eq_text (tagged ▸ List.mem_singleton_self json)
  obtain rfl := givesName_text_iff.mp gives
  refine ⟨content, offer, tagged, offered, ?_⟩
  rcases fits with ⟨alone, absent⟩ | ⟨value, ⟨both, present⟩ | ⟨both, held⟩⟩
  · exact .inl ⟨by rw [← values, alone]; rfl, absent⟩
  · exact .inr ⟨value, by rw [← values, both]; rfl, .inl ⟨both, present⟩⟩
  · exact .inr ⟨value, by rw [← values, both]; rfl, .inr ⟨both, held⟩⟩

end Plain

/-! ## Where a value is read from -/

/-- Of the parts of a container, a plain one that conforms if it is read from one feed conforms if
it is read from another. -/
def Steady (feed feed' : Feed) (parts : Parts (Schema g.Carrier)) : Prop :=
  ∀ {β : Type} {inner : Schema g.Carrier β} {part : Json} {b : β}, Plain g inner part →
    parts.Conform feed inner part b → parts.Conform feed' inner part b

namespace Plain

section Container

variable {parts : Parts (Schema g.Carrier)} (steady : Steady feed feed' parts)

include steady

theorem present_of_feed {n : Nat} {arms : Arms (Schema g.Carrier) n α} {tag : String}
    {offer : Offer (Schema g.Carrier) α} {value : Json} {a : α}
    (plain : ∀ {β : Type} {inner : Schema g.Carrier β} {make : β → α},
      arms.offers.lookup tag = some (.payload inner make) → Plain g inner value)
    (offered : arms.offers.lookup tag = some offer) (present : offer.Present parts feed value a) :
    offer.Present parts feed' value a := by
  cases offer with
  | bare value => exact present
  | payload inner make =>
    obtain ⟨b, conforms, made⟩ := present
    exact ⟨b, steady (plain offered) conforms, made⟩

theorem conformObject_of_feed {n : Nat} {name : String} {arms : Arms (Schema g.Carrier) n α}
    {members : List (String × Json)} {a : α}
    (plain : Plain g (.shape (.union name arms)) (.object members))
    (conforms : arms.ConformObject parts feed members a) :
    arms.ConformObject parts feed' members a := by
  obtain ⟨tag, offer, tagged, offered, fits⟩ := plain.conformObject_cases conforms
  refine ⟨.text tag, tag, offer, .text feed' tag, offered, ?_⟩
  rcases fits with ⟨none, absent⟩ | ⟨value, one, ⟨both, present⟩ | ⟨both, held⟩⟩
  · exact .inl ⟨Arms.unionMembers_eq_tag tagged none, absent⟩
  · refine .inr ⟨value, .inl ⟨both, ?_⟩⟩
    refine present_of_feed steady (fun offered => ?_) offered present
    have payload : value ∈ valuesOf members "value" := one ▸ List.mem_singleton_self value
    exact plain.part ⟨tag, _, tagged, offered, mem_valuesOf.mp payload⟩
  · exact .inr ⟨value, .inr ⟨both, held⟩⟩

theorem conformArray_of_feed {n : Nat} {name : String} {arms : Arms (Schema g.Carrier) n α}
    {items : List Json} {a : α} (plain : Plain g (.shape (.union name arms)) (.array items))
    (conforms : arms.ConformArray parts feed items a) : arms.ConformArray parts feed' items a := by
  obtain ⟨tag, value, chosen, offer, rfl, identifies, present⟩ := conforms
  obtain ⟨content, rfl⟩ := plain.here tag rfl
  obtain ⟨rfl, offered⟩ := identifies_text_iff.mp identifies
  refine ⟨_, value, content, offer, rfl, .name offered, ?_⟩
  refine present_of_feed steady (fun offered => ?_) offered present
  exact plain.part ⟨content, _, [], offered, rfl⟩

end Container

section Value

variable {within : Option (Parts (Schema g.Carrier))}
  (steady : ∀ parts ∈ within, Steady feed feed' parts)

include steady

theorem shape_of_feed {shape : Shape (Schema g.Carrier) α} {json : Json} {a : α}
    (plain : Plain g (.shape shape) json) (conforms : shape.Conforms within feed json a) :
    shape.Conforms within feed' json a := by
  cases shape with
  | record name fields make =>
    obtain ⟨parts, some, values, made, conforms⟩ := conforms
    refine ⟨parts, some, values, made, ?_⟩
    cases json with
    | object members =>
      refine conforms.imp fun under member => steady parts some ?_
      exact plain.part ⟨_, _, under, member⟩
    | array items =>
      refine conforms.imp fun nth found => steady parts some ?_
      exact plain.part ⟨_, nth, found⟩
    | _ => exact conforms.elim
  | tuple wanted counted components make =>
    obtain ⟨parts, some, values, made, conforms⟩ := conforms
    refine ⟨parts, some, values, made, ?_⟩
    cases json with
    | array items =>
      refine conforms.imp fun nth found => steady parts some ?_
      exact plain.part ⟨_, nth, found⟩
    | _ => exact conforms.elim
  | union name arms =>
    obtain ⟨parts, some, conforms⟩ := conforms
    refine ⟨parts, some, ?_⟩
    cases json with
    | object members => exact conformObject_of_feed (steady parts some) plain conforms
    | array items => exact conformArray_of_feed (steady parts some) plain conforms
    | _ => exact conforms.elim

theorem schema_of_feed {α : Type} (schema : Schema g.Carrier α) {json : Json} {a : α}
    (plain : Plain g schema json) (conforms : schema.Conforms g.shape within feed json a) :
    schema.Conforms g.shape within feed' json a := by
  cases schema with
  | integer | double | boolean | text => exact conforms
  | choice names =>
    obtain ⟨name, gives, found⟩ := conforms
    refine ⟨name, ?_, found⟩
    cases json with
    | text content =>
      obtain rfl := givesName_text_iff.mp gives
      exact .text feed' content
    | object members => exact plain.here.elim
    | _ => cases gives
  | optional inner =>
    rcases conforms with absent | ⟨present, a, conforms, made⟩
    · exact .inl absent
    · exact .inr ⟨present, a, schema_of_feed inner (plain.part ⟨rfl, rfl⟩) conforms, made⟩
  | list wanted item =>
    obtain ⟨parts, some, items, rfl, each⟩ := conforms
    refine ⟨parts, some, items, rfl, forall₂_imp_of_mem ?_ each⟩
    intro json member b
    exact steady parts some (plain.part ⟨rfl, member⟩)
  | table item =>
    obtain ⟨parts, some, members, values, rfl, each, made⟩ := conforms
    refine ⟨parts, some, members, values, rfl, forall₂_imp_of_mem ?_ each, made⟩
    intro json member b
    obtain ⟨⟨key, value⟩, found, rfl⟩ := List.mem_map.mp member
    exact steady parts some (plain.part ⟨rfl, key, found⟩)
  | shape inner => exact shape_of_feed steady plain conforms
  | node i => exact shape_of_feed steady (plain.part ⟨rfl, rfl⟩) conforms

end Value

/-- It does not matter where a plain value is read from. -/
theorem conforms_of_feed {depth : Nat} {schema : Schema g.Carrier α} {json : Json} {a : α}
    (plain : Plain g schema json) (conforms : g.Conforms depth feed schema json a) :
    g.Conforms depth feed' schema json a := by
  induction depth generalizing α json with
  | zero => exact schema_of_feed (fun _ some => by cases some) schema plain conforms
  | succ depth ih =>
    refine schema_of_feed ?_ schema plain conforms
    rintro _ ⟨⟩ _ inner part b plain conforms
    exact ih plain conforms

end Plain

/-! ## What may be held back -/

section Covered

variable {Part : {α : Type} → S α → Json → α → Prop}

/-- Of an object that conforms, a member under a known key conforms. -/
theorem Fields.ConformObject.exists_of_mem {fields : Fields S σ τ} {members : List (String × Json)}
    {values : τ} {key : String} {json : Json} (conforms : fields.ConformObject Part members values)
    (known : key ∈ fields.keys) (member : (key, json) ∈ members) :
    ∃ (β : Type) (presence : Presence β) (schema : S β) (b : β),
      fields.Under key presence schema ∧ Part schema json b := by
  induction fields generalizing members with
  | nil => cases known
  | cons first presence schema rest ih =>
    obtain ⟨a, values⟩ := values
    obtain ⟨own, others⟩ := conforms
    by_cases same : key = first
    · subst same
      have found : json ∈ valuesOf members key := mem_valuesOf.mpr member
      rcases own with ⟨none, -⟩ | ⟨json', alone, conforms⟩
      · rw [none] at found
        cases found
      · rw [alone] at found
        obtain rfl := List.mem_singleton.mp found
        exact ⟨_, presence, schema, a, .head, conforms⟩
    · have known' : key ∈ rest.keys := (List.mem_cons.mp known).resolve_left same
      obtain ⟨β, presence', schema', b, under, conforms⟩ :=
        ih others known' (mem_besides.mpr ⟨member, same⟩)
      exact ⟨β, presence', schema', b, .tail (Ne.symm same) under, conforms⟩

theorem Fields.ConformArray.exists_of_mem {fields : Fields S σ τ} {items : List Json} {values : τ}
    {json : Json} (conforms : fields.ConformArray Part items values) (member : json ∈ items) :
    ∃ (β : Type) (schema : S β) (b : β) (index : Nat),
      fields.Nth schema index ∧ items[index]? = some json ∧ Part schema json b := by
  induction fields generalizing items with
  | nil =>
    obtain rfl : items = [] := conforms
    cases member
  | cons key presence schema rest ih =>
    obtain ⟨a, values⟩ := values
    cases items with
    | nil => cases member
    | cons item items =>
      obtain ⟨first, others⟩ := conforms
      rcases List.mem_cons.mp member with rfl | member
      · exact ⟨_, schema, a, 0, .head, rfl, first⟩
      · obtain ⟨β, schema', b, index, nth, found, conforms⟩ := ih others member
        exact ⟨β, schema', b, index + 1, .tail nth, found, conforms⟩

theorem Items.Conform.exists_of_mem {components : Items S τ} {items : List Json} {values : τ}
    {json : Json} (conforms : components.Conform Part items values) (member : json ∈ items) :
    ∃ (β : Type) (schema : S β) (b : β) (index : Nat),
      components.Nth schema index ∧ items[index]? = some json ∧ Part schema json b := by
  induction components generalizing items with
  | nil =>
    obtain rfl : items = [] := conforms
    cases member
  | cons schema rest ih =>
    obtain ⟨a, values⟩ := values
    cases items with
    | nil => cases member
    | cons item items =>
      obtain ⟨first, others⟩ := conforms
      rcases List.mem_cons.mp member with rfl | member
      · exact ⟨_, schema, a, 0, .head, rfl, first⟩
      · obtain ⟨β, schema', b, index, nth, found, conforms⟩ := ih others member
        exact ⟨β, schema', b, index + 1, .tail nth, found, conforms⟩

end Covered

theorem Json.soundWithin_array {depth : Nat} {items : List Json}
    (each : ∀ item ∈ items, item.outline.soundWithin depth = true) :
    (Json.array items).outline.soundWithin (depth + 1) = true := by
  rw [Json.outline, Outline.soundWithin, Bool.and_true]
  induction items with
  | nil => rfl
  | cons item items ih =>
    have tail := ih fun other member => each other (List.mem_cons_of_mem _ member)
    rw [outlineItems, Outline.allSoundWithin, each item List.mem_cons_self, tail]
    rfl

theorem Json.soundWithin_object {depth : Nat} {members : List (String × Json)}
    (each : ∀ key value, (key, value) ∈ members → value.outline.soundWithin depth = true) :
    (Json.object members).outline.soundWithin (depth + 1) = true := by
  rw [Json.outline, Outline.soundWithin, Bool.and_true]
  induction members with
  | nil => rfl
  | cons member members ih =>
    obtain ⟨key, value⟩ := member
    have tail := ih fun other value member => each other value (List.mem_cons_of_mem _ member)
    rw [outlineMembers, Outline.membersSoundWithin, each key value List.mem_cons_self, tail]
    rfl

/-- What is `null`, a text or a truth value may stand anywhere. -/
theorem Json.soundWithin_text (depth : Nat) (content : String) :
    (Json.text content).outline.soundWithin depth = true := by
  cases depth <;> rfl

theorem Json.soundWithin_null (depth : Nat) : Json.null.outline.soundWithin depth = true := by
  cases depth <;> rfl

/-- The plain parts of a container may be held back if they conform. -/
def Sound (parts : Parts (Schema g.Carrier)) : Prop :=
  ∀ {β : Type} {feed : Feed} {inner : Schema g.Carrier β} {part : Json} {b : β},
    Plain g inner part → parts.Conform feed inner part b →
      part.outline.soundWithin parts.depth = true

namespace Plain

section Container

variable {parts : Parts (Schema g.Carrier)} (sound : Sound parts)

include sound

theorem soundWithin_of_present {n : Nat} {arms : Arms (Schema g.Carrier) n α} {tag : String}
    {offer : Offer (Schema g.Carrier) α} {value : Json} {a : α}
    (plain : ∀ {β : Type} {inner : Schema g.Carrier β} {make : β → α},
      arms.offers.lookup tag = some (.payload inner make) → Plain g inner value)
    (offered : arms.offers.lookup tag = some offer) (present : offer.Present parts feed value a) :
    value.outline.soundWithin parts.depth = true := by
  cases offer with
  | bare b =>
    obtain ⟨rfl, -⟩ := present
    exact Json.soundWithin_null parts.depth
  | payload inner make =>
    obtain ⟨b, conforms, -⟩ := present
    exact sound (plain offered) conforms

theorem soundWithin_of_conformObject {n : Nat} {name : String} {arms : Arms (Schema g.Carrier) n α}
    {members : List (String × Json)} {a : α}
    (plain : Plain g (.shape (.union name arms)) (.object members))
    (conforms : arms.ConformObject parts feed members a) :
    (Json.object members).outline.soundWithin (parts.depth + 1) = true := by
  refine Json.soundWithin_object fun key value member => ?_
  rcases plain.here _ member with ⟨-, content, rfl⟩ | rfl
  · exact Json.soundWithin_text parts.depth content
  · have found : value ∈ valuesOf members "value" := mem_valuesOf.mpr member
    obtain ⟨tag, offer, tagged, offered, fits⟩ := plain.conformObject_cases conforms
    rcases fits with ⟨none, -⟩ | ⟨value', one, fits⟩
    · rw [none] at found
      cases found
    · rw [one] at found
      obtain rfl := List.mem_singleton.mp found
      rcases fits with ⟨-, present⟩ | ⟨-, held, -⟩
      · refine soundWithin_of_present sound (fun offered => ?_) offered present
        exact plain.part ⟨tag, _, tagged, offered, member⟩
      · exact held

theorem soundWithin_of_conformArray {n : Nat} {name : String} {arms : Arms (Schema g.Carrier) n α}
    {items : List Json} {a : α} (plain : Plain g (.shape (.union name arms)) (.array items))
    (conforms : arms.ConformArray parts feed items a) :
    (Json.array items).outline.soundWithin (parts.depth + 1) = true := by
  obtain ⟨tag, value, chosen, offer, rfl, identifies, present⟩ := conforms
  obtain ⟨content, rfl⟩ := plain.here tag rfl
  obtain ⟨rfl, offered⟩ := identifies_text_iff.mp identifies
  have payload : value.outline.soundWithin parts.depth = true := by
    refine soundWithin_of_present sound (fun offered => ?_) offered present
    exact plain.part ⟨content, _, [], offered, rfl⟩
  refine Json.soundWithin_array fun item member => ?_
  rcases List.mem_cons.mp member with rfl | member
  · exact Json.soundWithin_text parts.depth content
  · obtain rfl := List.mem_singleton.mp member
    exact payload

theorem soundWithin_of_shape {shape : Shape (Schema g.Carrier) α} {json : Json} {a : α}
    (plain : Plain g (.shape shape) json) (conforms : shape.Conforms (some parts) feed json a) :
    json.outline.soundWithin (parts.depth + 1) = true := by
  cases shape with
  | record name fields make =>
    obtain ⟨_, ⟨⟩, values, made, conforms⟩ := conforms
    cases json with
    | object members =>
      refine Json.soundWithin_object fun key value member => ?_
      obtain ⟨_, _, _, _, under, conforms⟩ := conforms.exists_of_mem (plain.here _ member) member
      exact sound (plain.part ⟨key, _, under, member⟩) conforms
    | array items =>
      refine Json.soundWithin_array fun item member => ?_
      obtain ⟨_, _, _, _, nth, found, conforms⟩ := conforms.exists_of_mem member
      exact sound (plain.part ⟨_, nth, found⟩) conforms
    | _ => exact conforms.elim
  | tuple wanted counted components make =>
    obtain ⟨_, ⟨⟩, values, made, conforms⟩ := conforms
    cases json with
    | array items =>
      refine Json.soundWithin_array fun item member => ?_
      obtain ⟨_, _, _, _, nth, found, conforms⟩ := conforms.exists_of_mem member
      exact sound (plain.part ⟨_, nth, found⟩) conforms
    | _ => exact conforms.elim
  | union name arms =>
    obtain ⟨_, ⟨⟩, conforms⟩ := conforms
    cases json with
    | object members => exact soundWithin_of_conformObject sound plain conforms
    | array items => exact soundWithin_of_conformArray sound plain conforms
    | _ => exact conforms.elim

end Container

theorem not_conforms_none {shape : Shape (Schema g.Carrier) α} {json : Json} {a : α} :
    ¬shape.Conforms none feed json a := by
  cases shape <;> rintro ⟨_, ⟨⟩, _⟩

theorem soundWithin_of_schema {within : Option (Parts (Schema g.Carrier))} {depth : Nat}
    (sound : ∀ parts ∈ within, Sound parts ∧ depth = parts.depth + 1) {α : Type}
    (schema : Schema g.Carrier α) {json : Json} {a : α} (plain : Plain g schema json)
    (conforms : schema.Conforms g.shape within feed json a) :
    json.outline.soundWithin depth = true := by
  have shaped {α : Type} {shape : Shape (Schema g.Carrier) α} {a : α}
      (plain : Plain g (.shape shape) json) (conforms : shape.Conforms within feed json a) :
      json.outline.soundWithin depth = true := by
    cases within with
    | none => exact absurd conforms not_conforms_none
    | some parts =>
      obtain ⟨held, rfl⟩ := sound parts rfl
      exact soundWithin_of_shape held plain conforms
  cases schema with
  | integer rule =>
    obtain ⟨numeral, n, rfl, integer, -⟩ := conforms
    cases depth <;> simp [Json.outline, Outline.soundWithin, Json.Numeral.toNumber?, integer]
  | double =>
    obtain ⟨numeral, rfl, double⟩ := conforms
    cases integer : numeral.toInteger? <;> cases depth <;>
      simp [Json.outline, Outline.soundWithin, Json.Numeral.toNumber?, integer, double]
  | boolean =>
    obtain rfl : json = .boolean a := conforms
    cases depth <;> rfl
  | text make =>
    obtain ⟨content, rfl, -⟩ := conforms
    exact Json.soundWithin_text depth content
  | choice names =>
    obtain ⟨name, gives, -⟩ := conforms
    cases json with
    | text content => exact Json.soundWithin_text depth content
    | object members => exact plain.here.elim
    | _ => cases gives
  | optional inner =>
    rcases conforms with ⟨rfl, -⟩ | ⟨-, b, conforms, -⟩
    · exact Json.soundWithin_null depth
    · exact soundWithin_of_schema sound inner (plain.part ⟨rfl, rfl⟩) conforms
  | list wanted item =>
    obtain ⟨parts, some, items, rfl, each⟩ := conforms
    obtain ⟨held, rfl⟩ := sound parts some
    refine Json.soundWithin_array fun part member => ?_
    obtain ⟨b, -, conforms⟩ := forall₂_exists_of_mem each member
    exact held (plain.part ⟨rfl, member⟩) conforms
  | table item =>
    obtain ⟨parts, some, members, values, rfl, each, -⟩ := conforms
    obtain ⟨held, rfl⟩ := sound parts some
    refine Json.soundWithin_object fun key part member => ?_
    obtain ⟨b, -, conforms⟩ := forall₂_exists_of_mem each (List.mem_map_of_mem member)
    exact held (plain.part ⟨rfl, key, member⟩) conforms
  | shape inner => exact shaped plain conforms
  | node i => exact shaped (plain.part ⟨rfl, rfl⟩) conforms

/-- What conforms and is plain may be held back. -/
theorem soundWithin {depth : Nat} {schema : Schema g.Carrier α} {json : Json} {a : α}
    (plain : Plain g schema json) (conforms : g.Conforms depth feed schema json a) :
    json.outline.soundWithin depth = true := by
  induction depth generalizing α feed json with
  | zero => exact soundWithin_of_schema (fun _ some => by cases some) schema plain conforms
  | succ depth ih =>
    refine soundWithin_of_schema ?_ schema plain conforms
    rintro _ ⟨⟩
    exact ⟨ih, rfl⟩

/-! ## Plain unions -/

/-- In which order a plain object gives the tag and the payload of a union does not matter. -/
theorem conformObject_iff {n : Nat} {name : String} {arms : Arms (Schema g.Carrier) n α}
    {members : List (String × Json)} {depth : Nat} {a : α}
    (plain : Plain g (.shape (.union name arms)) (.object members)) :
    arms.ConformObject (g.parts depth) feed members a ↔
      ∃ tag offer, valuesOf members "type" = [.text tag] ∧ arms.offers.lookup tag = some offer ∧
        (valuesOf members "value" = [] ∧ offer.Absent a ∨
          ∃ value, valuesOf members "value" = [value] ∧
            offer.Present (g.parts depth) .text value a) := by
  have payload {tag : String} {value : Json} (tagged : valuesOf members "type" = [.text tag])
      (one : valuesOf members "value" = [value]) {β : Type} {inner : Schema g.Carrier β}
      {make : β → α} (offered : arms.offers.lookup tag = some (.payload inner make)) :
      Plain g inner value := by
    have found : value ∈ valuesOf members "value" := one ▸ List.mem_singleton_self value
    exact plain.part ⟨tag, make, tagged, offered, mem_valuesOf.mp found⟩
  have steady (feed feed' : Feed) : Steady feed feed' (g.parts depth) := conforms_of_feed
  constructor
  · intro conforms
    obtain ⟨tag, offer, tagged, offered, fits⟩ := plain.conformObject_cases conforms
    refine ⟨tag, offer, tagged, offered, ?_⟩
    rcases fits with absent | ⟨value, one, ⟨-, present⟩ | ⟨-, -, present⟩⟩
    · exact .inl absent
    · exact .inr ⟨value, one,
        present_of_feed (steady feed .text) (payload tagged one) offered present⟩
    · exact .inr ⟨value, one,
        present_of_feed (steady .buffer .text) (payload tagged one) offered present⟩
  · rintro ⟨tag, offer, tagged, offered, fits⟩
    refine ⟨.text tag, tag, offer, .text feed tag, offered, ?_⟩
    rcases fits with ⟨none, absent⟩ | ⟨value, one, present⟩
    · exact .inl ⟨Arms.unionMembers_eq_tag tagged none, absent⟩
    · have elsewhere (feed : Feed) : offer.Present (g.parts depth) feed value a :=
        present_of_feed (steady .text feed) (payload tagged one) offered present
      refine .inr ⟨value, ?_⟩
      rcases Arms.unionMembers_eq_both tagged one with tagFirst | payloadFirst
      · exact .inl ⟨tagFirst, elsewhere feed⟩
      · have held : value.outline.soundWithin depth = true :=
          soundWithin_of_present Plain.soundWithin (payload tagged one) offered present
        exact .inr ⟨payloadFirst, held, elsewhere .buffer⟩

/-- A plain array gives the tag and the payload of a union. -/
theorem conformArray_iff {n : Nat} {name : String} {arms : Arms (Schema g.Carrier) n α}
    {items : List Json} {depth : Nat} {a : α}
    (plain : Plain g (.shape (.union name arms)) (.array items)) :
    arms.ConformArray (g.parts depth) feed items a ↔
      ∃ tag offer value, items = [.text tag, value] ∧ arms.offers.lookup tag = some offer ∧
        offer.Present (g.parts depth) .text value a := by
  have elsewhere (feed feed' : Feed) (conforms : arms.ConformArray (g.parts depth) feed items a) :
      arms.ConformArray (g.parts depth) feed' items a :=
    conformArray_of_feed conforms_of_feed plain conforms
  constructor
  · intro conforms
    obtain ⟨json, value, tag, offer, rfl, identifies, present⟩ := elsewhere feed .text conforms
    obtain ⟨content, rfl⟩ := plain.here json rfl
    obtain ⟨rfl, offered⟩ := identifies_text_iff.mp identifies
    exact ⟨content, offer, value, rfl, offered, present⟩
  · rintro ⟨tag, offer, value, rfl, offered, present⟩
    exact elsewhere .text feed ⟨.text tag, value, tag, offer, rfl, .name offered, present⟩

end Plain

end WireTree
