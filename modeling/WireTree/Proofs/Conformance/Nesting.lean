import WireTree.Proofs.Conformance.Reading
import WireTree.Proofs.Places.Basic

/-!
# Conforming and the limit on containers

Conforming does not depend on how many containers may be opened, as long as there is room for those
that the JSON value has. So up to the limit of the reader a value is read exactly if it conforms at
all.
Main statement: `Grammar.conforms_iff_of_nesting_le`.
-/

namespace WireTree

open Json (Outline nestingItems nestingMembers outlineItems outlineMembers)

variable {S : Type → Type 1} {α β σ τ : Type}

/-! ## The parts of a container -/

variable {Part Part' : {α : Type} → S α → Json → α → Prop}

theorem Fields.ConformObject.imp {fields : Fields S σ τ} {members : List (String × Json)}
    {values : τ}
    (weaker : ∀ {α : Type} {key : String} {presence : Presence α} {schema : S α} {json : Json}
      {a : α}, fields.Under key presence schema → (key, json) ∈ members →
        Part schema json a → Part' schema json a)
    (conforms : fields.ConformObject Part members values) :
    fields.ConformObject Part' members values := by
  induction fields generalizing members with
  | nil => trivial
  | cons key presence schema rest ih =>
    obtain ⟨a, values⟩ := values
    obtain ⟨first, others⟩ := conforms
    refine ⟨?_, ih ?_ others⟩
    · rcases first with absent | ⟨json, alone, part⟩
      · exact .inl absent
      · have member : (key, json) ∈ members := by
          rw [← mem_valuesOf, alone]
          exact List.mem_singleton_self json
        exact .inr ⟨json, alone, weaker .head member part⟩
    · intro _ other _ _ json _ under member
      obtain ⟨member, different⟩ := mem_besides.mp member
      exact weaker (.tail (Ne.symm different) under) member

theorem Fields.ConformArray.imp {fields : Fields S σ τ} {items : List Json} {values : τ}
    (weaker : ∀ {α : Type} {index : Nat} {schema : S α} {json : Json} {a : α},
      fields.Nth schema index → items[index]? = some json →
        Part schema json a → Part' schema json a)
    (conforms : fields.ConformArray Part items values) :
    fields.ConformArray Part' items values := by
  induction fields generalizing items with
  | nil => exact conforms
  | cons key presence schema rest ih =>
    obtain ⟨a, values⟩ := values
    cases items with
    | cons item items =>
      obtain ⟨first, others⟩ := conforms
      exact ⟨weaker .head rfl first, ih (fun nth found => weaker (.tail nth) found) others⟩
    | nil =>
      obtain ⟨cutOff, others⟩ := conforms
      exact ⟨cutOff, ih (fun _ found => nomatch found) others⟩

theorem Items.Conform.imp {components : Items S τ} {items : List Json} {values : τ}
    (weaker : ∀ {α : Type} {index : Nat} {schema : S α} {json : Json} {a : α},
      components.Nth schema index → items[index]? = some json →
        Part schema json a → Part' schema json a)
    (conforms : components.Conform Part items values) :
    components.Conform Part' items values := by
  induction components generalizing items with
  | nil => exact conforms
  | cons schema rest ih =>
    obtain ⟨a, values⟩ := values
    cases items with
    | cons item items =>
      obtain ⟨first, others⟩ := conforms
      exact ⟨weaker .head rfl first, ih (fun nth found => weaker (.tail nth) found) others⟩
    | nil => exact conforms.elim

/-! ## Nesting -/

namespace Json

theorem nesting_le_of_mem {item : Json} {items : List Json} (member : item ∈ items) :
    item.nesting ≤ nestingItems items := by
  induction items with
  | nil => cases member
  | cons first items ih =>
    rw [nestingItems]
    rcases List.mem_cons.mp member with rfl | member
    · exact Nat.le_max_left _ _
    · exact Nat.le_trans (ih member) (Nat.le_max_right _ _)

theorem nesting_le_of_mem_members {key : String} {value : Json} {members : List (String × Json)}
    (member : (key, value) ∈ members) : value.nesting ≤ nestingMembers members := by
  induction members with
  | nil => cases member
  | cons first members ih =>
    obtain ⟨name, json⟩ := first
    rw [nestingMembers]
    rcases List.mem_cons.mp member with same | member
    · cases same
      exact Nat.le_max_left _ _
    · exact Nat.le_trans (ih member) (Nat.le_max_right _ _)

mutual

/-- A well-formed value opens no more containers inside each other than there are. -/
theorem soundWithin_of_nesting_le {depth depth' : Nat} (json : Json) (nested : json.nesting ≤ depth)
    (sound : json.outline.soundWithin depth' = true) : json.outline.soundWithin depth = true := by
  cases json with
  | array items =>
    cases depth' with
    | zero => cases sound
    | succ depth' =>
      cases depth with
      | zero => cases nested
      | succ depth =>
        simp only [outline, Outline.soundWithin, Bool.and_true] at sound ⊢
        exact allSoundWithin_of_nesting_le items (Nat.le_of_succ_le_succ nested) sound
  | object members =>
    cases depth' with
    | zero => cases sound
    | succ depth' =>
      cases depth with
      | zero => cases nested
      | succ depth =>
        simp only [outline, Outline.soundWithin, Bool.and_true] at sound ⊢
        exact membersSoundWithin_of_nesting_le members (Nat.le_of_succ_le_succ nested) sound
  | _ => cases depth <;> cases depth' <;> exact sound

theorem allSoundWithin_of_nesting_le {depth depth' : Nat} (items : List Json)
    (nested : nestingItems items ≤ depth)
    (sound : Outline.allSoundWithin depth' (outlineItems items) = true) :
    Outline.allSoundWithin depth (outlineItems items) = true := by
  cases items with
  | nil => rfl
  | cons item items =>
    obtain ⟨first, others⟩ := Nat.max_le.mp nested
    simp only [outlineItems, Outline.allSoundWithin, Bool.and_eq_true] at sound ⊢
    exact ⟨soundWithin_of_nesting_le item first sound.1,
      allSoundWithin_of_nesting_le items others sound.2⟩

theorem membersSoundWithin_of_nesting_le {depth depth' : Nat} (members : List (String × Json))
    (nested : nestingMembers members ≤ depth)
    (sound : Outline.membersSoundWithin depth' (outlineMembers members) = true) :
    Outline.membersSoundWithin depth (outlineMembers members) = true := by
  match members with
  | [] => rfl
  | (key, value) :: members =>
    obtain ⟨first, others⟩ := Nat.max_le.mp nested
    simp only [outlineMembers, Outline.membersSoundWithin, Bool.and_eq_true] at sound ⊢
    exact ⟨⟨rfl, soundWithin_of_nesting_le value first sound.1.2⟩,
      membersSoundWithin_of_nesting_le members others sound.2⟩

end

end Json

/-- The parts of a container conform in one setting if they do in another, provided that they have
no more than `n` containers inside each other. -/
structure Carries (n : Nat) (parts parts' : Parts S) : Prop where
  depth : n ≤ parts'.depth
  conform : ∀ {α : Type} {feed : Feed} {schema : S α} {json : Json} {a : α}, json.nesting ≤ n →
    parts.Conform feed schema json a → parts'.Conform feed schema json a

variable {feed : Feed} {parts parts' : Parts S} {n : Nat}

theorem GivesName.imp {room room' : Bool} {json : Json} {name : String}
    (more : 0 < json.nesting → room = true → room' = true)
    (gives : GivesName room feed json name) : GivesName room' feed json name := by
  cases gives with
  | text => exact .text feed name
  | object _ open_ => exact .object name (more (Nat.succ_pos _) open_)
  | held => exact .held name
  | heldEmpty => exact .heldEmpty name

theorem Offer.Present.carry (carries : Carries n parts parts') {offer : Offer S α} {json : Json}
    {a : α} (nested : json.nesting ≤ n) (present : offer.Present parts feed json a) :
    offer.Present parts' feed json a := by
  cases offer with
  | bare value => exact present
  | payload schema make =>
    obtain ⟨b, conforms, made⟩ := present
    exact ⟨b, carries.conform nested conforms, made⟩

namespace Arms

variable {arms : Arms S n α}

theorem mem_of_mem_unionMembers {member : String × Json} {members : List (String × Json)}
    (found : member ∈ unionMembers members) : member ∈ members :=
  List.mem_of_mem_filter found

theorem ConformObject.carry {inner : Nat} {members : List (String × Json)} {a : α}
    (carries : Carries inner parts parts') (nested : nestingMembers members ≤ inner)
    (conforms : arms.ConformObject parts feed members a) :
    arms.ConformObject parts' feed members a := by
  have each {key : String} {json : Json} (found : (key, json) ∈ unionMembers members) :
      json.nesting ≤ inner :=
    Nat.le_trans (Json.nesting_le_of_mem_members (mem_of_mem_unionMembers found)) nested
  have name_carry {tag : Json} {name : String} (found : ("type", tag) ∈ unionMembers members)
      (gives : GivesName (decide (0 < parts.depth)) feed tag name) :
      GivesName (decide (0 < parts'.depth)) feed tag name := by
    refine gives.imp fun deep _ => decide_eq_true ?_
    exact Nat.lt_of_lt_of_le deep (Nat.le_trans (each found) carries.depth)
  obtain ⟨tag, name, offer, gives, offered, cases_⟩ := conforms
  rcases cases_ with ⟨alone, absent⟩ | ⟨value, ⟨both, present⟩ | ⟨both, sound, present⟩⟩
  · exact ⟨tag, name, offer, name_carry (by simp [alone]) gives, offered, .inl ⟨alone, absent⟩⟩
  · have here : value.nesting ≤ inner := each (by simp [both] : ("value", value) ∈ _)
    exact ⟨tag, name, offer, name_carry (by simp [both]) gives, offered,
      .inr ⟨value, .inl ⟨both, present.carry carries here⟩⟩⟩
  · have here : value.nesting ≤ inner := each (by simp [both] : ("value", value) ∈ _)
    have sound' := value.soundWithin_of_nesting_le (Nat.le_trans here carries.depth) sound
    exact ⟨tag, name, offer, name_carry (by simp [both]) gives, offered,
      .inr ⟨value, .inr ⟨both, sound', present.carry carries here⟩⟩⟩

theorem ConformArray.carry {inner : Nat} {items : List Json} {a : α}
    (carries : Carries inner parts parts') (nested : nestingItems items ≤ inner)
    (conforms : arms.ConformArray parts feed items a) : arms.ConformArray parts' feed items a := by
  obtain ⟨tag, value, name, offer, rfl, identifies, present⟩ := conforms
  have here : value.nesting ≤ inner :=
    Nat.le_trans (Json.nesting_le_of_mem (by simp)) nested
  exact ⟨tag, value, name, offer, rfl, identifies, present.carry carries here⟩

end Arms

/-- Whatever may be opened of a JSON value in one setting may be opened in another. -/
def Admits (json : Json) (within within' : Option (Parts S)) : Prop :=
  ∀ parts ∈ within, ∀ inner, json.nesting = inner + 1 →
    ∃ parts' ∈ within', Carries inner parts parts'

variable {within within' : Option (Parts S)}

theorem Shape.Conforms.carry {shape : Shape S α} {json : Json} {a : α}
    (admits : Admits json within within') (conforms : shape.Conforms within feed json a) :
    shape.Conforms within' feed json a := by
  cases shape with
  | record name fields make =>
    obtain ⟨parts, some, values, made, conforms⟩ := conforms
    cases json with
    | object members =>
      obtain ⟨parts', some', carries⟩ := admits parts some _ rfl
      refine ⟨parts', some', values, made, conforms.imp ?_⟩
      intro _ _ _ _ _ _ _ member
      exact carries.conform (Json.nesting_le_of_mem_members member)
    | array items =>
      obtain ⟨parts', some', carries⟩ := admits parts some _ rfl
      refine ⟨parts', some', values, made, conforms.imp ?_⟩
      intro _ _ _ _ _ _ found
      exact carries.conform (Json.nesting_le_of_mem (List.mem_of_getElem? found))
    | _ => exact conforms.elim
  | tuple wanted counted components make =>
    obtain ⟨parts, some, values, made, conforms⟩ := conforms
    cases json with
    | array items =>
      obtain ⟨parts', some', carries⟩ := admits parts some _ rfl
      refine ⟨parts', some', values, made, conforms.imp ?_⟩
      intro _ _ _ _ _ _ found
      exact carries.conform (Json.nesting_le_of_mem (List.mem_of_getElem? found))
    | _ => exact conforms.elim
  | union name arms =>
    obtain ⟨parts, some, conforms⟩ := conforms
    cases json with
    | object members =>
      obtain ⟨parts', some', carries⟩ := admits parts some _ rfl
      exact ⟨parts', some', Arms.ConformObject.carry carries (Nat.le_refl _) conforms⟩
    | array items =>
      obtain ⟨parts', some', carries⟩ := admits parts some _ rfl
      exact ⟨parts', some', Arms.ConformArray.carry carries (Nat.le_refl _) conforms⟩
    | _ => exact conforms.elim

theorem Schema.Conforms.carry {ι : Type} {K : ι → Type} {shape : (i : ι) → Shape (Schema K) (K i)}
    {within within' : Option (Parts (Schema K))} {α : Type} (schema : Schema K α) {json : Json}
    {a : α} (admits : Admits json within within')
    (conforms : schema.Conforms shape within feed json a) :
    schema.Conforms shape within' feed json a := by
  cases schema with
  | integer | double | boolean | text => exact conforms
  | choice names =>
    obtain ⟨name, gives, found⟩ := conforms
    refine ⟨name, gives.imp ?_, found⟩
    intro deep open_
    obtain ⟨parts, some⟩ := Option.isSome_iff_exists.mp open_
    obtain ⟨inner, nested⟩ := Nat.exists_eq_add_one_of_ne_zero (Nat.ne_of_gt deep)
    obtain ⟨parts', some', -⟩ := admits parts some inner nested
    exact Option.isSome_iff_exists.mpr ⟨parts', some'⟩
  | optional inner =>
    rcases conforms with absent | ⟨present, a, conforms, made⟩
    · exact .inl absent
    · exact .inr ⟨present, a, carry inner admits conforms, made⟩
  | list wanted item =>
    obtain ⟨parts, some, items, rfl, each⟩ := conforms
    obtain ⟨parts', some', carries⟩ := admits parts some _ rfl
    refine ⟨parts', some', items, rfl, forall₂_imp_of_mem ?_ each⟩
    intro json member _
    exact carries.conform (Json.nesting_le_of_mem member)
  | table item =>
    obtain ⟨parts, some, members, values, rfl, each, made⟩ := conforms
    obtain ⟨parts', some', carries⟩ := admits parts some _ rfl
    refine ⟨parts', some', members, values, rfl, forall₂_imp_of_mem ?_ each, made⟩
    intro json member _
    obtain ⟨⟨key, value⟩, found, rfl⟩ := List.mem_map.mp member
    exact carries.conform (Json.nesting_le_of_mem_members found)
  | shape inner => exact Shape.Conforms.carry admits conforms
  | node i => exact Shape.Conforms.carry admits conforms

namespace Grammar

variable {ι : Type} {g : Grammar ι} {schema : Schema g.Carrier α} {json : Json} {a : α}

/-- A value that conforms with some room for containers does so whenever its own fit. -/
theorem Conforms.of_nesting_le {depth depth' : Nat} (nested : json.nesting ≤ depth)
    (conforms : g.Conforms depth' feed schema json a) : g.Conforms depth feed schema json a := by
  induction depth generalizing depth' α feed json with
  | zero =>
    rw [conforms_iff] at conforms ⊢
    refine Schema.Conforms.carry schema ?_ conforms
    intro parts _ inner deep
    omega
  | succ depth ih =>
    rw [conforms_iff] at conforms ⊢
    refine Schema.Conforms.carry schema ?_ conforms
    intro parts some inner deep
    refine ⟨g.parts depth, rfl, ?_, ?_⟩
    · show inner ≤ depth
      omega
    · intro _ feed part json _ nested conforms
      cases depth' with
      | zero => cases some
      | succ depth' =>
        cases some
        exact ih (Nat.le_trans nested (by omega)) conforms

/-- As long as its containers fit, it does not matter how much room there is. -/
theorem conforms_iff_of_nesting_le {depth : Nat} (nested : json.nesting ≤ depth) :
    g.Conforms depth feed schema json a ↔ ∃ room, g.Conforms room feed schema json a :=
  ⟨fun conforms => ⟨depth, conforms⟩, fun ⟨_, conforms⟩ => conforms.of_nesting_le nested⟩

end Grammar

end WireTree
