import WireTree.Proofs.Spelling.Basic

/-!
# When a JSON value conforms to a schema

This is said of the JSON value as a whole, together with the value that it conforms as: an object is
the collection of its members, an array the list of its items, and nothing is taken in turn; only
how deep containers may stand inside each other is counted, since a reader opens no more of them
than that. What is held back until a tag is known is looked at with other eyes than the text itself,
so conforming is relative to where the value is read from.
-/

namespace WireTree

universe u

variable {S : Type → Type 1} {α β σ τ : Type}

section Members

variable {κ ν : Type} [DecidableEq κ]

/-- The values that an object gives for a key, in the order of its members. -/
def valuesOf (members : List (κ × ν)) (key : κ) : List ν :=
  (members.filter fun member => member.1 = key).map (·.2)

/-- The members of an object under other keys. -/
def besides (members : List (κ × ν)) (key : κ) : List (κ × ν) :=
  members.filter fun member => member.1 ≠ key

end Members

namespace Presence

/-- The value of a member that an object leaves out. -/
def absent? : Presence α → Option α
  | required => none
  | absentAs value => some value
  | defaultsTo value => some value

/-- The value of a member that an array ends before. -/
def cutOff? : Presence α → Option α
  | defaultsTo value => some value
  | _ => none

end Presence

/-- The parts of a container: how many containers may be opened inside each other there, and
which JSON values conform to which schemas, as which values. -/
structure Parts (S : Type → Type 1) where
  depth : Nat
  Conform : {α : Type} → Feed → S α → Json → α → Prop

/-! ## Records and tuples -/

namespace Fields

/-- An object conforms to fields: each of them takes the only value under its key, or, if there
is none, the value that stands for an absent one. Other members may be there and do not
matter. -/
def ConformObject (Part : {α : Type} → S α → Json → α → Prop) {σ τ : Type} :
    Fields S σ τ → List (String × Json) → τ → Prop
  | nil, _, _ => True
  | cons key presence schema rest, members, (a, values) =>
    (valuesOf members key = [] ∧ presence.absent? = some a ∨
      ∃ json, valuesOf members key = [json] ∧ Part schema json a) ∧
      rest.ConformObject Part (besides members key) values

/-- An array conforms to fields: its items do, in the order of the fields, and the fields after
its end may be cut off. -/
def ConformArray (Part : {α : Type} → S α → Json → α → Prop) {σ τ : Type} :
    Fields S σ τ → List Json → τ → Prop
  | nil, items, _ => items = []
  | cons _ _ schema rest, item :: items, (a, values) =>
    Part schema item a ∧ rest.ConformArray Part items values
  | cons _ presence _ rest, [], (a, values) =>
    presence.cutOff? = some a ∧ rest.ConformArray Part [] values

end Fields

namespace Items

/-- An array conforms to the parts of a tuple, one by one. -/
def Conform (Part : {α : Type} → S α → Json → α → Prop) {τ : Type} :
    Items S τ → List Json → τ → Prop
  | nil, items, _ => items = []
  | cons schema rest, item :: items, (a, values) =>
    Part schema item a ∧ rest.Conform Part items values
  | cons _ _, [], _ => False

end Items

/-! ## Names and unions -/

/-- A JSON value gives a name: it is the name, or, if a container may be opened, an object with
the name as its only key and `null` as the value. Of what was held back it is known that its
containers may be opened, and an empty object stands for `null`, too. -/
inductive GivesName (room : Bool) : Feed → Json → String → Prop where
  | text (feed : Feed) (name : String) : GivesName room feed (.text name) name
  | object (name : String) (open_ : room = true) :
      GivesName room .text (.object [(name, .null)]) name
  | held (name : String) : GivesName room .buffer (.object [(name, .null)]) name
  | heldEmpty (name : String) : GivesName room .buffer (.object [(name, .object [])]) name

/-- A JSON value identifies an entry: it is the entry's name, or, in what was held back, its
number. -/
inductive Identifies {β : Type u} (entries : List (String × β)) :
    Feed → Json → String → β → Prop where
  | name {feed : Feed} {name : String} {b : β} (found : entries.lookup name = some b) :
      Identifies entries feed (.text name) name b
  | number {numeral : Json.Numeral} {index : Nat} {name : String} {b : β}
      (integer : numeral.toInteger? = some (index : Int))
      (found : entries[index]? = some (name, b)) :
      Identifies entries .buffer (.number numeral) name b

namespace Offer

/-- What an offer gives if nothing stands for its payload. -/
def Absent : Offer S α → α → Prop
  | bare value, a => value = a
  | payload _ _, _ => False

/-- What an offer gives if something stands for its payload. -/
def Present (parts : Parts S) (feed : Feed) : Offer S α → Json → α → Prop
  | bare value, json, a => json = .null ∧ value = a
  | payload schema make, json, a => ∃ b, parts.Conform feed schema json b ∧ make b = a

end Offer

namespace Arms

/-- What a union offers, tag by tag. -/
def offers {n : Nat} : Arms S n α → List (String × Offer S α)
  | nil => []
  | bare tag value rest => (tag, .bare value) :: rest.offers
  | payload tag schema make rest => (tag, .payload schema make) :: rest.offers

/-- The members of an object that belong to a union. -/
def unionMembers (members : List (String × Json)) : List (String × Json) :=
  members.filter fun member => member.1 = "type" ∨ member.1 = "value"

variable {n : Nat}

/-- An object conforms to a union: its tag names what is offered, and the payload fits the offer
or is absent. A payload before the tag is held back, and nothing in it is skipped then. -/
def ConformObject (parts : Parts S) (feed : Feed) (arms : Arms S n α)
    (members : List (String × Json)) (a : α) : Prop :=
  ∃ tag name offer, GivesName (decide (0 < parts.depth)) feed tag name ∧
    arms.offers.lookup name = some offer ∧
    (unionMembers members = [("type", tag)] ∧ offer.Absent a ∨
      ∃ value,
        unionMembers members = [("type", tag), ("value", value)] ∧
            offer.Present parts feed value a ∨
          unionMembers members = [("value", value), ("type", tag)] ∧
            value.outline.soundWithin parts.depth = true ∧ offer.Present parts .buffer value a)

/-- An array conforms to a union: it holds the tag and the payload. -/
def ConformArray (parts : Parts S) (feed : Feed) (arms : Arms S n α) (items : List Json)
    (a : α) : Prop :=
  ∃ tag value name offer, items = [tag, value] ∧
    Identifies arms.offers feed tag name offer ∧ offer.Present parts feed value a

end Arms

/-! ## Schemas -/

/-- A JSON value conforms to a shape, given the parts of a container, if one may be opened. -/
def Shape.Conforms (within : Option (Parts S)) (feed : Feed) {α : Type} :
    Shape S α → Json → α → Prop
  | record _ fields make, json, a =>
    ∃ parts ∈ within, ∃ values, make values = a ∧
      match json with
      | .object members => fields.ConformObject (parts.Conform feed) members values
      | .array items => fields.ConformArray (parts.Conform feed) items values
      | _ => False
  | tuple _ _ components make, json, a =>
    ∃ parts ∈ within, ∃ values, make values = a ∧
      match json with
      | .array items => components.Conform (parts.Conform feed) items values
      | _ => False
  | union _ arms, json, a =>
    ∃ parts ∈ within,
      match json with
      | .object members => arms.ConformObject parts feed members a
      | .array items => arms.ConformArray parts feed items a
      | _ => False

/-- A JSON value conforms to a schema, given the shapes of nodes and the parts of a container, if
one may be opened. -/
def Schema.Conforms {ι : Type} {K : ι → Type} (shape : (i : ι) → Shape (Schema K) (K i))
    (within : Option (Parts (Schema K))) (feed : Feed) {α : Type} :
    Schema K α → Json → α → Prop
  | integer rule, json, a =>
    ∃ numeral n, json = .number numeral ∧ numeral.toInteger? = some n ∧ rule.accept n = .ok a
  | double, json, d => ∃ numeral, json = .number numeral ∧ numeral.toDouble? = some d
  | boolean, json, b => json = .boolean b
  | text make, json, a => ∃ content, json = .text content ∧ make content = a
  | choice names, json, a =>
    ∃ name, GivesName within.isSome feed json name ∧ names.lookup name = some a
  | optional inner, json, value =>
    json = .null ∧ value = none ∨
      json ≠ .null ∧ ∃ a, Conforms shape within feed inner json a ∧ value = some a
  | list _ item, json, values =>
    ∃ parts ∈ within, ∃ items, json = .array items ∧
      List.Forall₂ (parts.Conform feed item) items values
  | table item, json, entries =>
    ∃ parts ∈ within, ∃ members values, json = .object members ∧
      List.Forall₂ (parts.Conform feed item) (members.map (·.2)) values ∧
      Table.ofList ((members.map (·.1)).zip values) = entries
  | .shape inner, json, a => inner.Conforms within feed json a
  | node i, json, a => (shape i).Conforms within feed json a

namespace Grammar

variable {ι : Type}

/-- A JSON value conforms to a schema as some value, with no more than `depth` containers opened
inside each other. -/
def Conforms (g : Grammar ι) (depth : Nat) {α : Type} (feed : Feed) (schema : Schema g.Carrier α)
    (json : Json) (a : α) : Prop :=
  match depth with
  | 0 => schema.Conforms g.shape none feed json a
  | depth + 1 => schema.Conforms g.shape (some ⟨depth, g.Conforms depth⟩) feed json a

/-- The parts of a container if so many more containers may be opened. -/
def parts (g : Grammar ι) (depth : Nat) : Parts (Schema g.Carrier) :=
  ⟨depth, g.Conforms depth⟩

/-- The parts of a container if so many containers may be opened, itself among them. -/
def within (g : Grammar ι) : Nat → Option (Parts (Schema g.Carrier))
  | 0 => none
  | depth + 1 => some (g.parts depth)

theorem conforms_iff {g : Grammar ι} {depth : Nat} {feed : Feed} {schema : Schema g.Carrier α}
    {json : Json} {a : α} :
    g.Conforms depth feed schema json a ↔
      schema.Conforms g.shape (g.within depth) feed json a := by
  cases depth <;> exact Iff.rfl

end Grammar

end WireTree
