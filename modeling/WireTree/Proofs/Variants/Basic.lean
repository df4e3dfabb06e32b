import WireTree.Proofs.Conformance.Basic
import WireTree.Proofs.Places.Basic

/-!
# Variants of a JSON value

A variant is what the value may be respelled as for a schema. A record may be an object with its
members in any order, or the array of all its fields; so may a union, with its tag and payload; and
what is absent may be left out or be `null`. Only plain values are respelled, which have no members
that the schema does not know and give every choice and every tag as a text. Anything else is
skipped, or read, in one way of spelling only.
-/

namespace WireTree

variable {ι : Type}

/-- A schema of any type. -/
abbrev AnySchema (K : ι → Type) : Type 1 :=
  (α : Type) × Schema K α

/-- The parts directly inside a JSON value that are read by schemas of their own. -/
def Schema.HasPart {K : ι → Type} (shape : (i : ι) → Shape (Schema K) (K i)) {α : Type} :
    Schema K α → Json → AnySchema K → Json → Prop
  | .node i, json, inner, part => inner = ⟨K i, .shape (shape i)⟩ ∧ part = json
  | .optional schema, json, inner, part => inner = ⟨_, schema⟩ ∧ part = json
  | .list _ item, .array items, inner, part => inner = ⟨_, item⟩ ∧ part ∈ items
  | .table item, .object members, inner, part =>
    inner = ⟨_, item⟩ ∧ ∃ key, (key, part) ∈ members
  | .shape (.record _ fields _), .object members, inner, part =>
    ∃ key presence, fields.Under key presence inner.2 ∧ (key, part) ∈ members
  | .shape (.record _ fields _), .array items, inner, part =>
    ∃ index, fields.Nth inner.2 index ∧ items[index]? = some part
  | .shape (.tuple _ _ components _), .array items, inner, part =>
    ∃ index, components.Nth inner.2 index ∧ items[index]? = some part
  | .shape (.union _ arms), .object members, inner, part =>
    ∃ tag make, valuesOf members "type" = [.text tag] ∧
      arms.offers.lookup tag = some (.payload inner.2 make) ∧ ("value", part) ∈ members
  | .shape (.union _ arms), .array items, inner, part =>
    ∃ tag make extra, arms.offers.lookup tag = some (.payload inner.2 make) ∧
      items = .text tag :: part :: extra
  | _, _, _, _ => False

/-- A value is plain at the top: a record or union has no members that it does not know, a tag is a
text, and a choice is not an object. -/
def Schema.PlainHere {K : ι → Type} {α : Type} : Schema K α → Json → Prop
  | .shape (.record _ fields _), .object members => ∀ member ∈ members, member.1 ∈ fields.keys
  | .shape (.union _ _), .object members =>
    ∀ member ∈ members, member.1 = "type" ∧ (∃ tag, member.2 = .text tag) ∨ member.1 = "value"
  | .shape (.union _ _), .array items => ∀ item ∈ items.head?, ∃ tag, item = .text tag
  | .choice _, .object _ => False
  | _, _ => True

/-- A value is plain throughout. -/
inductive Plain (g : Grammar ι) : {α : Type} → Schema g.Carrier α → Json → Prop where
  | intro {α : Type} {schema : Schema g.Carrier α} {json : Json} (here : schema.PlainHere json)
      (parts : ∀ inner part, schema.HasPart g.shape json inner part → Plain g inner.2 part) :
      Plain g schema json

/-- A value is respelled at the top. -/
inductive Change (g : Grammar ι) : {α : Type} → Schema g.Carrier α → Json → Json → Prop where
  /-- the members of a record change places -/
  | members {α σ τ : Type} {name : String} {fields : Fields (Schema g.Carrier) σ τ} {make : τ → α}
      {members members' : List (String × Json)} (order : members.Perm members') :
      Change g (.shape (.record name fields make)) (.object members) (.object members')
  /-- a record, of no two fields with one key, becomes the array of all its fields -/
  | elements {α σ τ : Type} {name : String} {fields : Fields (Schema g.Carrier) σ τ} {make : τ → α}
      {members : List (String × Json)} (distinct : fields.keys.Nodup)
      (all : members.map (·.1) = fields.keys) :
      Change g (.shape (.record name fields make)) (.object members) (.array (members.map (·.2)))
  /-- an absent member that is optional becomes `null` -/
  | null {α β σ τ : Type} {name key : String} {fields : Fields (Schema g.Carrier) σ τ}
      {make : τ → α} {schema : Schema g.Carrier β} {members : List (String × Json)}
      (optional : fields.Under key (.absentAs none) (.optional schema))
      (absent : valuesOf members key = []) :
      Change g (.shape (.record name fields make)) (.object members)
        (.object ((key, .null) :: members))
  /-- the members of a union change places -/
  | unionMembers {α : Type} {n : Nat} {name : String} {arms : Arms (Schema g.Carrier) n α}
      {members members' : List (String × Json)} (order : members.Perm members') :
      Change g (.shape (.union name arms)) (.object members) (.object members')
  /-- a union becomes the array of its tag and payload -/
  | unionElements {α : Type} {n : Nat} {name : String} {arms : Arms (Schema g.Carrier) n α}
      {tag value : Json} :
      Change g (.shape (.union name arms)) (.object [("type", tag), ("value", value)])
        (.array [tag, value])
  /-- the absent payload of an alternative without payload becomes `null` -/
  | unionNull {α : Type} {n : Nat} {name tag : String} {arms : Arms (Schema g.Carrier) n α} {a : α}
      {members : List (String × Json)} (tagged : valuesOf members "type" = [.text tag])
      (offered : arms.offers.lookup tag = some (.bare a)) (absent : valuesOf members "value" = []) :
      Change g (.shape (.union name arms)) (.object members) (.object (("value", .null) :: members))

/-- A value is respelled in one place, at any depth. -/
inductive Respelled (g : Grammar ι) : {α : Type} → Schema g.Carrier α → Json → Json → Prop where
  | here {α : Type} {schema : Schema g.Carrier α} {json json' : Json}
      (change : Change g schema json json') : Respelled g schema json json'
  | node {i : ι} {json json' : Json} (inner : Respelled g (.shape (g.shape i)) json json') :
      Respelled g (.node i) json json'
  | optional {α : Type} {schema : Schema g.Carrier α} {json json' : Json}
      (inner : Respelled g schema json json') : Respelled g (.optional schema) json json'
  | item {α : Type} {wanted : String} {schema : Schema g.Carrier α} {part part' : Json}
      (before after : List Json) (inner : Respelled g schema part part') :
      Respelled g (.list wanted schema) (.array (before ++ part :: after))
        (.array (before ++ part' :: after))
  | entry {α : Type} {schema : Schema g.Carrier α} {part part' : Json}
      (before : List (String × Json)) (key : String) (after : List (String × Json))
      (inner : Respelled g schema part part') :
      Respelled g (.table schema) (.object (before ++ (key, part) :: after))
        (.object (before ++ (key, part') :: after))
  | member {α β σ τ : Type} {name key : String} {fields : Fields (Schema g.Carrier) σ τ}
      {make : τ → α} {presence : Presence β} {schema : Schema g.Carrier β} {part part' : Json}
      (under : fields.Under key presence schema) (before after : List (String × Json))
      (inner : Respelled g schema part part') :
      Respelled g (.shape (.record name fields make)) (.object (before ++ (key, part) :: after))
        (.object (before ++ (key, part') :: after))
  | element {α β σ τ : Type} {name : String} {fields : Fields (Schema g.Carrier) σ τ}
      {make : τ → α} {schema : Schema g.Carrier β} {part part' : Json} (before after : List Json)
      (nth : fields.Nth schema before.length) (inner : Respelled g schema part part') :
      Respelled g (.shape (.record name fields make)) (.array (before ++ part :: after))
        (.array (before ++ part' :: after))
  | component {α β τ : Type} {wanted counted : String} {components : Items (Schema g.Carrier) τ}
      {make : τ → α} {schema : Schema g.Carrier β} {part part' : Json} (before after : List Json)
      (nth : components.Nth schema before.length) (inner : Respelled g schema part part') :
      Respelled g (.shape (.tuple wanted counted components make))
        (.array (before ++ part :: after))
        (.array (before ++ part' :: after))
  | payload {α β : Type} {n : Nat} {name tag : String} {arms : Arms (Schema g.Carrier) n α}
      {schema : Schema g.Carrier β} {make : β → α} {part part' : Json}
      (before after : List (String × Json))
      (tagged : valuesOf (before ++ after) "type" = [.text tag])
      (offered : arms.offers.lookup tag = some (.payload schema make))
      (inner : Respelled g schema part part') :
      Respelled g (.shape (.union name arms)) (.object (before ++ ("value", part) :: after))
        (.object (before ++ ("value", part') :: after))
  | payloadItem {α β : Type} {n : Nat} {name tag : String} {arms : Arms (Schema g.Carrier) n α}
      {schema : Schema g.Carrier β} {make : β → α} {part part' : Json} (extra : List Json)
      (offered : arms.offers.lookup tag = some (.payload schema make))
      (inner : Respelled g schema part part') :
      Respelled g (.shape (.union name arms)) (.array (.text tag :: part :: extra))
        (.array (.text tag :: part' :: extra))

end WireTree
