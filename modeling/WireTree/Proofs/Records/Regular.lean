import WireTree.Format.Shared
import WireTree.Proofs.Places.Congruence
import WireTree.Proofs.Variants.Basic

/-!
# Regular schemas

No record in them has two fields with one key, and what stands for an absent member is what the
schema of the field says: a field that only objects may leave out reads `null` as that value; a
field that arrays may end before has the default of its type, and never takes `null`.
Main statement: in a grammar of regular shapes every place inside a regular schema is regular
(`Regular.place`).
-/

namespace WireTree

open Json (Outline)

variable {S : Type → Type 1} {ι α β σ τ : Type} {K : ι → Type}

namespace Schema

/-- The schemas of the parts directly inside a value. -/
def parts {α : Type} : Schema K α → List (AnySchema K)
  | optional inner => [⟨_, inner⟩]
  | list _ item => [⟨_, item⟩]
  | table item => [⟨_, item⟩]
  | .shape (.record _ fields _) => fields.schemas
  | .shape (.tuple _ _ components _) => components.schemas
  | _ => []

/-- Whether `null` is a value of its own. -/
def isOptional {α : Type} : Schema K α → Bool
  | optional _ => true
  | _ => false

/-- The JSON value for the default of a type: zero, false, an empty text or list, the first of a few
names, and the object without members for a record. -/
def zero {α : Type} : Schema K α → Json
  | integer _ => .ofInt 0
  | double => .ofInt 0
  | boolean => .boolean false
  | text _ => .text ""
  | choice ((name, _) :: _) => .text name
  | list _ _ => .array []
  | table _ => .object []
  | .shape (.record _ _ _) => .object []
  | _ => .null

end Schema

section Defaults

variable (g : Grammar ι)

/-- What stands for an absent member is what the schema of its field says. -/
def Presence.Fits (schema : Schema g.Carrier α) : Presence α → Prop
  | required => True
  | absentAs a => ∀ depth feed, g.read depth feed schema .null = .ok a
  | defaultsTo a =>
    schema.isOptional = false ∧
      ∀ depth feed, g.read (depth + 1) feed schema schema.zero.outline = .ok a

/-- What stands for absent members is what the schemas of their fields say. -/
def Fields.Fit {σ τ : Type} : Fields (Schema g.Carrier) σ τ → Prop
  | nil => True
  | cons _ presence schema rest => presence.Fits g schema ∧ rest.Fit

/-- A record has distinct keys, and its defaults fit. -/
def Schema.RegularHere {α : Type} : Schema g.Carrier α → Prop
  | .shape (.record _ fields _) => fields.keys.Nodup ∧ fields.Fit g
  | _ => True

/-- All records in a schema have distinct keys, and their defaults fit. -/
inductive Regular : {α : Type} → Schema g.Carrier α → Prop where
  | intro {α : Type} {schema : Schema g.Carrier α} (here : schema.RegularHere g)
      (parts : ∀ part ∈ schema.parts, Regular part.2) : Regular schema

end Defaults

variable {g : Grammar ι}

theorem read_optional_null (schema : Schema g.Carrier α) (depth : Nat) (feed : Feed) :
    g.read depth feed (.optional schema) .null = .ok none := by
  cases depth <;> rfl

/-- Only what may be absent is read from `null`. -/
theorem read_null_ne_ok {schema : Schema g.Carrier α} (proper : schema.isOptional = false)
    (depth : Nat) (feed : Feed) (a : α) : g.read depth feed schema .null ≠ .ok a := by
  have shaped (shape : Shape (Schema g.Carrier) α) (inside : Option (Inside (Schema g.Carrier))) :
      shape.read inside feed .null ≠ .ok a := by
    cases shape <;> exact nofun
  cases schema with
  | optional inner => cases proper
  | choice names => cases depth <;> cases feed <;> exact nofun
  | shape inner => cases depth <;> exact shaped inner _
  | node i => cases depth <;> exact shaped (g.shape i) _
  | _ => cases depth <;> exact nofun

/-! ## Places inside a regular schema -/

theorem Fields.Fit.under {key : String} {presence : Presence β} {part : Schema g.Carrier β}
    {fields : Fields (Schema g.Carrier) σ τ} (fit : fields.Fit g)
    (under : fields.Under key presence part) : presence.Fits g part := by
  induction under with
  | head => exact fit.1
  | tail _ _ ih => exact ih fit.2

namespace Regular

variable {schema : Schema g.Carrier α} {inner : Schema g.Carrier β} {gap : Outline → Outline}

theorem here (regular : Regular g schema) : schema.RegularHere g := by
  cases regular with
  | intro here _ => exact here

theorem part (regular : Regular g schema) (inside : ⟨β, inner⟩ ∈ schema.parts) :
    Regular g inner := by
  cases regular with
  | intro _ parts => exact parts ⟨β, inner⟩ inside

theorem layer (nodes : ∀ i, Regular g (.shape (g.shape i))) (regular : Regular g schema)
    (layer : Layer g schema inner gap) : Regular g inner := by
  cases layer with
  | node i => exact nodes i
  | optional | item _ _ _ | entry _ _ _ _ => exact regular.part List.mem_cons_self
  | member under _ _ _ =>
    obtain ⟨_, nth, -⟩ := under.nth
    exact regular.part (List.mem_of_getElem? nth.getElem?)
  | element _ _ _ nth => exact regular.part (List.mem_of_getElem? nth.getElem?)
  | component _ _ _ nth => exact regular.part (List.mem_of_getElem? nth.getElem?)

theorem place (nodes : ∀ i, Regular g (.shape (g.shape i))) (regular : Regular g schema)
    (place : Place g schema inner gap) : Regular g inner := by
  induction place with
  | here => exact regular
  | inside layer _ ih => exact ih (regular.layer nodes layer)

end Regular

/-! ## Regular schemas -/

section Keys

variable {key : String} {schema : Schema K α} {rest : Fields (Schema K) σ τ} {a : α}

@[simp] theorem Fields.keys_nil : (nil : Fields (Schema K) Unit Unit).keys = [] := rfl

@[simp] theorem Format.keys_required : (required key schema rest).keys = key :: rest.keys := rfl

@[simp] theorem Format.keys_optional : (optional key schema rest).keys = key :: rest.keys := rfl

@[simp] theorem Format.keys_defaulted :
    (defaulted key a schema rest).keys = key :: rest.keys := rfl

end Keys

/-- Fields whose defaults fit and whose schemas are regular. -/
def Fields.Regular (g : Grammar ι) {σ τ : Type} (fields : Fields (Schema g.Carrier) σ τ) : Prop :=
  fields.Fit g ∧ ∀ part ∈ fields.schemas, WireTree.Regular g part.2

namespace Fields.Regular

variable {fields : Fields (Schema g.Carrier) σ τ} {schema : Schema g.Carrier α} {key : String}

theorem nil : Fields.Regular g (.nil : Fields (Schema g.Carrier) Unit Unit) :=
  ⟨trivial, nofun⟩

theorem cons {presence : Presence α} (fits : presence.Fits g schema)
    (regular : WireTree.Regular g schema) (rest : fields.Regular g) :
    Fields.Regular g (.cons key presence schema fields) :=
  ⟨⟨fits, rest.1⟩, List.forall_mem_cons.mpr ⟨regular, rest.2⟩⟩

theorem required (regular : WireTree.Regular g schema) (rest : fields.Regular g) :
    Fields.Regular g (Format.required key schema fields) :=
  cons trivial regular rest

theorem optional (regular : WireTree.Regular g schema) (rest : fields.Regular g) :
    Fields.Regular g (Format.optional key schema fields) :=
  cons (read_optional_null schema) (.intro trivial (List.forall_mem_singleton.mpr regular)) rest

theorem defaulted {a : α} (proper : schema.isOptional = false)
    (zero : ∀ depth feed, g.read (depth + 1) feed schema schema.zero.outline = .ok a)
    (regular : WireTree.Regular g schema) (rest : fields.Regular g) :
    Fields.Regular g (Format.defaulted key a schema fields) :=
  cons ⟨proper, zero⟩ regular rest

end Fields.Regular

namespace Regular

variable {schema : Schema g.Carrier α}

/-- A schema without parts. -/
theorem leaf (here : schema.RegularHere g) (none : schema.parts = []) : Regular g schema :=
  .intro here (none ▸ nofun)

theorem list {wanted : String} (item : Regular g schema) : Regular g (.list wanted schema) :=
  .intro trivial (List.forall_mem_singleton.mpr item)

theorem record {name : String} {fields : Fields (Schema g.Carrier) σ τ} {make : τ → α}
    (distinct : fields.keys.Nodup) (each : fields.Regular g) :
    Regular g (Format.record name fields make) :=
  .intro ⟨distinct, each.1⟩ each.2

end Regular

end WireTree
