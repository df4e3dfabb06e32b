import WireTree.Schema.Reading

/-!
# Places inside a value

A place is a value with a gap, and belongs to a schema: whatever is put into the gap is read by the
schema of the place when the whole is read by its own schema, unless reading stops before. Members
under unknown keys are no places, for nothing is read there, and neither are payloads of unions,
which may be held back first. Of two fields under one key the first one takes the member, so a key
belongs to one schema at most (`Fields.Under.lookup`).
-/

namespace WireTree

open Json (Outline)

variable {S : Type → Type 1} {ι β σ τ : Type}

/-- A field of a record, and the first one under its key. -/
inductive Fields.Under {α : Type} (key : String) (presence : Presence α) (schema : S α) :
    {σ τ : Type} → Fields S σ τ → Prop where
  | head {σ τ : Type} {rest : Fields S σ τ} :
      Under key presence schema (.cons key presence schema rest)
  | tail {β σ τ : Type} {other : String} {first : Presence β} {part : S β}
      {rest : Fields S σ τ} (different : other ≠ key) (under : Under key presence schema rest) :
      Under key presence schema (.cons other first part rest)

/-- A field of a record by its number. -/
inductive Fields.Nth {α : Type} (schema : S α) : {σ τ : Type} → Nat → Fields S σ τ → Prop where
  | head {σ τ : Type} {key : String} {presence : Presence α} {rest : Fields S σ τ} :
      Nth schema 0 (.cons key presence schema rest)
  | tail {β σ τ : Type} {index : Nat} {key : String} {presence : Presence β} {part : S β}
      {rest : Fields S σ τ} (nth : Nth schema index rest) :
      Nth schema (index + 1) (.cons key presence part rest)

/-- A part of a tuple by its number. -/
inductive Items.Nth {α : Type} (schema : S α) : {τ : Type} → Nat → Items S τ → Prop where
  | head {τ : Type} {rest : Items S τ} : Nth schema 0 (.cons schema rest)
  | tail {β τ : Type} {index : Nat} {part : S β} {rest : Items S τ} (nth : Nth schema index rest) :
      Nth schema (index + 1) (.cons part rest)

/-! ## Which schema a field has -/

/-- The schemas of fields, in order. -/
def Fields.schemas {σ τ : Type} : Fields S σ τ → List ((α : Type) × S α)
  | nil => []
  | cons _ _ schema rest => ⟨_, schema⟩ :: rest.schemas

/-- The schemas of the parts of a tuple, in order. -/
def Items.schemas {τ : Type} : Items S τ → List ((α : Type) × S α)
  | nil => []
  | cons schema rest => ⟨_, schema⟩ :: rest.schemas

theorem Fields.Under.lookup {key : String} {presence : Presence β} {schema : S β}
    {fields : Fields S σ τ} (under : fields.Under key presence schema) :
    (fields.keys.zip fields.schemas).lookup key = some ⟨β, schema⟩ := by
  induction under with
  | head => exact List.lookup_cons_self
  | tail different _ ih =>
    rw [keys, schemas, List.zip_cons_cons, List.lookup_cons,
      beq_false_of_ne (Ne.symm different), ih]

theorem Fields.Nth.getElem? {index : Nat} {schema : S β} {fields : Fields S σ τ}
    (nth : fields.Nth schema index) : fields.schemas[index]? = some ⟨β, schema⟩ := by
  induction nth with
  | head => rfl
  | tail _ ih => exact ih

theorem Items.Nth.getElem? {index : Nat} {schema : S β} {components : Items S τ}
    (nth : components.Nth schema index) : components.schemas[index]? = some ⟨β, schema⟩ := by
  induction nth with
  | head => rfl
  | tail _ ih => exact ih

/-- A field under a key has a number. -/
theorem Fields.Under.nth {key : String} {presence : Presence β} {schema : S β}
    {fields : Fields S σ τ} (under : fields.Under key presence schema) :
    ∃ index, fields.Nth schema index ∧ fields.keys[index]? = some key := by
  induction under with
  | head => exact ⟨0, .head, rfl⟩
  | tail _ _ ih =>
    obtain ⟨index, nth, found⟩ := ih
    exact ⟨index + 1, .tail nth, found⟩

/-- If no two fields have one key, a field is the first under its own. -/
theorem Fields.Nth.under {index : Nat} {schema : S β} {fields : Fields S σ τ}
    (nth : fields.Nth schema index) (distinct : fields.keys.Nodup) :
    ∃ key presence, fields.Under key presence schema ∧ fields.keys[index]? = some key := by
  induction nth with
  | @head _ _ key presence _ => exact ⟨key, presence, .head, rfl⟩
  | @tail _ _ _ _ other _ _ _ _ ih =>
    obtain ⟨fresh, distinct⟩ := List.nodup_cons.mp distinct
    obtain ⟨key, presence, under, found⟩ := ih distinct
    refine ⟨key, presence, .tail ?_ under, found⟩
    rintro rfl
    exact fresh (List.mem_of_getElem? found)

theorem Fields.mem_keys_of_under {key : String} {presence : Presence β} {schema : S β}
    {fields : Fields S σ τ} (under : fields.Under key presence schema) : key ∈ fields.keys := by
  obtain ⟨index, -, found⟩ := under.nth
  exact List.mem_of_getElem? found

/-! ## Places -/

/-- The places directly inside a value of a schema, each with its own schema. -/
inductive Layer (g : Grammar ι) :
    {α β : Type} → Schema g.Carrier α → Schema g.Carrier β → (Outline → Outline) → Prop where
  | node (i : ι) : Layer g (.node i) (.shape (g.shape i)) id
  | optional {α : Type} {schema : Schema g.Carrier α} : Layer g (.optional schema) schema id
  | item {α : Type} {wanted : String} {schema : Schema g.Carrier α} (before after : List Outline)
      (closed : Bool) :
      Layer g (.list wanted schema) schema fun o => .array (before ++ o :: after) closed
  | entry {α : Type} {schema : Schema g.Carrier α} (before : List Outline.Member) (key : String)
      (after : List Outline.Member) (closed : Bool) :
      Layer g (.table schema) schema fun o => .object (before ++ (some key, o) :: after) closed
  | member {α β σ τ : Type} {name key : String} {fields : Fields (Schema g.Carrier) σ τ}
      {make : τ → α} {presence : Presence β} {schema : Schema g.Carrier β}
      (under : fields.Under key presence schema) (before after : List Outline.Member)
      (closed : Bool) :
      Layer g (.shape (.record name fields make)) schema fun o =>
        .object (before ++ (some key, o) :: after) closed
  | element {α β σ τ : Type} {name : String} {fields : Fields (Schema g.Carrier) σ τ}
      {make : τ → α} {schema : Schema g.Carrier β} (before after : List Outline) (closed : Bool)
      (nth : fields.Nth schema before.length) :
      Layer g (.shape (.record name fields make)) schema fun o =>
        .array (before ++ o :: after) closed
  | component {α β τ : Type} {wanted counted : String} {components : Items (Schema g.Carrier) τ}
      {make : τ → α} {schema : Schema g.Carrier β} (before after : List Outline) (closed : Bool)
      (nth : components.Nth schema before.length) :
      Layer g (.shape (.tuple wanted counted components make)) schema fun o =>
        .array (before ++ o :: after) closed

/-- The places at any depth inside a value of a schema, the value itself among them. -/
inductive Place (g : Grammar ι) :
    {α β : Type} → Schema g.Carrier α → Schema g.Carrier β → (Outline → Outline) → Prop where
  | here {α : Type} {schema : Schema g.Carrier α} : Place g schema schema id
  | inside {α β γ : Type} {schema : Schema g.Carrier α} {middle : Schema g.Carrier β}
      {inner : Schema g.Carrier γ} {outer gap : Outline → Outline}
      (layer : Layer g schema middle outer) (place : Place g middle inner gap) :
      Place g schema inner fun o => outer (gap o)

end WireTree
