import Mathlib.Logic.Relation
import WireTree.Proofs.Provenance.Basic

/-!
# Nodes inside a value

A schema says which values of recursive types, of nodes for short, a value contains without going
through another node. Reading a value has read each of them, after opening the containers around it.
Main statement: `Grammar.exists_of_contains`.
-/

namespace WireTree

open Json (Outline)

variable {ι : Type} {K : ι → Type} {α σ τ : Type}

/-! ## What a value contains -/

mutual

/-- A value that is spelled by a schema contains a node, and no other node around that. -/
def Schema.Contains (x : (i : ι) × K i) : {α : Type} → Schema K α → α → Prop
  | _, .integer _, _ => False
  | _, .double, _ => False
  | _, .boolean, _ => False
  | _, .text _, _ => False
  | _, .choice _, _ => False
  | _, .optional inner, slot => ∃ a, slot = some a ∧ inner.Contains x a
  | _, .list _ item, as => ∃ a ∈ as, item.Contains x a
  | _, .table item, t => ∃ entry ∈ t.entries, item.Contains x entry.2
  | _, .shape inner, a => inner.Contains x a
  | _, .node i, a => x = ⟨i, a⟩
termination_by structural _ schema => schema

/-- A value of a shape contains a node. -/
def Shape.Contains (x : (i : ι) × K i) : {α : Type} → Shape (Schema K) α → α → Prop
  | _, .record _ fields make, a => ∃ values, make values = a ∧ fields.Contains x values
  | _, .tuple _ _ items make, a => ∃ values, make values = a ∧ items.Contains x values
  | _, .union _ arms, a => arms.Contains x a

/-- One of the values in a record contains a node. -/
def Fields.Contains (x : (i : ι) × K i) : {σ τ : Type} → Fields (Schema K) σ τ → τ → Prop
  | _, _, .nil, _ => False
  | _, _, .cons _ _ schema rest, (a, values) => schema.Contains x a ∨ rest.Contains x values

/-- One of the parts of a tuple contains a node. -/
def Items.Contains (x : (i : ι) × K i) : {τ : Type} → Items (Schema K) τ → τ → Prop
  | _, .nil, _ => False
  | _, .cons schema rest, (a, values) => schema.Contains x a ∨ rest.Contains x values

/-- The payload of an alternative contains a node. -/
def Arms.Contains (x : (i : ι) × K i) :
    {n : Nat} → {α : Type} → Arms (Schema K) n α → α → Prop
  | _, _, .nil, _ => False
  | _, _, .bare _ _ rest, a => rest.Contains x a
  | _, _, .payload _ schema make rest, a =>
    (∃ b, make b = a ∧ schema.Contains x b) ∨ rest.Contains x a

end

attribute [simp] Schema.Contains Shape.Contains Fields.Contains Items.Contains Arms.Contains

section Parts

variable {x : (i : ι) × K i} {key name : String} {a : α} {values : τ} {schema : Schema K α}
  {fields : Fields (Schema K) σ τ}

@[simp]
theorem contains_list {as : List α} :
    (Format.list schema).Contains x as ↔ ∃ b ∈ as, schema.Contains x b :=
  Iff.rfl

@[simp]
theorem contains_record {make : τ → α} :
    (Format.record name fields make).Contains x a ↔
      ∃ values, make values = a ∧ fields.Contains x values :=
  Iff.rfl

@[simp]
theorem contains_required :
    (Format.required key schema fields).Contains x (a, values) ↔
      schema.Contains x a ∨ fields.Contains x values :=
  Iff.rfl

@[simp]
theorem contains_optional {slot : Option α} :
    (Format.optional key schema fields).Contains x (slot, values) ↔
      (∃ b, slot = some b ∧ schema.Contains x b) ∨ fields.Contains x values :=
  Iff.rfl

@[simp]
theorem contains_defaulted {default : α} :
    (Format.defaulted key default schema fields).Contains x (a, values) ↔
      schema.Contains x a ∨ fields.Contains x values :=
  Iff.rfl

end Parts

mutual

/-- A schema does not mention nodes. -/
def Schema.nodeless : {α : Type} → Schema K α → Bool
  | _, .integer _ => true
  | _, .double => true
  | _, .boolean => true
  | _, .text _ => true
  | _, .choice _ => true
  | _, .optional inner => inner.nodeless
  | _, .list _ item => item.nodeless
  | _, .table item => item.nodeless
  | _, .shape inner => inner.nodeless
  | _, .node _ => false
termination_by structural _ schema => schema

/-- A shape does not mention nodes. -/
def Shape.nodeless : {α : Type} → Shape (Schema K) α → Bool
  | _, .record _ fields _ => fields.nodeless
  | _, .tuple _ _ items _ => items.nodeless
  | _, .union _ arms => arms.nodeless

/-- The fields of a record do not mention nodes. -/
def Fields.nodeless : {σ τ : Type} → Fields (Schema K) σ τ → Bool
  | _, _, .nil => true
  | _, _, .cons _ _ schema rest => schema.nodeless && rest.nodeless

/-- The parts of a tuple do not mention nodes. -/
def Items.nodeless : {τ : Type} → Items (Schema K) τ → Bool
  | _, .nil => true
  | _, .cons schema rest => schema.nodeless && rest.nodeless

/-- The payloads of a union do not mention nodes. -/
def Arms.nodeless : {n : Nat} → {α : Type} → Arms (Schema K) n α → Bool
  | _, _, .nil => true
  | _, _, .bare _ _ rest => rest.nodeless
  | _, _, .payload _ schema _ rest => schema.nodeless && rest.nodeless

end

mutual

theorem Schema.not_contains {x : (i : ι) × K i} {α : Type} (schema : Schema K α)
    (nodeless : schema.nodeless = true) (a : α) : ¬ schema.Contains x a := by
  intro contains
  match schema with
  | .optional inner =>
    obtain ⟨b, -, contains⟩ := contains
    exact inner.not_contains nodeless b contains
  | .list _ item =>
    obtain ⟨b, -, contains⟩ := contains
    exact item.not_contains nodeless b contains
  | .table item =>
    obtain ⟨entry, -, contains⟩ := contains
    exact item.not_contains nodeless entry.2 contains
  | .shape inner => exact inner.not_contains nodeless a contains
  | .node _ => cases nodeless
termination_by structural schema

theorem Shape.not_contains {x : (i : ι) × K i} {α : Type} (shape : Shape (Schema K) α)
    (nodeless : shape.nodeless = true) (a : α) : ¬ shape.Contains x a := by
  intro contains
  match shape with
  | .record _ fields _ =>
    obtain ⟨values, -, contains⟩ := contains
    exact fields.not_contains nodeless values contains
  | .tuple _ _ items _ =>
    obtain ⟨values, -, contains⟩ := contains
    exact items.not_contains nodeless values contains
  | .union _ arms => exact arms.not_contains nodeless a contains
termination_by structural shape

theorem Fields.not_contains {x : (i : ι) × K i} {σ τ : Type} (fields : Fields (Schema K) σ τ)
    (nodeless : fields.nodeless = true) (values : τ) : ¬ fields.Contains x values := by
  intro contains
  match fields, values with
  | .cons _ _ schema rest, (a, values) =>
    obtain ⟨first, others⟩ := Bool.and_eq_true_iff.mp nodeless
    rcases contains with contains | contains
    · exact schema.not_contains first a contains
    · exact rest.not_contains others values contains
termination_by structural fields

theorem Items.not_contains {x : (i : ι) × K i} {τ : Type} (items : Items (Schema K) τ)
    (nodeless : items.nodeless = true) (values : τ) : ¬ items.Contains x values := by
  intro contains
  match items, values with
  | .cons schema rest, (a, values) =>
    obtain ⟨first, others⟩ := Bool.and_eq_true_iff.mp nodeless
    rcases contains with contains | contains
    · exact schema.not_contains first a contains
    · exact rest.not_contains others values contains
termination_by structural items

theorem Arms.not_contains {x : (i : ι) × K i} {n : Nat} {α : Type} (arms : Arms (Schema K) n α)
    (nodeless : arms.nodeless = true) (a : α) : ¬ arms.Contains x a := by
  intro contains
  match arms with
  | .bare _ _ rest => exact rest.not_contains nodeless a contains
  | .payload _ schema _ rest =>
    obtain ⟨first, others⟩ := Bool.and_eq_true_iff.mp nodeless
    rcases contains with ⟨b, -, contains⟩ | contains
    · exact schema.not_contains first b contains
    · exact rest.not_contains others a contains
termination_by structural arms

end

/-! ## What reading leads to -/

mutual

/-- Reading by a schema leads to nodes only where they are allowed, by the containers that have been
opened on the way. What mentions nodes is built from lists, values that may be absent, and records
with distinct keys that keep their values; and what stands for an absent value contains no node. -/
def Schema.Leads (allowed : Nat → ι → Prop) (opened : Nat) : {α : Type} → Schema K α → Prop
  | _, .integer _ => True
  | _, .double => True
  | _, .boolean => True
  | _, .text _ => True
  | _, .choice _ => True
  | _, .optional inner => inner.Leads allowed opened
  | _, .list _ item => item.Leads allowed (opened + 1)
  | _, .table item => item.nodeless = true
  | _, .shape inner => inner.Leads allowed opened
  | _, .node i => allowed opened i
termination_by structural _ schema => schema

/-- Reading a shape leads to nodes only where they are allowed. -/
def Shape.Leads (allowed : Nat → ι → Prop) (opened : Nat) :
    {α : Type} → Shape (Schema K) α → Prop
  | _, .record _ fields make =>
    fields.nodeless = true ∨
      (fields.keys.Nodup ∧ Function.Injective make) ∧ fields.Leads allowed (opened + 1)
  | _, .tuple _ _ items _ => items.nodeless = true
  | _, .union _ arms => arms.nodeless = true

/-- Reading the fields of a record leads to nodes only where they are allowed. -/
def Fields.Leads (allowed : Nat → ι → Prop) (opened : Nat) :
    {σ τ : Type} → Fields (Schema K) σ τ → Prop
  | _, _, .nil => True
  | _, _, .cons _ presence schema rest =>
    (schema.Leads allowed opened ∧
      ∀ a, presence.absent? = some a → ∀ x, ¬ schema.Contains x a) ∧
      rest.Leads allowed opened

end

namespace Grammar

variable {g : Grammar ι} {depth opened : Nat} {feed : Feed} {o : Outline}
  {allowed : Nat → ι → Prop} {x : (i : ι) × g.Carrier i}

/-- A node was read where it is allowed, out of the containers that could be opened at first. -/
def ReadBelow (g : Grammar ι) (feed : Feed) (allowed : Nat → ι → Prop) (room : Nat)
    (x : (i : ι) × g.Carrier i) : Prop :=
  ∃ n inner part, allowed n x.1 ∧ room = inner + n ∧ g.read inner feed (.node x.1) part = .ok x.2

mutual

/-- Whatever node a value contains was read along with it. -/
theorem exists_of_contains {α : Type} (schema : Schema g.Carrier α) {depth opened : Nat}
    {o : Outline} {a : α} (leads : schema.Leads allowed opened)
    (read : g.read depth feed schema o = .ok a) (contains : schema.Contains x a) :
    g.ReadBelow feed allowed (depth + opened) x := by
  match schema with
  | .optional inner =>
    obtain ⟨b, rfl, contains⟩ := contains
    exact exists_of_contains inner leads (read_of_read_optional read) contains
  | .list wanted item =>
    obtain ⟨b, member, contains⟩ := contains
    obtain ⟨inner, items, part, rfl, rfl, -, read⟩ := exists_of_mem_list member read
    have below := exists_of_contains item leads read contains
    rwa [Nat.add_right_comm]
  | .table item => exact absurd contains (Schema.not_contains (.table item) leads a)
  | .shape (.record name fields make) =>
    obtain ⟨values, made, contains⟩ := contains
    rcases leads with nodeless | ⟨⟨distinct, injective⟩, leads⟩
    · exact absurd contains (fields.not_contains nodeless values)
    · obtain ⟨inner, values', rfl, made', taken⟩ := exists_of_read_record distinct read
      obtain rfl := injective (made.trans made'.symm)
      have below := exists_of_contains_fields fields leads taken contains
      rwa [Nat.add_right_comm]
  | .shape (.tuple _ _ items _) =>
    obtain ⟨values, -, contains⟩ := contains
    exact absurd contains (items.not_contains leads values)
  | .shape (.union _ arms) => exact absurd contains (arms.not_contains leads a)
  | .node i =>
    cases contains
    exact ⟨opened, depth, o, leads, rfl, read⟩
termination_by structural schema

theorem exists_of_contains_fields {σ τ : Type} (fields : Fields (Schema g.Carrier) σ τ)
    {depth opened : Nat} {keys : List String} {o : Outline} {values : τ}
    (leads : fields.Leads allowed opened) (taken : fields.Each (g.Taken depth feed keys o) values)
    (contains : fields.Contains x values) : g.ReadBelow feed allowed (depth + opened) x := by
  match fields, values with
  | .cons key presence schema rest, (a, values) =>
    obtain ⟨⟨leads, empty⟩, others⟩ := leads
    obtain ⟨first, takenOthers⟩ := taken
    rcases contains with contains | contains
    · rcases first with ⟨-, absent⟩ | ⟨part, -, read⟩
      · exact absurd contains (empty a absent x)
      · exact exists_of_contains schema leads read contains
    · exact exists_of_contains_fields rest others takenOthers contains
termination_by structural fields

end

end Grammar

end WireTree
