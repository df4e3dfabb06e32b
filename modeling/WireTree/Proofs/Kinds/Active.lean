import WireTree.Format.Wire
import WireTree.Proofs.Faults
import WireTree.Proofs.Kinds.Verbatim
import WireTree.Proofs.Provenance.Basic
import WireTree.Proofs.Records.Regular

/-!
# The unions that count for decoding

Decoding looks at all fields of a record that is no union, and of a union only at the kind and at
the field that the kind selects; so a union counts if on the way to it each union has selected the
field that the way goes through. A fault is accounted for by a document if a union that counts gives
its kind.
Main statement: a fault that is accounted for inside a field that counts is accounted for by the
record (`Accounted.field`).
-/

namespace WireTree

open Json (Outline)

variable {ι α β σ τ : Type}

/-! ## Unions -/

/-- A record that is a union: its name, the name that faults give to the union, the kinds that the
schema knows, and the field that each kind selects. -/
structure UnionRecord where
  record : String
  union : String
  kinds : List String
  selects : String → Option String

/-- The union with kinds `κ`. -/
def UnionRecord.of (κ : Type) {S : Type} [SlotTag κ S] (record : String) : UnionRecord where
  record := record
  union := UnionTag.union κ
  kinds := (Named.all (α := κ)).map Named.name
  selects text := (Discriminator.ofText text : Discriminator κ).slot?.map (SlotTag.field κ)

namespace Wire

/-- The unions of the wire. -/
def unionRecords : List UnionRecord :=
  [.of CharacteristicsTag "CharacteristicsKindComposition",
    .of TypeTag "TypeKindComposition",
    .of ExpressionTag "ExpressionKindComposition",
    .of IdentifierTag "Identifier",
    .of LocalSymbolTag "LocalSymbol",
    .of NamespaceElementTag "NamespaceElement"]

theorem eq_of_record_eq {u v : UnionRecord} (member : u ∈ unionRecords) (member' : v ∈ unionRecords)
    (same : u.record = v.record) : u = v := by
  have distinct : (unionRecords.map UnionRecord.record).Nodup := by decide
  exact List.inj_on_of_nodup_map distinct member member' same

end Wire

/-- The fields of a record: their keys with the schemas of their values. -/
def Fields.entries {S : Type → Type 1} {σ τ : Type} :
    Fields S σ τ → List (String × (α : Type) × S α)
  | nil => []
  | cons key _ schema rest => (key, ⟨_, schema⟩) :: rest.entries

section Entries

variable {K : ι → Type} {key : String} {schema : Schema K α} {rest : Fields (Schema K) σ τ} {a : α}

@[simp] theorem Fields.entries_nil : (nil : Fields (Schema K) Unit Unit).entries = [] := rfl

@[simp] theorem Format.entries_required :
    (required key schema rest).entries = (key, ⟨α, schema⟩) :: rest.entries := rfl

@[simp] theorem Format.entries_optional :
    (optional key schema rest).entries = (key, ⟨Option α, .optional schema⟩) :: rest.entries := rfl

@[simp] theorem Format.entries_defaulted :
    (defaulted key a schema rest).entries = (key, ⟨α, schema⟩) :: rest.entries := rfl

end Entries

namespace Wire.Format

open WireTree.Format

/-! ## Unions that count -/

/-- In a document that is read as a form, a union that counts for decoding has this text for its
kind. -/
inductive Active (u : UnionRecord) (kind : String) : {α : Type} → Form α → Outline → Prop where
  | here {σ τ α : Type} {fields : Fields (Schema Node.Carrier) σ τ} {make : τ → α} {o : Outline}
      (union : u ∈ unionRecords) (given : Gives fields.keys "kind" o (.text (some kind))) :
      Active u kind (record u.record fields make) o
  | field {σ τ α β : Type} {name : String} {fields : Fields (Schema Node.Carrier) σ τ}
      {make : τ → α} {o : Outline} {key : String} {form : Form β} {part : Outline}
      (entry : (key, ⟨β, form⟩) ∈ fields.entries) (given : Gives fields.keys key o part)
      -- of a union only the field counts that its kind selects
      (selected : ∀ v ∈ unionRecords, v.record = name →
        ∃ text, Gives fields.keys "kind" o (.text (some text)) ∧ v.selects text = some key)
      (inner : Active u kind form part) : Active u kind (record name fields make) o
  | optional {α : Type} {form : Form α} {o : Outline} (inner : Active u kind form o) :
      Active u kind (.optional form) o
  | item {α : Type} {wanted : String} {form : Form α} {items : List Outline} {closed : Bool}
      {part : Outline} (member : part ∈ items) (inner : Active u kind form part) :
      Active u kind (.list wanted form) (.array items closed)
  | node {node : Node} {o : Outline} (inner : Active u kind (.shape (shape node)) o) :
      Active u kind (.node node) o

/-- A document accounts for a fault: a union that counts, with the name that the fault mentions,
gives the kind that the fault mentions. The kind of an inconsistent union is known and selects the
field; that of an unsupported union is not known, or is one of the two that trees have no place
for. -/
def Accounted {α : Type} (form : Form α) (o : Outline) : Fault → Prop
  | .inconsistent union field kind =>
    ∃ u, u.union = union ∧ Active u kind form o ∧ kind ∈ u.kinds ∧ u.selects kind = some field
  | .unsupported union kind =>
    ∃ u, u.union = union ∧ Active u kind form o ∧
      (kind ∉ u.kinds ∨ kind = "SizedArray" ∨ kind = "Lambda")
  | .malformed _ _ => True

variable {form : Form α} {form' : Form β} {o part : Outline} {fault : Fault}

/-- What accounts for a fault accounts for it wherever its unions count. -/
theorem Accounted.imp (accounted : Accounted form part fault)
    (counts : ∀ u kind, Active u kind form part → Active u kind form' o) :
    Accounted form' o fault := by
  cases fault with
  | inconsistent union field kind =>
    obtain ⟨u, named, active, known, selects⟩ := accounted
    exact ⟨u, named, counts u kind active, known, selects⟩
  | unsupported union kind =>
    obtain ⟨u, named, active, unknown⟩ := accounted
    exact ⟨u, named, counts u kind active, unknown⟩
  | malformed scalar reason => trivial

/-- A kind accounts for the fault that the union itself has. -/
theorem accounted_of_fault? {κ S : Type} [SlotTag κ S] [Distinct κ] {name text : String}
    {holds : S → Bool}
    (unsupported : ∀ kind : κ, SlotTag.demand kind = .unsupported →
      Named.name kind = "SizedArray" ∨ Named.name kind = "Lambda")
    (active : Active (.of κ name) text form o)
    (own : (Discriminator.ofText text : Discriminator κ).fault? holds = some fault) :
    Accounted form o fault := by
  cases kind : (Discriminator.ofText text : Discriminator κ) with
  | unrecognized other =>
    obtain ⟨rfl, unknown⟩ := Discriminator.ofText_eq_unrecognized_iff.mp kind
    rw [kind] at own
    cases own
    refine ⟨.of κ name, rfl, active, .inl ?_⟩
    rw [UnionRecord.of, List.mem_map]
    rintro ⟨tag, -, named⟩
    exact unknown tag named
  | known tag =>
    have named := Discriminator.ofText_eq_known_iff.mp kind
    rw [kind] at own
    unfold Discriminator.fault? at own
    cases demanded : SlotTag.demand tag with
    | nothing => simp [demanded] at own
    | unsupported =>
      simp only [demanded, Option.some.injEq] at own
      subst own
      rw [← named] at active
      exact ⟨.of κ name, rfl, active, .inr (unsupported tag demanded)⟩
    | slot s =>
      simp only [demanded] at own
      split at own
      · cases own
      · cases own
        rw [← named] at active kind
        refine ⟨.of κ name, rfl, active, List.mem_map_of_mem (Distinct.complete tag), ?_⟩
        simp [UnionRecord.of, kind, Discriminator.slot?, demanded]

/-! ## Records -/

/-- Up to a depth, the faults of what is read by a form are accounted for by the document. -/
def Traced (limit : Nat) {α : Type} (form : Form α) (faults : α → List Fault) : Prop :=
  ∀ depth < limit, ∀ o a, grammar.read depth .text form o = .ok a →
    ∀ fault ∈ faults a, Accounted form o fault

variable {limit : Nat} {faults : α → List Fault}

theorem Traced.mono (traced : Traced (limit + 1) form faults) : Traced limit form faults :=
  fun depth small => traced depth (Nat.lt_succ_of_lt small)

/-- The faults of an item of a list. -/
theorem Traced.list (traced : Traced limit form faults) :
    Traced limit (list form) (List.flatMap faults) := by
  intro depth small o as read fault member
  obtain ⟨a, listed, member⟩ := List.mem_flatMap.mp member
  obtain ⟨inner, items, part, rfl, rfl, inside, read⟩ := Grammar.exists_of_mem_list listed read
  have accounted := traced inner (by omega) part a read fault member
  exact accounted.imp fun _ _ => .item inside

/-- A fault is accounted for by what a document gives for a field. -/
def FieldAccounted {σ τ : Type} (fields : Fields (Schema Node.Carrier) σ τ) (o : Outline)
    (fault : Fault) (key : String) : Prop :=
  ∃ β, ∃ form : Form β, ∃ part,
    (key, ⟨β, form⟩) ∈ fields.entries ∧ Gives fields.keys key o part ∧ Accounted form part fault

section Fields

variable {fields : Fields (Schema Node.Carrier) σ τ} {key : String} {inner : Nat} {a : α}

theorem FieldAccounted.required (traced : Traced limit form faults) (small : inner < limit)
    (taken : grammar.Taken inner .text fields.keys o key .required form a)
    (member : fault ∈ faults a) (entry : (key, ⟨α, form⟩) ∈ fields.entries) :
    FieldAccounted fields o fault key := by
  obtain ⟨part, gives, read⟩ := taken.required
  exact ⟨α, form, part, entry, gives, traced inner small part a read fault member⟩

theorem FieldAccounted.optional {slot : Option α} (traced : Traced limit form faults)
    (small : inner < limit)
    (taken : grammar.Taken inner .text fields.keys o key (.absentAs none) (.optional form) slot)
    (held : slot = some a) (member : fault ∈ faults a)
    (entry : (key, ⟨Option α, .optional form⟩) ∈ fields.entries) :
    FieldAccounted fields o fault key := by
  obtain ⟨part, gives, read⟩ := taken.optional a held
  have accounted := traced inner small part a read fault member
  exact ⟨Option α, .optional form, part, entry, gives, accounted.imp fun _ _ => .optional⟩

theorem FieldAccounted.defaulted {value : α} (traced : Traced limit form faults)
    (small : inner < limit)
    (taken : grammar.Taken inner .text fields.keys o key (.defaultsTo value) form a)
    (none : faults value = []) (member : fault ∈ faults a)
    (entry : (key, ⟨α, form⟩) ∈ fields.entries) : FieldAccounted fields o fault key := by
  rcases taken with ⟨-, absent⟩ | ⟨part, gives, read⟩
  · cases absent
    rw [none] at member
    cases member
  · exact ⟨α, form, part, entry, gives, traced inner small part a read fault member⟩

variable {name : String} {make : τ → α}

/-- The faults of a record that is no union are those in its fields. -/
theorem Traced.record (distinct : fields.keys.Nodup)
    (plain : ∀ v ∈ unionRecords, v.record ≠ name)
    (each : ∀ inner < limit, ∀ o values,
      fields.Each (grammar.Taken inner .text fields.keys o) values →
      ∀ fault ∈ faults (make values), ∃ key, FieldAccounted fields o fault key) :
    Traced (limit + 1) (WireTree.Format.record name fields make) faults := by
  intro depth small o a read fault member
  obtain ⟨inner, values, rfl, rfl, taken⟩ := Grammar.exists_of_read_record distinct read
  obtain ⟨key, β, form, part, entry, gives, accounted⟩ :=
    each inner (Nat.lt_of_succ_lt_succ small) o values taken fault member
  refine accounted.imp fun u kind => .field entry gives ?_
  intro v union same
  exact absurd same (plain v union)

/-- The faults of a union: its own one, and those in the field that the kind selects. -/
theorem Traced.union {κ S : Type} [SlotTag κ S] [Distinct κ] {name : String}
    {fields : Fields (Schema Node.Carrier) σ τ} {make : Discriminator κ × τ → α}
    (distinct : (required "kind" (discriminator κ) fields).keys.Nodup)
    (union : .of κ name ∈ unionRecords)
    (unsupported : ∀ kind : κ, SlotTag.demand kind = .unsupported →
      Named.name kind = "SizedArray" ∨ Named.name kind = "Lambda")
    (each : ∀ inner < limit, ∀ o kind values,
      fields.Each (grammar.Taken inner .text (required "kind" (discriminator κ) fields).keys o)
        values →
      ∀ fault ∈ faults (make (kind, values)),
        (∃ scalar reason, fault = .malformed scalar reason) ∨
          (∃ holds : S → Bool, kind.fault? holds = some fault) ∨
          ∃ s, kind.slot? = some s ∧
            FieldAccounted (required "kind" (discriminator κ) fields) o fault
              (SlotTag.field κ s)) :
    Traced (limit + 1)
      (WireTree.Format.record name (required "kind" (discriminator κ) fields) make) faults := by
  intro depth small o a read fault member
  obtain ⟨inner, ⟨kind, values⟩, rfl, rfl, takenKind, taken⟩ :=
    Grammar.exists_of_read_record distinct read
  obtain ⟨part, gives, readKind⟩ := takenKind.required
  obtain ⟨text, rfl, rfl⟩ := exists_of_read_discriminator readKind
  have found := each inner (Nat.lt_of_succ_lt_succ small) o _ values taken fault member
  rcases found with ⟨scalar, reason, rfl⟩ | ⟨holds, own⟩ | ⟨s, selects, β, form, part, entry, given,
    accounted⟩
  · trivial
  · exact accounted_of_fault? unsupported (.here union gives) own
  · refine accounted.imp fun u kind => .field entry given ?_
    intro v member same
    have same := eq_of_record_eq (v := .of κ name) member union same
    subst same
    exact ⟨text, gives, by simp [UnionRecord.of, selects]⟩

end Fields

end Wire.Format

end WireTree
