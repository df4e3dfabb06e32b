import WireTree.Json.Basic
import WireTree.Proofs.Relation
import WireTree.Proofs.Table
import WireTree.Schema.Reading

/-!
# JSON values that spell a value of a schema

A value is spelled by a JSON value if reading it gives the value back whenever the containers in it
may be opened, and finds the text malformed otherwise; nothing else may happen (`Grammar.Spells`).
Main statements: for each form of a schema, what spells its parts makes up what spells the whole
(`spells_list`, `spells_pairs`, `spells_record`, `spells_tuple`, `spells_bare` and `spells_tagged`).
-/

namespace WireTree

namespace Json

mutual

/-- The greatest number of containers inside each other. -/
def nesting : Json → Nat
  | array items => nestingItems items + 1
  | object members => nestingMembers members + 1
  | _ => 0

/-- The greatest number of containers inside each other in the items of an array. -/
def nestingItems : List Json → Nat
  | [] => 0
  | item :: items => max item.nesting (nestingItems items)

/-- The greatest number of containers inside each other in the members of an object. -/
def nestingMembers : List (String × Json) → Nat
  | [] => 0
  | (_, value) :: members => max value.nesting (nestingMembers members)

end

theorem outlineItems_eq_map (items : List Json) : outlineItems items = items.map outline := by
  induction items with
  | nil => rfl
  | cons item items ih => rw [outlineItems, ih, List.map_cons]

theorem outlineMembers_eq_map (members : List (String × Json)) :
    outlineMembers members = members.map fun member => (some member.1, member.2.outline) := by
  induction members with
  | nil => rfl
  | cons member members ih => rw [outlineMembers, ih, List.map_cons]

end Json

open Json (outlineItems outlineMembers nestingItems nestingMembers)

/-! ## Reading within a limit -/

section Limited

variable {α β : Type} {a : α} {b : β} {needed more depth : Nat}

/-- A value that needs so many containers inside each other, given how many may be opened. -/
def limited (needed depth : Nat) (a : α) : Reading α :=
  if needed ≤ depth then .ok a else malformed

theorem limited_succ_zero : limited (needed + 1) 0 a = malformed := rfl

theorem limited_succ_succ : limited (needed + 1) (depth + 1) a = limited needed depth a := by
  simp only [limited, Nat.add_le_add_iff_right]

theorem limited_map (make : α → β) :
    make <$> limited needed depth a = limited needed depth (make a) := by
  unfold limited
  split <;> rfl

/-- Two steps need as much as the one that needs more. -/
theorem limited_bind {following : α → Reading β} (second : following a = limited more depth b) :
    (limited needed depth a >>= following) = limited (max needed more) depth b := by
  unfold limited at *
  by_cases first : needed ≤ depth
  · rw [if_pos first]
    show following a = _
    rw [second]
    by_cases last : more ≤ depth
    · rw [if_pos last, if_pos (Nat.max_le.mpr ⟨first, last⟩)]
    · rw [if_neg last, if_neg fun both => last (Nat.max_le.mp both).2]
  · rw [if_neg first, if_neg fun both => first (Nat.max_le.mp both).1]
    rfl

/-- A last step that always succeeds needs nothing more. -/
theorem limited_then {following : α → Reading β} (last : following a = .ok b) :
    (limited needed depth a >>= following) = limited needed depth b := by
  have nothing : following a = limited 0 depth b := last
  rw [limited_bind nothing, Nat.max_zero]

end Limited

/-! ## Spelling -/

variable {ι : Type} {α β σ τ : Type}

namespace Grammar

variable (g : Grammar ι)

/-- Reading the JSON value gives `a` if there is room for its containers, and finds it malformed
if there is not. -/
def Spells (schema : Schema g.Carrier α) (json : Json) (a : α) : Prop :=
  ∀ depth, g.read depth .text schema json.outline = limited json.nesting depth a

/-- How the parts of a container are read if so many more containers may be opened. -/
def inside (depth : Nat) : Inside (Schema g.Carrier) :=
  ⟨depth, g.keyCheck, g.read depth⟩

end Grammar

variable {g : Grammar ι}

/-- Of a container, only what is inside has to be looked at. -/
theorem spells_container {schema : Schema g.Carrier α} {json : Json} {a : α} {inner : Nat}
    (nested : json.nesting = inner + 1)
    (shut : g.read 0 .text schema json.outline = malformed)
    (opened : ∀ depth, g.read (depth + 1) .text schema json.outline = limited inner depth a) :
    g.Spells schema json a := by
  intro depth
  rw [nested]
  cases depth with
  | zero => rw [shut, limited_succ_zero]
  | succ depth => rw [opened, limited_succ_succ]

theorem spells_node {i : ι} {json : Json} {a : g.Carrier i}
    (spells : g.Spells (.shape (g.shape i)) json a) : g.Spells (.node i) json a := by
  intro depth
  have read := spells depth
  cases depth <;> exact read

/-! ## Scalars -/

theorem spells_boolean (b : Bool) : g.Spells .boolean (.boolean b) b := by
  intro depth
  cases depth <;> rfl

theorem spells_text (make : String → α) (s : String) :
    g.Spells (.text make) (.text s) (make s) := by
  intro depth
  cases depth <;> rfl

theorem spells_choice {names : List (String × α)} {name : String} {a : α}
    (found : names.lookup name = some a) : g.Spells (.choice names) (.text name) a := by
  have resolved : Schema.resolveName names name = .ok a := by
    unfold Schema.resolveName
    rw [found]
  intro depth
  cases depth <;> exact resolved

theorem toInteger?_ofInt {n : Int} (least : Int64.minValue.toInt ≤ n)
    (greatest : n < UInt64.size) : (Json.Numeral.ofInt n).toInteger? = some n := by
  have lower : Int64.minValue.toInt = -9223372036854775808 := by decide
  have upper : UInt64.size = 18446744073709551616 := by decide
  rw [lower] at least
  rw [upper] at greatest
  unfold Json.Numeral.toInteger? Json.Numeral.ofInt
  simp only [Option.isSome_none, Bool.or_self, Bool.false_eq_true, if_false, decide_eq_true_eq]
  rw [lower, upper]
  by_cases negative : n < 0
  · rw [if_pos negative, if_pos (by omega)]
    congr 1
    omega
  · rw [if_neg negative, if_pos (by omega)]
    congr 1
    omega

/-- An integer that fits a rule and 64 bits. -/
theorem spells_integer {rule : IntegerRule α} {n : Int} {a : α}
    (least : Int64.minValue.toInt ≤ n) (greatest : n < UInt64.size)
    (accepted : rule.accept n = .ok a) : g.Spells (.integer rule) (.ofInt n) a := by
  have read : Schema.readInteger rule (.number (.ofInt n)) = .ok a := by
    simp only [Schema.readInteger, toInteger?_ofInt least greatest, accepted]
  intro depth
  cases depth <;> exact read

/-! ## Values that may be absent, and lists -/

/-- Only `null` is read as an absent value. -/
theorem read_optional {schema : Schema g.Carrier α} {json : Json} (present : json ≠ .null)
    (depth : Nat) :
    g.read depth .text (.optional schema) json.outline =
      some <$> g.read depth .text schema json.outline := by
  cases json with
  | null => exact absurd rfl present
  | _ => cases depth <;> rfl

theorem spells_optional {schema : Schema g.Carrier α} {write : α → Json} {value : Option α}
    (present : ∀ a, write a ≠ .null)
    (inner : ∀ a, value = some a → g.Spells schema (write a) a) :
    g.Spells (.optional schema) (.ofOption write value) value := by
  intro depth
  cases value with
  | none => cases depth <;> rfl
  | some a =>
    show g.read depth .text (.optional schema) (write a).outline = _
    rw [read_optional (present a), inner a rfl depth, limited_map]
    rfl

theorem read_items {schema : Schema g.Carrier α} {items : List Json} {values : List α}
    (each : List.Forall₂ (g.Spells schema) items values) (depth : Nat) :
    (outlineItems items).mapM (g.read depth .text schema) =
      limited (nestingItems items) depth values := by
  induction each with
  | nil => rfl
  | cons first _ ih =>
    rw [outlineItems, List.mapM_cons, first depth, ih, nestingItems]
    refine limited_bind ?_
    exact limited_then rfl

theorem spells_list {wanted : String} {schema : Schema g.Carrier α} {write : α → Json}
    {values : List α} (each : ∀ a ∈ values, g.Spells schema (write a) a) :
    g.Spells (.list wanted schema) (.ofList write values) values := by
  have spelled : List.Forall₂ (g.Spells schema) (values.map write) values :=
    forall₂_map_self each
  refine spells_container rfl rfl ?_
  intro depth
  show ((outlineItems (values.map write)).mapM (g.read depth .text schema) >>= .ok) = _
  rw [read_items spelled]
  exact limited_then rfl

/-! ## Tables -/

theorem read_entries {schema : Schema g.Carrier α} {write : α → Json}
    {entries : List (String × α)}
    (each : ∀ entry ∈ entries, g.Spells schema (write entry.2) entry.2) (depth : Nat)
    (table : Table α) :
    (g.inside depth).readEntries .text schema table
        (outlineMembers (entries.map fun entry => (entry.1, write entry.2))) =
      limited (nestingMembers (entries.map fun entry => (entry.1, write entry.2))) depth
        (entries.foldl (fun t entry => t.put entry.1 entry.2) table) := by
  induction entries generalizing table with
  | nil => rfl
  | cons head rest ih =>
    obtain ⟨key, value⟩ := head
    have first : g.read depth .text schema (write value).outline =
        limited (write value).nesting depth value := each _ List.mem_cons_self depth
    have tail := ih fun entry member => each entry (List.mem_cons_of_mem _ member)
    show (g.read depth .text schema (write value).outline >>= fun a =>
      (g.inside depth).readEntries .text schema (table.put key a)
        (outlineMembers (rest.map fun entry => (entry.1, write entry.2)))) = _
    rw [first]
    exact limited_bind (tail (table.put key value))

/-- Pairs spell their table, also if several of them have one key. -/
theorem spells_pairs {schema : Schema g.Carrier α} {write : α → Json} {pairs : List (String × α)}
    (each : ∀ pair ∈ pairs, g.Spells schema (write pair.2) pair.2) :
    g.Spells (.table schema) (.object (pairs.map fun pair => (pair.1, write pair.2)))
      (Table.ofList pairs) := by
  refine spells_container rfl rfl ?_
  intro depth
  show ((g.inside depth).readEntries .text schema .empty
    (outlineMembers (pairs.map fun pair => (pair.1, write pair.2))) >>= .ok) = _
  rw [read_entries each]
  exact limited_then rfl

/-! ## Records -/

/-- Members that spell the values of fields, in the order of the fields. -/
inductive FieldsSpell (g : Grammar ι) : {σ τ : Type} → Fields (Schema g.Carrier) σ τ →
    List (String × Json) → τ → Prop where
  | nil : FieldsSpell g .nil [] ()
  | cons {α σ τ : Type} {key : String} {presence : Presence α} {schema : Schema g.Carrier α}
      {rest : Fields (Schema g.Carrier) σ τ} {json : Json} {a : α}
      {members : List (String × Json)} {values : τ} (first : g.Spells schema json a)
      (more : FieldsSpell g rest members values) :
      FieldsSpell g (.cons key presence schema rest) ((key, json) :: members) (a, values)

theorem FieldsSpell.keys_eq {fields : Fields (Schema g.Carrier) σ τ}
    {members : List (String × Json)} {values : τ} (spell : FieldsSpell g fields members values) :
    members.map (·.1) = fields.keys := by
  induction spell with
  | nil => rfl
  | cons _ _ ih => rw [List.map_cons, ih, Fields.keys]

namespace Fields

variable {S : Type → Type 1}

/-- Everything found. -/
def filled {σ τ : Type} : Fields S σ τ → τ → σ
  | nil, _ => ()
  | cons _ _ _ rest, (a, values) => (some a, rest.filled values)

theorem complete_filled {σ τ : Type} (fields : Fields S σ τ) (values : τ) :
    fields.complete (fields.filled values) = .ok values := by
  induction fields with
  | nil => rfl
  | cons key presence schema rest ih =>
    obtain ⟨a, values⟩ := values
    rw [filled, complete, ih]
    rfl

/-- Members under other keys leave the first field as it is. -/
theorem readMembers_cons_of_ne (inside : Inside S) (feed : Feed) {key : String}
    {presence : Presence α} {schema : S α} {rest : Fields S σ τ} (slot : Option α) (slots : σ)
    {members : List Json.Outline.Member} (different : ∀ member ∈ members, member.1 ≠ some key) :
    (cons key presence schema rest).readMembers inside feed (slot, slots) members =
      (fun slots => (slot, slots)) <$> rest.readMembers inside feed slots members := by
  induction members generalizing slots with
  | nil => rfl
  | cons member members ih =>
    obtain ⟨name, value⟩ := member
    cases name with
    | none => rfl
    | some name =>
      have tail := fun slots => ih slots fun m member => different m (List.mem_cons_of_mem _ member)
      have missed : key ≠ name := fun same =>
        different _ List.mem_cons_self (congrArg some same.symm)
      rw [readMembers, readMembers, readMember, if_neg missed]
      cases rest.readMember inside feed name value slots with
      | error e => rfl
      | ok found =>
        cases found with
        | some slots' => exact tail slots'
        | none =>
          show (if value.intact then _ else _) = _ <$> (if value.intact then _ else _)
          cases value.intact with
          | true => exact tail slots
          | false => rfl

end Fields

/-- The first member fills the first field, if no other member has its key. -/
theorem readMembers_cons_of_spells {key : String} {presence : Presence α}
    {schema : Schema g.Carrier α} {rest : Fields (Schema g.Carrier) σ τ} {json : Json} {a : α}
    {members : List (String × Json)} {depth : Nat} {slots : σ} (first : g.Spells schema json a)
    (different : ∀ member ∈ outlineMembers members, member.1 ≠ some key)
    (others : rest.readMembers (g.inside depth) .text rest.blank (outlineMembers members) =
      limited (nestingMembers members) depth slots) :
    (Fields.cons key presence schema rest).readMembers (g.inside depth) .text (none, rest.blank)
        (outlineMembers ((key, json) :: members)) =
      limited (nestingMembers ((key, json) :: members)) depth (some a, slots) := by
  have found : (Fields.cons key presence schema rest).readMember (g.inside depth) .text key
      json.outline (none, rest.blank) =
        limited json.nesting depth (some (some a, rest.blank)) := by
    rw [Fields.readMember, if_pos rfl]
    show (g.read depth .text schema json.outline >>= fun a =>
      .ok (some (some a, rest.blank))) = _
    rw [first depth]
    exact limited_then rfl
  rw [outlineMembers, Fields.readMembers, found]
  refine limited_bind ?_
  show (Fields.cons key presence schema rest).readMembers (g.inside depth) .text
    (some a, rest.blank) (outlineMembers members) = _
  rw [Fields.readMembers_cons_of_ne _ _ _ _ different, others, limited_map]

theorem readMembers_of_spell {fields : Fields (Schema g.Carrier) σ τ}
    {members : List (String × Json)} {values : τ} (spell : FieldsSpell g fields members values)
    (distinct : fields.keys.Nodup) (depth : Nat) :
    fields.readMembers (g.inside depth) .text fields.blank (outlineMembers members) =
      limited (nestingMembers members) depth (fields.filled values) := by
  induction spell with
  | nil => rfl
  | @cons α σ τ key presence schema rest json a members values first more ih =>
    obtain ⟨fresh, distinct⟩ := List.nodup_cons.mp distinct
    have different : ∀ member ∈ outlineMembers members, member.1 ≠ some key := by
      rw [Json.outlineMembers_eq_map, List.forall_mem_map]
      intro member found same
      refine fresh ?_
      rw [← Option.some.inj same, ← more.keys_eq]
      exact List.mem_map_of_mem found
    exact readMembers_cons_of_spells first different (ih distinct)

/-- A record is spelled by the object of its members. -/
theorem spells_record {name : String} {fields : Fields (Schema g.Carrier) σ τ} {make : τ → α}
    {members : List (String × Json)} (values : τ) (distinct : decide fields.keys.Nodup = true)
    (spell : FieldsSpell g fields members values) :
    g.Spells (.shape (.record name fields make)) (.object members) (make values) := by
  refine spells_container rfl rfl ?_
  intro depth
  have read : fields.readObject (g.inside depth) .text (outlineMembers members) true =
      limited (nestingMembers members) depth values := by
    rw [Fields.readObject, readMembers_of_spell spell (of_decide_eq_true distinct)]
    exact limited_then (fields.complete_filled values)
  show make <$> fields.readObject (g.inside depth) .text (outlineMembers members) true = _
  rw [read, limited_map]

/-! ## Tuples -/

/-- Items that spell the parts of a tuple. -/
inductive ItemsSpell (g : Grammar ι) : {τ : Type} → Items (Schema g.Carrier) τ → List Json →
    τ → Prop where
  | nil : ItemsSpell g .nil [] ()
  | cons {α τ : Type} {schema : Schema g.Carrier α} {rest : Items (Schema g.Carrier) τ}
      {json : Json} {a : α} {jsons : List Json} {values : τ} (first : g.Spells schema json a)
      (more : ItemsSpell g rest jsons values) :
      ItemsSpell g (.cons schema rest) (json :: jsons) (a, values)

theorem readElements_of_spell {items : Items (Schema g.Carrier) τ} {jsons : List Json}
    {values : τ} (spell : ItemsSpell g items jsons values) (counted : String) (depth index : Nat) :
    items.readElements (g.inside depth) .text counted true index (outlineItems jsons) =
      limited (nestingItems jsons) depth (values, []) := by
  induction spell generalizing index with
  | nil => rfl
  | @cons α τ schema rest json a jsons values first more ih =>
    -- all items are there, so none is left over for `finishArray`
    show (g.read depth .text schema json.outline >>= fun value =>
      rest.readElements (g.inside depth) .text counted true (index + 1) (outlineItems jsons) >>=
        fun found => .ok ((value, found.1), found.2)) = _
    rw [first depth]
    refine limited_bind ?_
    rw [ih]
    exact limited_then rfl

/-- A tuple is spelled by the array of its parts. -/
theorem spells_tuple {wanted counted : String} {items : Items (Schema g.Carrier) τ}
    {make : τ → α} {jsons : List Json} (values : τ) (spell : ItemsSpell g items jsons values) :
    g.Spells (.shape (.tuple wanted counted items make)) (.array jsons) (make values) := by
  refine spells_container rfl rfl ?_
  intro depth
  show (items.readElements (g.inside depth) .text counted true 0 (outlineItems jsons) >>=
    fun found => finishArray .text items.size found.2 true (make found.1)) = _
  rw [readElements_of_spell spell]
  exact limited_then rfl

/-! ## Unions -/

/-- What a union offers under a tag. -/
inductive Offer (S : Type → Type 1) (α : Type) : Type 1 where
  | bare (value : α)
  | payload {β : Type} (schema : S β) (make : β → α)

namespace Arms

variable {S : Type → Type 1} {n : Nat}

/-- What the alternatives offer under a tag. -/
def offer? : {n : Nat} → Arms S n α → String → Option (Offer S α)
  | _, nil, _ => none
  | _, bare tag value rest, name =>
    if name == tag then some (.bare value) else rest.offer? name
  | _, payload tag schema make rest, name =>
    if name == tag then some (.payload schema make) else rest.offer? name

/-- How an offer is read. -/
def alternative (inside : Inside S) (union tag : String) : Offer S α → Alternative α
  | .bare value => .bare inside union tag value
  | .payload schema make => .payload inside schema make

theorem lookup_alternatives (inside : Inside S) (union : String) {tag : String}
    (arms : Arms S n α) {offer : Offer S α} (offered : arms.offer? tag = some offer) :
    (arms.alternatives inside union).lookup tag = some (alternative inside union tag offer) := by
  induction arms with
  | nil => cases offered
  | bare name value rest ih | payload name schema make rest ih =>
    rw [alternatives, List.lookup_cons]
    rw [offer?] at offered
    cases same : tag == name with
    | true =>
      rw [if_pos same] at offered
      cases offered
      rw [beq_iff_eq.mp same]
      rfl
    | false =>
      rw [if_neg (ne_true_of_eq_false same)] at offered
      exact ih offered

end Arms

section Union

variable {n : Nat} {name tag : String} {arms : Arms (Schema g.Carrier) n α}

theorem readChoice_of_offer {offer : Offer (Schema g.Carrier) α}
    (offered : arms.offer? tag = some offer) (room : Option KeyCheck)
    (inside : Inside (Schema g.Carrier)) :
    Schema.readChoice room .text (arms.alternatives inside name) (.text (some tag)) =
      .ok (Arms.alternative inside name tag offer) := by
  have found := arms.lookup_alternatives inside name offered
  rw [Schema.readChoice, Schema.resolveName, found]

/-- An alternative without payload is spelled by its tag alone. -/
theorem spells_bare {value : α} (offered : arms.offer? tag = some (.bare value)) :
    g.Spells (.shape (.union name arms)) (.object [("type", .text tag)]) value := by
  refine spells_container (Nat.zero_add 1).symm rfl ?_
  intro depth
  show (Schema.readChoice _ .text (arms.alternatives (g.inside depth) name) (.text (some tag)) >>=
    fun chosen => chosen.absent) = _
  rw [readChoice_of_offer offered]
  rfl

/-- An alternative with a payload is spelled by its tag and what spells the payload. -/
theorem spells_tagged {schema : Schema g.Carrier β} {make : β → α} {json : Json} {a : α} {b : β}
    (offered : arms.offer? tag = some (.payload schema make)) (inner : g.Spells schema json b)
    (made : make b = a) :
    g.Spells (.shape (.union name arms)) (.object [("type", .text tag), ("value", json)]) a := by
  have nested : Json.nesting (.object [("type", .text tag), ("value", json)]) =
      json.nesting + 1 := by
    simp [Json.nesting, nestingMembers]
  refine spells_container nested rfl ?_
  intro depth
  show (Schema.readChoice _ .text (arms.alternatives (g.inside depth) name) (.text (some tag)) >>=
    fun chosen => chosen.present .text json.outline >>= fun a => .ok a) = _
  rw [readChoice_of_offer offered]
  show (make <$> g.read depth .text schema json.outline >>= fun a => .ok a) = _
  rw [inner depth, limited_map, made]
  exact limited_then rfl

end Union

end WireTree
