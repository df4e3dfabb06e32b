import WireTree.Format.Wire
import WireTree.Proofs.Decodes
import WireTree.Proofs.Integers.Text
import WireTree.Proofs.Provenance.Basic
import WireTree.Proofs.Records.Regular

/-!
# Integers from a document to the tree

A coordinate of a place in a tree, and the value of an integer literal, is the integer that the
literal in its field is written as, wherever in a document the record with the field is read.
Main statement: `Wire.Format.integers_exact`.
-/

namespace WireTree

open Json (Outline Numeral)

variable {ι α : Type} {g : Grammar ι} {depth : Nat} {feed : Feed} {o : Outline}

/-! ## Places -/

/-- A text spells a position: its literals for the line and the column are written as those of the
position. -/
def Position.SpelledBy (p : Position) (o : Outline) : Prop :=
  ∃ line column,
    Gives ["line", "column"] "line" o (.number line) ∧ line.Denotes p.line.toNat ∧
      Gives ["line", "column"] "column" o (.number column) ∧ column.Denotes p.column.toNat

/-- A text spells a range. -/
def Range.SpelledBy (r : Range) (o : Outline) : Prop :=
  ∃ start finish,
    Gives ["start", "end"] "start" o start ∧ r.start.SpelledBy start ∧
      Gives ["start", "end"] "end" o finish ∧ r.finish.SpelledBy finish

/-- A text spells a location. -/
def Location.SpelledBy (l : Location) (o : Outline) : Prop :=
  ∃ offset range,
    Gives ["offset", "range"] "offset" o offset ∧ l.offset.SpelledBy offset ∧
      Gives ["offset", "range"] "range" o range ∧ l.range.SpelledBy range

/-- What is in a slot is spelled by what the text gives for its field. -/
def SlotSpelledBy (keys : List String) (key : String) (spelled : α → Outline → Prop)
    (slot : Option α) (o : Outline) : Prop :=
  ∀ a, slot = some a → ∃ part, Gives keys key o part ∧ spelled a part

theorem Grammar.Taken.slotSpelledBy {keys : List String} {key : String}
    {schema : Schema g.Carrier α} {spelled : α → Outline → Prop} {slot : Option α}
    (taken : g.Taken depth feed keys o key (.absentAs none) (.optional schema) slot)
    (each : ∀ a part, g.read depth feed schema part = .ok a → spelled a part) :
    SlotSpelledBy keys key spelled slot o := by
  intro a held
  obtain ⟨part, gives, read⟩ := taken.optional a held
  exact ⟨part, gives, each a part read⟩

namespace Format

/-- A literal was read for a coordinate. -/
theorem exists_of_read_word {w : UInt32} (read : g.read depth feed word o = .ok w) :
    ∃ n, o = .number n ∧ n.Denotes w.toNat := by
  have fields := takesIntegers_word g depth feed
  obtain ⟨n, rfl⟩ := fields.literal read
  exact ⟨n, rfl, fields.kept read⟩

theorem position_spelledBy {p : Position} (read : g.read depth feed position o = .ok p) :
    p.SpelledBy o := by
  obtain ⟨inner, ⟨line, column, -⟩, rfl, rfl, takenLine, takenColumn, -⟩ :=
    Grammar.exists_of_read_record (by simp) read
  obtain ⟨part, givesLine, readLine⟩ := takenLine.required
  obtain ⟨part', givesColumn, readColumn⟩ := takenColumn.required
  obtain ⟨n, rfl, denotes⟩ := exists_of_read_word readLine
  obtain ⟨n', rfl, denotes'⟩ := exists_of_read_word readColumn
  exact ⟨n, n', givesLine, denotes, givesColumn, denotes'⟩

theorem range_spelledBy {r : Range} (read : g.read depth feed range o = .ok r) :
    r.SpelledBy o := by
  obtain ⟨inner, ⟨start, finish, -⟩, rfl, rfl, takenStart, takenFinish, -⟩ :=
    Grammar.exists_of_read_record (by simp) read
  obtain ⟨part, givesStart, readStart⟩ := takenStart.required
  obtain ⟨part', givesFinish, readFinish⟩ := takenFinish.required
  exact ⟨part, part', givesStart, position_spelledBy readStart, givesFinish,
    position_spelledBy readFinish⟩

theorem location_spelledBy {l : Location} (read : g.read depth feed location o = .ok l) :
    l.SpelledBy o := by
  obtain ⟨inner, ⟨offset, range, -⟩, rfl, rfl, takenOffset, takenRange, -⟩ :=
    Grammar.exists_of_read_record (by simp) read
  obtain ⟨part, givesOffset, readOffset⟩ := takenOffset.required
  obtain ⟨part', givesRange, readRange⟩ := takenRange.required
  exact ⟨part, part', givesOffset, position_spelledBy readOffset, givesRange,
    range_spelledBy readRange⟩

end Format

/-- The range of a reference to a user-defined type is spelled by a text. -/
def UserDefinedType.RangeSpelledBy (reference : UserDefinedType) : Outline → Prop :=
  SlotSpelledBy ["namespace", "name", "range"] "range" Range.SpelledBy reference.range

/-- The range of a type parameter is spelled by a text. -/
def TypeParameter.RangeSpelledBy (parameter : TypeParameter) : Outline → Prop :=
  SlotSpelledBy ["origin", "typeName", "range"] "range" Range.SpelledBy parameter.range

theorem Format.userDefinedType_rangeSpelledBy {reference : UserDefinedType}
    (read : g.read depth feed userDefinedType o = .ok reference) :
    reference.RangeSpelledBy o := by
  obtain ⟨inner, ⟨scope, name, slot, -⟩, rfl, rfl, -, -, taken, -⟩ :=
    Grammar.exists_of_read_record (by simp) read
  exact taken.slotSpelledBy fun _ _ => range_spelledBy

theorem Format.typeParameter_rangeSpelledBy {parameter : TypeParameter}
    (read : g.read depth feed typeParameter o = .ok parameter) :
    parameter.RangeSpelledBy o := by
  obtain ⟨inner, ⟨origin, name, slot, -⟩, rfl, rfl, -, -, taken, -⟩ :=
    Grammar.exists_of_read_record (by simp) read
  exact taken.slotSpelledBy fun _ _ => range_spelledBy

/-! ## Values of types and expressions -/

namespace Wire

theorem payload_map_eq_ok_iff {κ : Type} [UnionTag κ] {kind : κ} {field : String} {slot : Option α}
    {β : Type} {make : α → β} {b : β} :
    (UnionTag.payload kind field slot).map make = .ok b ↔ ∃ a, slot = some a ∧ make a = b := by
  cases slot <;> simp [UnionTag.payload, Except.map]

namespace TypeSlots

variable {T U P C : Type} {slots : TypeSlots T U P C}

theorem userDefinedType_of_select {reference : U}
    (selected : slots.select = .ok (.userDefinedType reference)) :
    slots.userDefinedType = some reference := by
  have selects := slots.select_selects
  rw [selected] at selects
  obtain ⟨kind, array, tuple, slot, parameter, operation, function⟩ := slots
  obtain ⟨-, -, rfl⟩ := selects
  obtain ⟨held, found, same⟩ := payload_map_eq_ok_iff.mp selected
  cases same
  exact found

theorem typeParameter_of_select {parameter : P}
    (selected : slots.select = .ok (.typeParameter parameter)) :
    slots.typeParameter = some parameter := by
  have selects := slots.select_selects
  rw [selected] at selects
  obtain ⟨kind, array, tuple, reference, slot, operation, function⟩ := slots
  obtain ⟨-, -, rfl⟩ := selects
  obtain ⟨held, found, same⟩ := payload_map_eq_ok_iff.mp selected
  cases same
  exact found

end TypeSlots

namespace ExpressionSlots

variable {E S T : Type} {slots : ExpressionSlots E S T}

theorem intLiteral_of_select {value : Int64} (selected : slots.select = .ok (.intLiteral value)) :
    slots.intLiteral = value := by
  have selects := slots.select_selects
  rw [selected] at selects
  obtain ⟨kind, identifier, own⟩ := slots
  obtain ⟨-, -, rfl⟩ := selects
  have same : (.ok (.intLiteral own) : Decoded (ExpressionKind E S T)) =
    .ok (.intLiteral value) := selected
  cases same
  rfl

theorem bigIntLiteral_of_select {value : Int}
    (selected : slots.select = .ok (.bigIntLiteral value)) :
    ∃ bytes, slots.bigIntLiteral = some bytes ∧ BigInteger.ofBytes bytes = value := by
  have selects := slots.select_selects
  rw [selected] at selects
  obtain ⟨kind, identifier, intLiteral, bigIntLiteral⟩ := slots
  obtain ⟨-, -, rfl⟩ := selects
  cases bigIntLiteral with
  | none => cases selected
  | some bytes =>
    cases bytes with
    | nil => cases selected
    | cons b bs =>
      cases selected
      exact ⟨b :: bs, rfl, rfl⟩

end ExpressionSlots

namespace Format

open WireTree.Format

/-- The fields of a type union. -/
def typeKeys : List String :=
  ["kind", "arrayType", "tupleType", "userDefinedType", "typeParameter", "operation", "function"]

/-- The fields of an expression union. -/
def expressionKeys : List String :=
  ["kind", "identifier", "intLiteral", "bigIntLiteral", "doubleLiteral", "boolLiteral",
    "stringLiteral", "resultLiteral", "pauliLiteral", "newArray", "namedItem", "expressionSingle",
    "expressionDouble", "expressionTriple", "expressionArray"]

/-- What the integer literal of an expression union is read from: a literal, or nothing, which
stands for zero. -/
def IntLiteralFrom (value : Int64) (o : Outline) : Prop :=
  Lacks expressionKeys "intLiteral" o ∧ value = 0 ∨
    ∃ n, Gives expressionKeys "intLiteral" o (.number n) ∧ n.Denotes value.toInt

/-- A list of literals spells bytes. -/
def BytesSpelledBy (bytes : List UInt8) (o : Outline) : Prop :=
  ∃ literals : List Numeral, o = .array (literals.map .number) true ∧
    List.Forall₂ (fun n b => n.Denotes (b.toNat : Int)) literals bytes

theorem bytesSpelledBy_of_read {bytes : List UInt8}
    (read : g.read depth feed (list byte) o = .ok bytes) : BytesSpelledBy bytes o := by
  obtain ⟨inner, items, rfl, rfl, each⟩ := Grammar.exists_of_read_list read
  clear read
  have field := takesIntegers_byte g inner feed
  induction each with
  | nil => exact ⟨[], rfl, .nil⟩
  | cons first _ ih =>
    obtain ⟨n, rfl⟩ := field.literal first
    obtain ⟨literals, same, others⟩ := ih
    obtain ⟨rfl, -⟩ := Outline.array.inj same
    exact ⟨n :: literals, rfl, .cons (field.kept first) others⟩

theorem intLiteralFrom_of_read {E S T : Type} {expression : Schema g.Carrier E}
    {symbol : Schema g.Carrier S} {type : Schema g.Carrier T} {slots : ExpressionSlots E S T}
    (read : g.read depth feed (expressionSlots expression symbol type) o = .ok slots) :
    IntLiteralFrom slots.intLiteral o ∧
      SlotSpelledBy expressionKeys "bigIntLiteral" BytesSpelledBy slots.bigIntLiteral o := by
  obtain ⟨inner, ⟨kind, identifier, value, bytes, others⟩, rfl, rfl, -, -, taken, big, -⟩ :=
    Grammar.exists_of_read_record (by simp) read
  refine ⟨?_, big.slotSpelledBy fun _ _ => bytesSpelledBy_of_read⟩
  rcases taken with ⟨lacks, absent⟩ | ⟨part, gives, read⟩
  · cases absent
    exact .inl ⟨lacks, rfl⟩
  · have field := takesIntegers_int64 g inner feed
    obtain ⟨n, rfl⟩ := field.literal read
    exact .inr ⟨n, gives, field.kept read⟩

/-! ## Trees -/

/-- The range of a type in a tree, if it is a reference or a parameter, is spelled by the text of
the type. -/
structure TypeSpelledBy (tree : WireTree.ResolvedType) (o : Outline) : Prop where
  userDefinedType {reference : UserDefinedType} (kind : tree.kind = .userDefinedType reference) :
    ∃ union part, Gives ["typeKind"] "typeKind" o union ∧
      Gives typeKeys "userDefinedType" union part ∧ reference.RangeSpelledBy part
  typeParameter {parameter : TypeParameter} (kind : tree.kind = .typeParameter parameter) :
    ∃ union part, Gives ["typeKind"] "typeKind" o union ∧
      Gives typeKeys "typeParameter" union part ∧ parameter.RangeSpelledBy part

/-- The range of an expression in a tree, and its value if it is an integer literal, are spelled by
the text of the expression. -/
structure ExpressionSpelledBy (tree : WireTree.TypedExpression) (o : Outline) : Prop where
  range : SlotSpelledBy
    ["expression", "typeArguments", "resolvedType", "inferredInformation", "range"] "range"
    Range.SpelledBy tree.node.range o
  intLiteral {value : Int64} (kind : tree.node.expression = .intLiteral value) :
    ∃ union, Gives ["expression", "typeArguments", "resolvedType", "inferredInformation", "range"]
      "expression" o union ∧ IntLiteralFrom value union
  bigIntLiteral {value : Int} (kind : tree.node.expression = .bigIntLiteral value) :
    ∃ union part bytes,
      Gives ["expression", "typeArguments", "resolvedType", "inferredInformation", "range"]
        "expression" o union ∧ Gives expressionKeys "bigIntLiteral" union part ∧
        BytesSpelledBy bytes part ∧ BigInteger.ofBytes bytes = value

/-- The places of an attribute in a tree are spelled by the text of the attribute. -/
structure AttributeSpelledBy (tree : WireTree.DeclarationAttribute) (o : Outline) : Prop where
  typeId : SlotSpelledBy ["typeId", "typeIdRange", "argument", "offset", "comments"] "typeId"
    UserDefinedType.RangeSpelledBy tree.typeId o
  typeIdRange : SlotSpelledBy ["typeId", "typeIdRange", "argument", "offset", "comments"]
    "typeIdRange" Range.SpelledBy tree.typeIdRange o
  offset : ∃ part, Gives ["typeId", "typeIdRange", "argument", "offset", "comments"] "offset" o
    part ∧ tree.offset.SpelledBy part

/-- The fields of a specialization. -/
def specializationKeys : List String :=
  ["kind", "parent", "attributes", "source", "location", "typeArguments"]

/-- The fields of a callable. -/
def callableKeys : List String :=
  ["kind", "fullName", "attributes", "modifiers", "source", "location", "signature",
    "specializations", "documentation", "comments"]

/-- The fields of a user-defined type. -/
def customTypeKeys : List String :=
  ["fullName", "attributes", "modifiers", "source", "location", "type", "documentation",
    "comments"]

theorem typeSpelledBy {type : ResolvedType} {tree : WireTree.ResolvedType}
    (read : grammar.read depth feed resolvedType o = .ok type)
    (decoded : type.decode = .ok tree) : TypeSpelledBy tree o := by
  obtain ⟨slots⟩ := type
  replace read := (Grammar.read_node Node.resolvedType).symm.trans read
  obtain ⟨inner, ⟨kinds, _⟩, rfl, made, taken, -⟩ := Grammar.exists_of_read_record (by decide) read
  cases made
  obtain ⟨union, gives, read⟩ := taken.required
  obtain ⟨inner, ⟨kind, array, tuple, named, own, others⟩, rfl, rfl, -, -, -, takenNamed,
    takenOwn, -⟩ := Grammar.exists_of_read_record (by decide) read
  rw [ResolvedType.decode_mk_eq_ok_iff, TypeSlots.decodeWith_eq_bind, bind_eq_ok_iff] at decoded
  obtain ⟨kind, selected, traversed⟩ := decoded
  have related := TypeKind.traverse_eq_ok_iff.mp traversed
  constructor
  · intro reference isReference
    rw [isReference] at related
    cases related with
    | userDefinedType same =>
      cases same
      have held := TypeSlots.userDefinedType_of_select selected
      obtain ⟨part, inside, spelled⟩ :=
        takenNamed.slotSpelledBy (fun _ _ => userDefinedType_rangeSpelledBy) _ held
      exact ⟨union, part, gives, inside, spelled⟩
  · intro parameter isParameter
    rw [isParameter] at related
    cases related with
    | typeParameter same =>
      cases same
      have held := TypeSlots.typeParameter_of_select selected
      obtain ⟨part, inside, spelled⟩ :=
        takenOwn.slotSpelledBy (fun _ _ => typeParameter_rangeSpelledBy) _ held
      exact ⟨union, part, gives, inside, spelled⟩

theorem expressionSpelledBy {e : TypedExpression} {tree : WireTree.TypedExpression}
    (read : grammar.read depth feed typedExpression o = .ok e)
    (decoded : e.decode = .ok tree) : ExpressionSpelledBy tree o := by
  obtain ⟨node⟩ := e
  replace read := (Grammar.read_node Node.typedExpression).symm.trans read
  obtain ⟨inner, values, rfl, made, taken, -, -, -, takenRange, -⟩ :=
    Grammar.exists_of_read_record (by decide) read
  cases made
  obtain ⟨union, gives, read⟩ := taken.required
  obtain ⟨literal, bytes⟩ := intLiteralFrom_of_read read
  have decodes := TypedExpression.decode_mk_eq_ok_iff.mp decoded
  have expression := decodes.expression
  rw [ExpressionSlots.decodeWith_eq_bind, bind_eq_ok_iff] at expression
  obtain ⟨kind, selected, traversed⟩ := expression
  have related := ExpressionKind.traverse_eq_ok_iff.mp traversed
  refine ⟨?_, ?_, ?_⟩
  · rw [← decodes.range]
    exact takenRange.slotSpelledBy fun _ _ => range_spelledBy
  · intro value isLiteral
    rw [isLiteral] at related
    cases related with
    | intLiteral same =>
      cases same
      rw [ExpressionSlots.intLiteral_of_select selected] at literal
      exact ⟨union, gives, literal⟩
  · intro value isLiteral
    rw [isLiteral] at related
    cases related with
    | bigIntLiteral same =>
      cases same
      obtain ⟨found, held, spelled⟩ := ExpressionSlots.bigIntLiteral_of_select selected
      obtain ⟨part, inside, given⟩ := bytes found held
      exact ⟨union, part, found, gives, inside, given, spelled⟩

theorem attributeSpelledBy {declared : DeclarationAttribute}
    {tree : WireTree.DeclarationAttribute}
    (read : grammar.read depth feed declarationAttribute o = .ok declared)
    (decoded : declared.decode = .ok tree) : AttributeSpelledBy tree o := by
  obtain ⟨inner, values, rfl, rfl, takenId, takenRange, -, takenOffset, -⟩ :=
    Grammar.exists_of_read_record (by decide) read
  have decodes := DeclarationAttribute.decode_eq_ok_iff.mp decoded
  refine ⟨?_, ?_, ?_⟩
  · rw [← decodes.typeId]
    exact takenId.slotSpelledBy fun _ _ => userDefinedType_rangeSpelledBy
  · rw [← decodes.typeIdRange]
    exact takenRange.slotSpelledBy fun _ _ => range_spelledBy
  · rw [← decodes.offset]
    obtain ⟨part, gives, read⟩ := takenOffset.required
    exact ⟨part, gives, position_spelledBy read⟩

theorem specialization_location_spelledBy {s : Specialization} {tree : WireTree.Specialization}
    (read : grammar.read depth feed specialization o = .ok s) (decoded : s.decode = .ok tree) :
    SlotSpelledBy specializationKeys "location" Location.SpelledBy tree.location o := by
  obtain ⟨inner, values, rfl, rfl, -, -, -, -, taken, -⟩ :=
    Grammar.exists_of_read_record (by decide) read
  rw [← (Specialization.decode_eq_ok_iff.mp decoded).location]
  exact taken.slotSpelledBy fun _ _ => location_spelledBy

theorem callable_location_spelledBy {c : Callable} {tree : WireTree.Callable}
    (read : grammar.read depth feed callable o = .ok c) (decoded : c.decode = .ok tree) :
    SlotSpelledBy callableKeys "location" Location.SpelledBy tree.location o := by
  obtain ⟨inner, values, rfl, rfl, -, -, -, -, -, taken, -⟩ :=
    Grammar.exists_of_read_record (by decide) read
  rw [← (Callable.decode_eq_ok_iff.mp decoded).location]
  exact taken.slotSpelledBy fun _ _ => location_spelledBy

theorem customType_location_spelledBy {t : CustomType} {tree : WireTree.CustomType}
    (read : grammar.read depth feed customType o = .ok t) (decoded : t.decode = .ok tree) :
    SlotSpelledBy customTypeKeys "location" Location.SpelledBy tree.location o := by
  obtain ⟨inner, values, rfl, rfl, -, -, -, -, taken, -⟩ :=
    Grammar.exists_of_read_record (by decide) read
  rw [← (CustomType.decode_eq_ok_iff.mp decoded).location]
  exact taken.slotSpelledBy fun _ _ => location_spelledBy

end Format

end Wire

end WireTree
