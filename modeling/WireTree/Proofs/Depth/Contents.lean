import WireTree.Format.Tree
import WireTree.Format.Wire
import WireTree.Proofs.Decodes
import WireTree.Proofs.Depth.Contains

/-!
# The nodes that records contain

They are listed member by member, on the wire and in trees. The members that can hold no nodes are
left out, and of a union on the wire there is a statement for every slot, whether its kind selects
it or not.
-/

namespace WireTree

section Shared

open Format

variable {ι : Type} {K : ι → Type} {x : (i : ι) × K i}

@[simp]
theorem not_contains_string (s : String) : ¬ string.Contains x s :=
  string.not_contains rfl s

@[simp]
theorem not_contains_position (p : Position) : ¬ position.Contains x p :=
  position.not_contains rfl p

@[simp]
theorem not_contains_range (r : Range) : ¬ range.Contains x r :=
  range.not_contains rfl r

@[simp]
theorem not_contains_location (l : Location) : ¬ location.Contains x l :=
  location.not_contains rfl l

@[simp]
theorem not_contains_qualifiedName (n : QualifiedName) : ¬ qualifiedName.Contains x n :=
  qualifiedName.not_contains rfl n

@[simp]
theorem not_contains_userDefinedType (t : UserDefinedType) : ¬ userDefinedType.Contains x t :=
  userDefinedType.not_contains rfl t

@[simp]
theorem not_contains_typeParameter (p : TypeParameter) : ¬ typeParameter.Contains x p :=
  typeParameter.not_contains rfl p

end Shared

/-- A part of a type that is a type with some property, or the characteristics of a callable with
another. -/
def TypePart.Satisfies {T U P : Type} (type : T → Prop) {C : Type} (callable : C → Prop) :
    TypePart T U P C → Prop
  | .type t => type t
  | .characteristics c => callable c
  | _ => False

/-- A part of an expression that is an expression with some property, or a type with another. -/
def ExpressionPart.Satisfies {E S T : Type} (expression : E → Prop) (type : T → Prop) :
    ExpressionPart E S T → Prop
  | .expression e => expression e
  | .symbol _ => False
  | .type t => type t

/-- If some part in a slot has a property, the slot holds a payload some part of which has it. -/
theorem exists_payload_of_exists_mem {α β : Type} {slot : Option α} {parts : α → List β}
    {P : β → Prop} (found : ∃ part ∈ slot.elim [] parts, P part) :
    ∃ payload, slot = some payload ∧ ∃ part ∈ parts payload, P part := by
  obtain ⟨part, member, satisfied⟩ := found
  obtain ⟨payload, held, member⟩ := exists_of_mem_elim member
  exact ⟨payload, held, part, member, satisfied⟩

/-! ## Trees -/

namespace TreeFormat

open Format

variable {y : (node : Node) × node.Carrier} {α : Type}

@[simp]
theorem not_contains_inferredCallableInformation (i : InferredCallableInformation) :
    ¬ inferredCallableInformation.Contains y i :=
  inferredCallableInformation.not_contains rfl i

@[simp]
theorem not_contains_identifier (i : Identifier) : ¬ identifier.Contains y i :=
  identifier.not_contains rfl i

@[simp]
theorem not_contains_bigInteger (n : Int) : ¬ bigInteger.Contains y n :=
  bigInteger.not_contains rfl n

@[simp]
theorem not_contains_inferredExpressionInformation (i : InferredExpressionInformation) :
    ¬ inferredExpressionInformation.Contains y i :=
  inferredExpressionInformation.not_contains rfl i

@[simp]
theorem not_contains_localSymbol (s : LocalSymbol) : ¬ localSymbol.Contains y s :=
  localSymbol.not_contains rfl s

@[simp]
theorem not_contains_comments (c : Comments) : ¬ comments.Contains y c :=
  comments.not_contains rfl c

@[simp]
theorem not_contains_modifiers (m : Modifiers) : ¬ modifiers.Contains y m :=
  modifiers.not_contains rfl m

@[simp]
theorem not_contains_source (s : Source) : ¬ source.Contains y s :=
  source.not_contains rfl s

@[simp]
theorem contains_characteristics {c : ResolvedCharacteristics} :
    characteristics.Contains y c ↔ y = ⟨.characteristics, c⟩ :=
  Iff.rfl

@[simp]
theorem contains_resolvedType {t : ResolvedType} :
    resolvedType.Contains y t ↔ y = ⟨.resolvedType, t⟩ :=
  Iff.rfl

@[simp]
theorem contains_typedExpression {e : TypedExpression} :
    typedExpression.Contains y e ↔ y = ⟨.typedExpression, e⟩ :=
  Iff.rfl

theorem contains_characteristicsArms {c : ResolvedCharacteristics} :
    characteristicsArms.Contains y c ↔ ∃ d ∈ c.kind.operands, y = ⟨.characteristics, d⟩ := by
  obtain ⟨kind⟩ := c
  cases kind <;> simp [characteristicsArms, payloads, choice, ResolvedCharacteristics.kind,
    CharacteristicsKind.operands]

@[simp]
theorem contains_callableInformation {i : CallableInformation} :
    callableInformation.Contains y i ↔ y = ⟨.characteristics, i.characteristics⟩ := by
  obtain ⟨characteristics, inferredInformation⟩ := i
  simp [callableInformation]

theorem contains_typeArms {t : ResolvedType} :
    typeArms.Contains y t ↔ ∃ part ∈ t.kind.parts,
      part.Satisfies (y = ⟨.resolvedType, ·⟩) (y = ⟨.characteristics, ·.characteristics⟩) := by
  obtain ⟨kind⟩ := t
  cases kind <;> simp [typeArms, payloads, pair, ResolvedType.kind, TypeKind.parts,
    TypePart.Satisfies, or_assoc]

theorem contains_expressionKind {kind : ExpressionKind TypedExpression Identifier ResolvedType} :
    expressionKind.Contains y kind ↔ ∃ part ∈ kind.parts,
      part.Satisfies (y = ⟨.typedExpression, ·⟩) (y = ⟨.resolvedType, ·⟩) := by
  cases kind with
  | identifier symbol types =>
    cases types <;> simp [expressionKind, union, payloads, choice, ExpressionKind.parts,
      ExpressionPart.Satisfies]
  | _ =>
    simp [expressionKind, union, payloads, twoExpressions, threeExpressions, choice, int64,
      ExpressionKind.parts, ExpressionPart.Satisfies]

@[simp]
theorem contains_typeArgument {a : TypeArgument ResolvedType} :
    typeArgument.Contains y a ↔ y = ⟨.resolvedType, a.type⟩ := by
  obtain ⟨callable, name, type⟩ := a
  simp [typeArgument]

/-- What is pending contains nothing. -/
@[simp]
theorem contains_deferred {part : Form α} {a : Deferred α} :
    (deferred part).Contains y a ↔ ∃ b, a = .decoded b ∧ part.Contains y b := by
  cases a <;> simp [deferred, union]

@[simp]
theorem contains_declarationAttribute {a : DeclarationAttribute} :
    declarationAttribute.Contains y a ↔ y = ⟨.typedExpression, a.argument⟩ := by
  obtain ⟨typeId, typeIdRange, argument, offset, comments⟩ := a
  simp [declarationAttribute]

theorem contains_resolvedSignature {s : ResolvedSignature} :
    resolvedSignature.Contains y s ↔ y = ⟨.resolvedType, s.argumentType⟩ ∨
      y = ⟨.resolvedType, s.returnType⟩ ∨
      y = ⟨.characteristics, s.information.characteristics⟩ := by
  obtain ⟨typeParameters, argumentType, returnType, information⟩ := s
  simp [resolvedSignature]

theorem contains_specialization {s : Specialization} :
    specialization.Contains y s ↔ (∃ a ∈ s.attributes, y = ⟨.typedExpression, a.argument⟩) ∨
      (∃ types, s.typeArguments = some types ∧ ∃ t ∈ types, y = ⟨.resolvedType, t⟩) ∨
      (∃ signature, s.signature = .decoded signature ∧ resolvedSignature.Contains y signature) ∨
      ∃ implementation, s.implementation = .decoded implementation ∧
        specializationImplementation.Contains y implementation := by
  obtain ⟨kind, parent, attributes, source, location, typeArguments, signature, implementation,
    documentation, comments⟩ := s
  simp [specialization, choice]

theorem contains_callable {c : Callable} :
    callable.Contains y c ↔ (∃ a ∈ c.attributes, y = ⟨.typedExpression, a.argument⟩) ∨
      resolvedSignature.Contains y c.signature ∨
      (∃ tuple, c.argumentTuple = .decoded tuple ∧ argumentTuple.Contains y tuple) ∨
      ∃ s ∈ c.specializations, specialization.Contains y s := by
  obtain ⟨kind, fullName, attributes, modifiers, source, location, signature, argumentTuple,
    specializations, documentation, comments⟩ := c
  simp [callable, choice]

theorem contains_customType {t : CustomType} :
    customType.Contains y t ↔ (∃ a ∈ t.attributes, y = ⟨.typedExpression, a.argument⟩) ∨
      y = ⟨.resolvedType, t.type⟩ ∨
      ∃ items, t.typeItems = .decoded items ∧ typeItems.Contains y items := by
  obtain ⟨fullName, attributes, modifiers, source, location, type, typeItems, documentation,
    comments⟩ := t
  simp [customType]

theorem contains_namespaceElement {element : NamespaceElement} :
    namespaceElement.Contains y element ↔
      (∃ c, .callable c = element ∧ callable.Contains y c) ∨
        ∃ t, .customType t = element ∧ customType.Contains y t := by
  cases element <;> simp [namespaceElement, union]

theorem contains_namespace {ns : Namespace} :
    «namespace».Contains y ns ↔ ∃ element ∈ ns.elements, namespaceElement.Contains y element := by
  obtain ⟨name, elements, documentation⟩ := ns
  simp [«namespace»]

theorem contains_compilation {c : Compilation} :
    compilation.Contains y c ↔ ∃ ns ∈ c.namespaces, «namespace».Contains y ns := by
  obtain ⟨namespaces, entryPoints⟩ := c
  simp [compilation]

theorem of_contains_shape_typedExpression {e : TypedExpression}
    (contains : (shape .typedExpression).Contains y e) :
    expressionKind.Contains y e.node.expression ∨
      (∃ a ∈ e.node.typeArguments, y = ⟨.resolvedType, a.type⟩) ∨
      y = ⟨.resolvedType, e.node.resolvedType⟩ := by
  obtain ⟨⟨expression, typeArguments, resolvedType, inferredInformation, range, _⟩, rfl,
    contains⟩ := contains
  simpa [TypedExpression.node] using contains

end TreeFormat

/-! ## The wire -/

namespace Wire.Format

open WireTree.Format

variable {x : (node : Node) × node.Carrier} {α : Type}

@[simp]
theorem not_contains_inferredCallableInformation (i : InferredCallableInformation) :
    ¬ inferredCallableInformation.Contains x i :=
  inferredCallableInformation.not_contains rfl i

@[simp]
theorem not_contains_identifier (i : Identifier) : ¬ identifier.Contains x i :=
  identifier.not_contains rfl i

@[simp]
theorem not_contains_inferredExpressionInformation (i : InferredExpressionInformation) :
    ¬ inferredExpressionInformation.Contains x i :=
  inferredExpressionInformation.not_contains rfl i

@[simp]
theorem not_contains_localSymbol (s : LocalSymbol) : ¬ localSymbol.Contains x s :=
  localSymbol.not_contains rfl s

@[simp]
theorem not_contains_comments (c : Comments) : ¬ comments.Contains x c :=
  comments.not_contains rfl c

@[simp]
theorem not_contains_modifiers (m : Modifiers) : ¬ modifiers.Contains x m :=
  modifiers.not_contains rfl m

@[simp]
theorem not_contains_source (s : Source) : ¬ source.Contains x s :=
  source.not_contains rfl s

@[simp]
theorem not_contains_documentation (blocks : List SourceFileDocumentation) :
    ¬ documentation.Contains x blocks :=
  documentation.not_contains rfl blocks

@[simp]
theorem contains_characteristics {c : ResolvedCharacteristics} :
    characteristics.Contains x c ↔ x = ⟨.characteristics, c⟩ :=
  Iff.rfl

@[simp]
theorem contains_resolvedType {t : ResolvedType} :
    resolvedType.Contains x t ↔ x = ⟨.resolvedType, t⟩ :=
  Iff.rfl

@[simp]
theorem contains_typedExpression {e : TypedExpression} :
    typedExpression.Contains x e ↔ x = ⟨.typedExpression, e⟩ :=
  Iff.rfl

section Payloads

variable {T U P C E S : Type} {type : Form T} {reference : Form U} {parameter : Form P}
  {characteristics : Form C} {expression : Form E} {symbol : Form S}

@[simp]
theorem contains_setOperation {operation : SetOperation C} :
    (setOperation characteristics).Contains x operation ↔
      characteristics.Contains x operation.left ∨ characteristics.Contains x operation.right := by
  obtain ⟨left, right⟩ := operation
  simp [setOperation]

@[simp]
theorem contains_operationType {operation : OperationType T C} :
    (operationType type characteristics).Contains x operation ↔
      type.Contains x operation.domain ∨ type.Contains x operation.codomain ∨
        characteristics.Contains x operation.characteristics := by
  obtain ⟨domain, codomain, characteristics⟩ := operation
  simp [operationType]

@[simp]
theorem contains_functionType {function : FunctionType T} :
    (functionType type).Contains x function ↔
      type.Contains x function.domain ∨ type.Contains x function.codomain := by
  obtain ⟨domain, codomain⟩ := function
  simp [functionType]

@[simp]
theorem contains_identifierPayload {payload : IdentifierPayload S T} :
    (identifierPayload symbol type).Contains x payload ↔ symbol.Contains x payload.symbol ∨
      ∃ types, payload.types = some types ∧ ∃ t ∈ types, type.Contains x t := by
  obtain ⟨name, types⟩ := payload
  simp [identifierPayload]

@[simp]
theorem contains_stringPayload {payload : StringPayload E} :
    (stringPayload expression).Contains x payload ↔
      ∃ e ∈ payload.expressions, expression.Contains x e := by
  obtain ⟨text, expressions⟩ := payload
  simp [stringPayload]

@[simp]
theorem contains_newArrayPayload {payload : NewArrayPayload E T} :
    (newArrayPayload expression type).Contains x payload ↔
      type.Contains x payload.type ∨ expression.Contains x payload.length := by
  obtain ⟨item, length⟩ := payload
  simp [newArrayPayload]

@[simp]
theorem contains_namedItemPayload {payload : NamedItemPayload E S} :
    (namedItemPayload expression symbol).Contains x payload ↔
      expression.Contains x payload.accessed ∨ symbol.Contains x payload.symbol := by
  obtain ⟨accessed, name⟩ := payload
  simp [namedItemPayload]

@[simp]
theorem contains_twoOperands {operands : TwoOperands E} :
    (twoOperands expression).Contains x operands ↔
      expression.Contains x operands.first ∨ expression.Contains x operands.second := by
  obtain ⟨first, second⟩ := operands
  simp [twoOperands]

@[simp]
theorem contains_threeOperands {operands : ThreeOperands E} :
    (threeOperands expression).Contains x operands ↔ expression.Contains x operands.first ∨
      expression.Contains x operands.second ∨ expression.Contains x operands.third := by
  obtain ⟨first, second, third⟩ := operands
  simp [threeOperands]

theorem contains_characteristicsSlots {slots : CharacteristicsSlots C} :
    (characteristicsSlots characteristics).Contains x slots ↔
      ∃ operation, slots.setOperation = some operation ∧
        (characteristics.Contains x operation.left ∨
          characteristics.Contains x operation.right) := by
  obtain ⟨kind, simpleSet, setOperation⟩ := slots
  simp [characteristicsSlots, discriminator, choice]

theorem contains_typeSlots {slots : TypeSlots T U P C} :
    (typeSlots type reference parameter characteristics).Contains x slots ↔
      (∃ item, slots.arrayType = some item ∧ type.Contains x item) ∨
      (∃ items, slots.tupleType = some items ∧ ∃ t ∈ items, type.Contains x t) ∨
      (∃ t, slots.userDefinedType = some t ∧ reference.Contains x t) ∨
      (∃ p, slots.typeParameter = some p ∧ parameter.Contains x p) ∨
      (∃ operation, slots.operation = some operation ∧
        (operationType type characteristics).Contains x operation) ∨
      ∃ function, slots.function = some function ∧ (functionType type).Contains x function := by
  obtain ⟨kind, array, tuple, reference, parameter, operation, function⟩ := slots
  simp [typeSlots, discriminator]

theorem contains_expressionSlots {slots : ExpressionSlots E S T} :
    (expressionSlots expression symbol type).Contains x slots ↔
      (∃ payload, slots.identifier = some payload ∧
        (identifierPayload symbol type).Contains x payload) ∨
      (∃ payload, slots.stringLiteral = some payload ∧
        (stringPayload expression).Contains x payload) ∨
      (∃ payload, slots.newArray = some payload ∧
        (newArrayPayload expression type).Contains x payload) ∨
      (∃ payload, slots.namedItem = some payload ∧
        (namedItemPayload expression symbol).Contains x payload) ∨
      (∃ e, slots.expressionSingle = some e ∧ expression.Contains x e) ∨
      (∃ operands, slots.expressionDouble = some operands ∧
        (twoOperands expression).Contains x operands) ∨
      (∃ operands, slots.expressionTriple = some operands ∧
        (threeOperands expression).Contains x operands) ∨
      ∃ items, slots.expressionArray = some items ∧ ∃ e ∈ items, expression.Contains x e := by
  obtain ⟨kind, name, intLiteral, bigIntLiteral, doubleLiteral, boolLiteral, stringLiteral,
    resultLiteral, pauliLiteral, newArray, namedItem, single, double, triple, array⟩ := slots
  simp [expressionSlots, discriminator, choice, int64, byte]

end Payloads

@[simp]
theorem contains_callableInformation {i : CallableInformation} :
    callableInformation.Contains x i ↔ x = ⟨.characteristics, i.characteristics⟩ := by
  obtain ⟨characteristics, inferredInformation⟩ := i
  simp [callableInformation]

/-- The operands in any slot. -/
theorem contains_of_mem_operands {slots : CharacteristicsSlots ResolvedCharacteristics}
    {slot : CharacteristicsSlot} (found : ∃ c ∈ slots.contents slot, x = ⟨.characteristics, c⟩) :
    (characteristicsSlots characteristics).Contains x slots := by
  rw [contains_characteristicsSlots]
  cases slot with
  | simpleSet => obtain ⟨c, ⟨⟩, -⟩ := found
  | setOperation =>
    obtain ⟨operation, held, found⟩ := exists_payload_of_exists_mem found
    exact ⟨operation, held, by simpa using found⟩

/-- The parts of a type in any slot. -/
theorem contains_of_mem_types {slots : ResolvedType.Slots ResolvedType} {slot : TypeSlot}
    (found : ∃ part ∈ slots.contents slot,
      part.Satisfies (x = ⟨.resolvedType, ·⟩) (x = ⟨.characteristics, ·.characteristics⟩)) :
    (typeSlots resolvedType userDefinedType typeParameter callableInformation).Contains x
      slots := by
  rw [contains_typeSlots]
  cases slot with
  | arrayType | tupleType | userDefinedType | typeParameter | operation | function =>
    obtain ⟨payload, held, found⟩ := exists_payload_of_exists_mem found
    simp_all [TypePart.Satisfies]

/-- The parts of an expression in any slot. -/
theorem contains_of_mem_expressions
    {slots : ExpressionSlots TypedExpression Identifier ResolvedType} {slot : ExpressionSlot}
    (found : ∃ part ∈ slots.contents slot,
      part.Satisfies (x = ⟨.typedExpression, ·⟩) (x = ⟨.resolvedType, ·⟩)) :
    (expressionSlots typedExpression identifier resolvedType).Contains x slots := by
  rw [contains_expressionSlots]
  cases slot with
  | identifier =>
    obtain ⟨payload, held, found⟩ := exists_payload_of_exists_mem found
    refine .inl ⟨payload, held, ?_⟩
    cases held : payload.types <;> simp_all [ExpressionPart.Satisfies]
  | stringLiteral | newArray | namedItem | expressionSingle | expressionDouble
  | expressionTriple | expressionArray =>
    obtain ⟨payload, held, found⟩ := exists_payload_of_exists_mem found
    simp_all [ExpressionPart.Satisfies]
  -- the scalars
  | _ => obtain ⟨part, ⟨⟩, -⟩ := found

@[simp]
theorem contains_typeArgument {a : TypeArgument ResolvedType} :
    typeArgument.Contains x a ↔ x = ⟨.resolvedType, a.type⟩ := by
  obtain ⟨callable, name, type⟩ := a
  simp [typeArgument]

theorem contains_shape_typedExpression {node : TypedExpression.Node TypedExpression}
    (contains : (expressionSlots typedExpression identifier resolvedType).Contains x
      node.expression ∨ (∃ a ∈ node.typeArguments, x = ⟨.resolvedType, a.type⟩) ∨
      x = ⟨.resolvedType, node.resolvedType⟩) :
    (shape .typedExpression).Contains x (TypedExpression.mk node) := by
  obtain ⟨expression, typeArguments, type, inferredInformation, range⟩ := node
  refine ⟨(expression, typeArguments, type, inferredInformation, range, ()), rfl, ?_⟩
  simpa using contains

@[simp]
theorem contains_declarationAttribute {a : DeclarationAttribute} :
    declarationAttribute.Contains x a ↔ x = ⟨.typedExpression, a.argument⟩ := by
  obtain ⟨typeId, typeIdRange, argument, offset, comments⟩ := a
  simp [declarationAttribute]

theorem contains_resolvedSignature {s : ResolvedSignature} :
    resolvedSignature.Contains x s ↔ x = ⟨.resolvedType, s.argumentType⟩ ∨
      x = ⟨.resolvedType, s.returnType⟩ ∨
      x = ⟨.characteristics, s.information.characteristics⟩ := by
  obtain ⟨typeParameters, argumentType, returnType, information⟩ := s
  simp [resolvedSignature]

theorem contains_specialization {s : Specialization} :
    specialization.Contains x s ↔ (∃ a ∈ s.attributes, x = ⟨.typedExpression, a.argument⟩) ∨
      ∃ types, s.typeArguments = some types ∧ ∃ t ∈ types, x = ⟨.resolvedType, t⟩ := by
  obtain ⟨kind, parent, attributes, source, location, typeArguments⟩ := s
  simp [specialization, choice]

theorem contains_callable {c : Callable} :
    callable.Contains x c ↔ (∃ a ∈ c.attributes, x = ⟨.typedExpression, a.argument⟩) ∨
      resolvedSignature.Contains x c.signature ∨
      ∃ s ∈ c.specializations, specialization.Contains x s := by
  obtain ⟨kind, fullName, attributes, modifiers, source, location, signature, specializations,
    documentation, comments⟩ := c
  simp [callable, choice]

theorem contains_customType {t : CustomType} :
    customType.Contains x t ↔ (∃ a ∈ t.attributes, x = ⟨.typedExpression, a.argument⟩) ∨
      x = ⟨.resolvedType, t.type⟩ := by
  obtain ⟨fullName, attributes, modifiers, source, location, type, documentation, comments⟩ := t
  simp [customType]

theorem contains_namespaceElement {element : NamespaceElement} :
    namespaceElement.Contains x element ↔
      (∃ c, element.callable = some c ∧ callable.Contains x c) ∨
        ∃ t, element.customType = some t ∧ customType.Contains x t := by
  obtain ⟨kind, callable, customType⟩ := element
  simp [namespaceElement, discriminator]

theorem contains_namespace {ns : Namespace} :
    «namespace».Contains x ns ↔ ∃ element ∈ ns.elements, namespaceElement.Contains x element := by
  obtain ⟨name, elements, documentation⟩ := ns
  simp [«namespace»]

theorem contains_compilation {c : Compilation} :
    compilation.Contains x c ↔ ∃ ns ∈ c.namespaces, «namespace».Contains x ns := by
  obtain ⟨namespaces, entryPoints⟩ := c
  simp [compilation]

end Wire.Format

end WireTree
