import WireTree.Format.Tree
import WireTree.Proofs.Spelling.Shared

/-!
# What is written for trees

What is written for them spells them. There is one statement for each type of trees, proved from
those of its parts; for the recursive types it is proved by induction over the tree.
-/

namespace WireTree

/-! ## One layer of a recursive type -/

theorem ofList_map {α β : Type} (f : α → β) (write : β → Json) (values : List α) :
    Json.ofList write (values.map f) = Json.ofList (fun a => write (f a)) values := by
  simp [Json.ofList, Function.comp_def]

theorem ResolvedCharacteristics.toJson_mk (kind : CharacteristicsKind ResolvedCharacteristics) :
    toJson (mk kind) = kind.toJson toJson := by
  rw [toJson, fold_mk]
  cases kind <;> rfl

theorem ResolvedType.toJson_mk (kind : Kind ResolvedType) :
    toJson (mk kind) = kind.toJson toJson UserDefinedType.toJson TypeParameter.toJson
      CallableInformation.toJson := by
  rw [toJson, fold_mk]
  cases kind with
  | tupleType items => simp only [TypeKind.map, TypeKind.toJson, ofList_map]; rfl
  | _ => rfl

/-- A node of an expression as it is written, given how the expressions in it are. -/
def TypedExpression.Node.toJsonWith {E : Type} (expression : E → Json) (node : Node E) : Json :=
  .object
    [("expression", node.expression.toJson expression Identifier.toJson ResolvedType.toJson),
      ("typeArguments", .ofList TypeArgument.toJson node.typeArguments),
      ("resolvedType", node.resolvedType.toJson),
      ("inferredInformation", node.inferredInformation.toJson),
      ("range", .ofOption Range.toJson node.range)]

theorem TypedExpression.toJson_mk (node : Node TypedExpression) :
    toJson (mk node) = node.toJsonWith toJson := by
  obtain ⟨kind, typeArguments, resolvedType, inferredInformation, range⟩ := node
  rw [toJson, fold_mk]
  cases kind with
  | valueTuple items | valueArray items | stringLiteral _ items =>
    simp only [Node.toJson, Node.toJsonWith, Node.map, Typed.withExpression, ExpressionKind.map,
      ExpressionKind.toJson, ofList_map]
    rfl
  | _ => rfl

theorem Tuple.toJson_tuple {α : Type} (item : α → Json) (items : List (Tuple α)) :
    toJson item (tuple items) = .tagged "tuple" (.ofList (toJson item) items) := by
  rw [toJson, fold_tuple]
  rfl

/-! ## Trees without double literals -/

/-- The kind is not that of a double literal. -/
def ExpressionKind.IsNoDouble {E S T : Type} : ExpressionKind E S T → Prop
  | .doubleLiteral _ => False
  | _ => True

/-- There is no double literal in an expression. -/
def TypedExpression.WithoutDoubles : TypedExpression → Prop :=
  fold fun node => node.expression.IsNoDouble ∧ ∀ holds ∈ node.expression.expressions, holds

theorem TypedExpression.withoutDoubles_mk_iff {node : Node TypedExpression} :
    (mk node).WithoutDoubles ↔ node.expression.IsNoDouble ∧
      ∀ e ∈ node.expression.expressions, e.WithoutDoubles := by
  have sameKind : (node.expression.map WithoutDoubles).IsNoDouble ↔ node.expression.IsNoDouble := by
    cases node.expression <;> rfl
  rw [WithoutDoubles, fold_mk, ← WithoutDoubles]
  simp only [Node.map, Typed.withExpression, ExpressionKind.expressions_map, List.forall_mem_map,
    sameKind]

/-- There is no double literal in an attribute. -/
def DeclarationAttribute.WithoutDoubles (declared : DeclarationAttribute) : Prop :=
  declared.argument.WithoutDoubles

/-- There is no double literal in the attributes of a specialization. -/
def Specialization.WithoutDoubles (specialization : Specialization) : Prop :=
  ∀ declared ∈ specialization.attributes, declared.WithoutDoubles

/-- There is no double literal in the attributes of a callable and of its specializations. -/
structure Callable.WithoutDoubles (callable : Callable) : Prop where
  attributes : ∀ declared ∈ callable.attributes, declared.WithoutDoubles
  specializations : ∀ s ∈ callable.specializations, s.WithoutDoubles

/-- There is no double literal in the attributes of a user-defined type. -/
def CustomType.WithoutDoubles (customType : CustomType) : Prop :=
  ∀ declared ∈ customType.attributes, declared.WithoutDoubles

/-- There is no double literal in a declaration. -/
def NamespaceElement.WithoutDoubles : NamespaceElement → Prop
  | callable c => c.WithoutDoubles
  | customType t => t.WithoutDoubles

/-- There is no double literal in a namespace. -/
def Namespace.WithoutDoubles (ns : Namespace) : Prop :=
  ∀ element ∈ ns.elements, element.WithoutDoubles

/-- There is no double literal in a compilation. -/
def Compilation.WithoutDoubles (compilation : Compilation) : Prop :=
  ∀ ns ∈ compilation.namespaces, ns.WithoutDoubles

end WireTree

namespace WireTree.TreeFormat

open Format

variable {α β τ : Type}

/-! ## Names and unions -/

/-- The values of a type are found by their names in trees. -/
class FoundByName (α : Type) [Named α] : Prop where
  lookup_treeName : ∀ a : α, Named.treeNames.lookup (Named.treeName a) = some a

instance : FoundByName OpProperty := ⟨fun property => by cases property <;> decide⟩

instance : FoundByName ResultValue := ⟨fun value => by cases value <;> decide⟩

instance : FoundByName Pauli := ⟨fun value => by cases value <;> decide⟩

instance : FoundByName UnaryOperator := ⟨fun operator => by cases operator <;> decide⟩

instance : FoundByName BinaryOperator := ⟨fun operator => by cases operator <;> decide⟩

instance : FoundByName AccessModifier := ⟨fun access => by cases access <;> decide⟩

instance : FoundByName GeneratorDirective := ⟨fun directive => by cases directive <;> decide⟩

instance : FoundByName SpecializationKind := ⟨fun kind => by cases kind <;> decide⟩

instance : FoundByName CallableKind := ⟨fun kind => by cases kind <;> decide⟩

theorem spells_named [Named α] [FoundByName α] (a : α) :
    grammar.Spells (choice α) (.ofNamed a) a :=
  spells_choice (FoundByName.lookup_treeName a)

/-- The payloads of an alternative are spelled by the array of them. -/
theorem spells_payloads {union name : String} {items : Items (Schema grammar.Carrier) τ}
    {jsons : List Json} {values : τ} (spell : ItemsSpell grammar items jsons values) :
    grammar.Spells (payloads union name items) (.array jsons) values :=
  spells_tuple values spell

/-- Two values in an array. -/
theorem spells_pair {first : Schema grammar.Carrier α} {second : Schema grammar.Carrier β}
    {json json' : Json} {a : α} {b : β} (left : grammar.Spells first json a)
    (right : grammar.Spells second json' b) :
    grammar.Spells (pair first second) (.array [json, json']) (a, b) :=
  spells_tuple (a, b, ()) (.cons left <| .cons right .nil)

/-! ## Characteristics -/

theorem spells_characteristics (c : ResolvedCharacteristics) :
    grammar.Spells characteristics c.toJson c := by
  induction c using ResolvedCharacteristics.induct with
  | step kind ih =>
    rw [ResolvedCharacteristics.toJson_mk]
    refine spells_node ?_
    cases kind with
    | emptySet | invalidSetExpr => exact spells_bare rfl
    | simpleSet property => exact spells_tagged rfl (spells_named property) rfl
    | union left right | intersection left right =>
      have first := ih left (by simp [CharacteristicsKind.operands])
      have second := ih right (by simp [CharacteristicsKind.operands])
      exact spells_tagged rfl (spells_payloads (.cons first <| .cons second .nil)) rfl

theorem spells_inferredCallableInformation (i : InferredCallableInformation) :
    grammar.Spells inferredCallableInformation i.toJson i := by
  refine spells_record (i.isSelfAdjoint, i.isIntrinsic, ()) rfl ?_
  exact .cons (spells_boolean i.isSelfAdjoint) <| .cons (spells_boolean i.isIntrinsic) .nil

theorem spells_callableInformation (i : CallableInformation) :
    grammar.Spells callableInformation i.toJson i := by
  refine spells_record (i.characteristics, i.inferredInformation, ()) rfl ?_
  exact .cons (spells_characteristics i.characteristics) <|
    .cons (spells_inferredCallableInformation i.inferredInformation) .nil

/-! ## Types -/

theorem spells_resolvedType (t : ResolvedType) : grammar.Spells resolvedType t.toJson t := by
  induction t using ResolvedType.induct with
  | step kind ih =>
    rw [ResolvedType.toJson_mk]
    refine spells_node ?_
    cases kind with
    | arrayType item =>
      exact spells_tagged rfl (ih item (by simp [TypeKind.types])) rfl
    | tupleType items => exact spells_tagged rfl (spells_list ih) rfl
    | userDefinedType reference => exact spells_tagged rfl (spells_userDefinedType reference) rfl
    | typeParameter parameter => exact spells_tagged rfl (spells_typeParameter parameter) rfl
    | operation domain codomain c =>
      have first := ih domain (by simp [TypeKind.types])
      have second := ih codomain (by simp [TypeKind.types])
      have third := spells_callableInformation c
      exact spells_tagged rfl
        (spells_payloads (.cons (spells_pair first second) <| .cons third .nil)) rfl
    | function domain codomain =>
      have first := ih domain (by simp [TypeKind.types])
      have second := ih codomain (by simp [TypeKind.types])
      exact spells_tagged rfl (spells_payloads (.cons first <| .cons second .nil)) rfl
    | _ => exact spells_bare rfl

/-! ## Expressions -/

theorem spells_identifier (i : Identifier) : grammar.Spells identifier i.toJson i := by
  cases i with
  | localVariable name => exact spells_tagged rfl (spells_string name) rfl
  | globalCallable name => exact spells_tagged rfl (spells_qualifiedName name) rfl
  | invalidIdentifier => exact spells_bare rfl

/-- A list of types that may be absent. -/
theorem spells_optionalTypes (types : Option (List ResolvedType)) :
    grammar.Spells (.optional (list resolvedType))
      (.ofOption (.ofList ResolvedType.toJson) types) types :=
  spells_optional (fun _ => nofun) fun _ _ => spells_list fun t _ => spells_resolvedType t

theorem spells_expressionKind {kind : ExpressionKind TypedExpression Identifier ResolvedType}
    (noDouble : kind.IsNoDouble)
    (each : ∀ e ∈ kind.expressions, grammar.Spells typedExpression e.toJson e) :
    grammar.Spells expressionKind
      (kind.toJson TypedExpression.toJson Identifier.toJson ResolvedType.toJson) kind := by
  cases kind with
  | doubleLiteral value => exact noDouble.elim
  | identifier symbol types =>
    exact spells_tagged rfl (spells_payloads
      (.cons (spells_identifier symbol) <| .cons (spells_optionalTypes types) .nil)) rfl
  | valueTuple items | valueArray items => exact spells_tagged rfl (spells_list each) rfl
  | intLiteral value => exact spells_tagged rfl (spells_int64 value) rfl
  | bigIntLiteral value => exact spells_tagged rfl (spells_bigInteger value) rfl
  | boolLiteral value => exact spells_tagged rfl (spells_boolean value) rfl
  | stringLiteral text items =>
    exact spells_tagged rfl (spells_payloads
      (.cons (spells_string text) <| .cons (spells_list each) .nil)) rfl
  | resultLiteral value => exact spells_tagged rfl (spells_named value) rfl
  | pauliLiteral value => exact spells_tagged rfl (spells_named value) rfl
  | newArray type length =>
    have second := each length (by simp [ExpressionKind.expressions])
    exact spells_tagged rfl (spells_payloads
      (.cons (spells_resolvedType type) <| .cons second .nil)) rfl
  | namedItem accessed item =>
    have first := each accessed (by simp [ExpressionKind.expressions])
    exact spells_tagged rfl (spells_payloads
      (.cons first <| .cons (spells_identifier item) .nil)) rfl
  | unaryOperation operator operand =>
    have first := each operand (by simp [ExpressionKind.expressions])
    exact spells_tagged rfl (spells_payloads
      (.cons (spells_named operator) <| .cons first .nil)) rfl
  | binaryOperation operator left right =>
    have first := each left (by simp [ExpressionKind.expressions])
    have second := each right (by simp [ExpressionKind.expressions])
    exact spells_tagged rfl (spells_payloads
      (.cons (spells_named operator) <| .cons first <| .cons second .nil)) rfl
  | unwrapApplication a | adjointApplication a | controlledApplication a =>
    exact spells_tagged rfl (each a (by simp [ExpressionKind.expressions])) rfl
  | rangeLiteral a b | arrayItem a b | callLikeExpression a b =>
    have first := each a (by simp [ExpressionKind.expressions])
    have second := each b (by simp [ExpressionKind.expressions])
    exact spells_tagged rfl (spells_payloads (.cons first <| .cons second .nil)) rfl
  | conditional a b c | copyAndUpdate a b c =>
    have first := each a (by simp [ExpressionKind.expressions])
    have second := each b (by simp [ExpressionKind.expressions])
    have third := each c (by simp [ExpressionKind.expressions])
    exact spells_tagged rfl (spells_payloads
      (.cons first <| .cons second <| .cons third .nil)) rfl
  | unitValue | missingExpr | invalidExpr => exact spells_bare rfl

theorem spells_typeArgument (a : TypeArgument ResolvedType) :
    grammar.Spells typeArgument a.toJson a := by
  refine spells_record (a.callable, a.name, a.type, ()) rfl ?_
  exact .cons (spells_qualifiedName a.callable) <| .cons (spells_string a.name) <|
    .cons (spells_resolvedType a.type) .nil

theorem spells_inferredExpressionInformation (i : InferredExpressionInformation) :
    grammar.Spells inferredExpressionInformation i.toJson i := by
  refine spells_record (i.isMutable, i.hasLocalQuantumDependency, ()) rfl ?_
  exact .cons (spells_boolean i.isMutable) <|
    .cons (spells_boolean i.hasLocalQuantumDependency) .nil

theorem spells_typedExpression {e : TypedExpression} (withoutDoubles : e.WithoutDoubles) :
    grammar.Spells typedExpression e.toJson e := by
  induction e using TypedExpression.induct with
  | step node ih =>
    -- the induction is for the expressions in the node; the other parts are no expressions
    obtain ⟨noDouble, below⟩ := TypedExpression.withoutDoubles_mk_iff.mp withoutDoubles
    have expression := spells_expressionKind noDouble fun e member => ih e member (below e member)
    rw [TypedExpression.toJson_mk]
    refine spells_node ?_
    refine spells_record (node.expression, node.typeArguments, node.resolvedType,
      node.inferredInformation, node.range, ()) rfl ?_
    exact .cons expression <|
      .cons (spells_list fun argument _ => spells_typeArgument argument) <|
      .cons (spells_resolvedType node.resolvedType) <|
      .cons (spells_inferredExpressionInformation node.inferredInformation) <|
      .cons (spells_optionalRange node.range) .nil

/-! ## Parameters and items -/

theorem spells_localSymbol (s : LocalSymbol) : grammar.Spells localSymbol s.toJson s := by
  cases s with
  | validName name => exact spells_tagged rfl (spells_string name) rfl
  | invalidName => exact spells_bare rfl

theorem spells_localVariableDeclaration {N : Type} {variableName : Form N} {write : N → Json}
    (spells : ∀ n, grammar.Spells variableName (write n) n) (d : LocalVariableDeclaration N) :
    grammar.Spells (localVariableDeclaration variableName) (d.toJson write) d := by
  have position : grammar.Spells (.optional Format.position)
      (.ofOption Position.toJson d.position) d.position :=
    spells_optional (fun _ => nofun) fun p _ => spells_position p
  refine spells_record (d.variableName, d.type, d.inferredInformation, d.position, d.range, ())
    rfl ?_
  exact .cons (spells d.variableName) <| .cons (spells_resolvedType d.type) <|
    .cons (spells_inferredExpressionInformation d.inferredInformation) <|
    .cons position <| .cons (spells_range d.range) .nil

theorem spells_typeItem (t : TypeItem) : grammar.Spells typeItem t.toJson t := by
  cases t with
  | named item =>
    exact spells_tagged rfl (spells_localVariableDeclaration spells_string item) rfl
  | anonymous type => exact spells_tagged rfl (spells_resolvedType type) rfl

theorem spells_argumentTuple (t : ArgumentTuple) :
    grammar.Spells argumentTuple (ArgumentTuple.toJson t) t := by
  induction t using Tuple.induct with
  | onItem value =>
    have item := spells_localVariableDeclaration spells_localSymbol value
    exact spells_node (spells_tagged rfl item rfl)
  | onTuple items ih =>
    rw [ArgumentTuple.toJson, Tuple.toJson_tuple]
    exact spells_node (spells_tagged rfl (spells_list ih) rfl)

theorem spells_typeItems (t : Tuple TypeItem) :
    grammar.Spells typeItems (t.toJson TypeItem.toJson) t := by
  induction t using Tuple.induct with
  | onItem value => exact spells_node (spells_tagged rfl (spells_typeItem value) rfl)
  | onTuple items ih =>
    rw [Tuple.toJson_tuple]
    exact spells_node (spells_tagged rfl (spells_list ih) rfl)

theorem spells_deferred {part : Form α} {write : α → Json}
    (spells : ∀ a, grammar.Spells part (write a) a) (d : Deferred α) :
    grammar.Spells (deferred part) (d.toJson write) d := by
  cases d with
  | pending => exact spells_bare rfl
  | decoded value => exact spells_tagged rfl (spells value) rfl

/-! ## Declarations -/

theorem spells_texts (texts : List String) :
    grammar.Spells (list string) (.ofTexts texts) texts :=
  spells_list fun s _ => spells_string s

theorem spells_comments (c : Comments) : grammar.Spells comments c.toJson c := by
  refine spells_record (c.openingComments, c.closingComments, ()) rfl ?_
  exact .cons (spells_texts c.openingComments) <| .cons (spells_texts c.closingComments) .nil

theorem spells_modifiers (m : Modifiers) : grammar.Spells modifiers m.toJson m := by
  exact spells_record (m.access, ()) rfl (.cons (spells_named m.access) .nil)

theorem spells_source (s : Source) : grammar.Spells source s.toJson s := by
  have assemblyFile : grammar.Spells (.optional string) (.ofOption .text s.assemblyFile)
      s.assemblyFile :=
    spells_optional (fun _ => nofun) fun file _ => spells_string file
  refine spells_record (s.codeFile, s.assemblyFile, ()) rfl ?_
  exact .cons (spells_string s.codeFile) <| .cons assemblyFile .nil

/-- A location that may be absent. -/
theorem spells_optionalLocation (location : Option Location) :
    grammar.Spells (.optional Format.location) (.ofOption Location.toJson location) location :=
  spells_optional (fun _ => nofun) fun l _ => spells_location l

theorem spells_declarationAttribute {a : DeclarationAttribute}
    (withoutDoubles : a.WithoutDoubles) : grammar.Spells declarationAttribute a.toJson a := by
  have typeId : grammar.Spells (.optional userDefinedType)
      (.ofOption UserDefinedType.toJson a.typeId) a.typeId :=
    spells_optional (fun _ => nofun) fun t _ => spells_userDefinedType t
  refine spells_record (a.typeId, a.typeIdRange, a.argument, a.offset, a.comments, ()) rfl ?_
  exact .cons typeId <| .cons (spells_optionalRange a.typeIdRange) <|
    .cons (spells_typedExpression withoutDoubles) <| .cons (spells_position a.offset) <|
    .cons (spells_comments a.comments) .nil

theorem spells_resolvedSignature (s : ResolvedSignature) :
    grammar.Spells resolvedSignature s.toJson s := by
  refine spells_record (s.typeParameters, s.argumentType, s.returnType, s.information, ()) rfl ?_
  exact .cons (spells_list fun symbol _ => spells_localSymbol symbol) <|
    .cons (spells_resolvedType s.argumentType) <| .cons (spells_resolvedType s.returnType) <|
    .cons (spells_callableInformation s.information) .nil

theorem spells_specializationImplementation (i : SpecializationImplementation) :
    grammar.Spells specializationImplementation i.toJson i := by
  cases i with
  | intrinsic | external => exact spells_bare rfl
  | generated directive => exact spells_tagged rfl (spells_named directive) rfl
  | provided arguments => exact spells_tagged rfl (spells_argumentTuple arguments) rfl

theorem spells_specialization {s : Specialization} (withoutDoubles : s.WithoutDoubles) :
    grammar.Spells specialization s.toJson s := by
  refine spells_record (s.kind, s.parent, s.attributes, s.source, s.location, s.typeArguments,
    s.signature, s.implementation, s.documentation, s.comments, ()) rfl ?_
  exact .cons (spells_named s.kind) <| .cons (spells_qualifiedName s.parent) <|
    .cons (spells_list fun a member => spells_declarationAttribute (withoutDoubles a member)) <|
    .cons (spells_source s.source) <| .cons (spells_optionalLocation s.location) <|
    .cons (spells_optionalTypes s.typeArguments) <|
    .cons (spells_deferred spells_resolvedSignature s.signature) <|
    .cons (spells_deferred spells_specializationImplementation s.implementation) <|
    .cons (spells_deferred spells_texts s.documentation) <|
    .cons (spells_deferred spells_comments s.comments) .nil

theorem spells_callable {c : Callable} (withoutDoubles : c.WithoutDoubles) :
    grammar.Spells callable c.toJson c := by
  obtain ⟨attributes, specializations⟩ := withoutDoubles
  refine spells_record (c.kind, c.fullName, c.attributes, c.modifiers, c.source, c.location,
    c.signature, c.argumentTuple, c.specializations, c.documentation, c.comments, ()) rfl ?_
  exact .cons (spells_named c.kind) <| .cons (spells_qualifiedName c.fullName) <|
    .cons (spells_list fun a member => spells_declarationAttribute (attributes a member)) <|
    .cons (spells_modifiers c.modifiers) <| .cons (spells_source c.source) <|
    .cons (spells_optionalLocation c.location) <|
    .cons (spells_resolvedSignature c.signature) <|
    .cons (spells_deferred spells_argumentTuple c.argumentTuple) <|
    .cons (spells_list fun s member => spells_specialization (specializations s member)) <|
    .cons (spells_texts c.documentation) <| .cons (spells_comments c.comments) .nil

theorem spells_customType {t : CustomType} (withoutDoubles : t.WithoutDoubles) :
    grammar.Spells customType t.toJson t := by
  refine spells_record (t.fullName, t.attributes, t.modifiers, t.source, t.location, t.type,
    t.typeItems, t.documentation, t.comments, ()) rfl ?_
  exact .cons (spells_qualifiedName t.fullName) <|
    .cons (spells_list fun a member => spells_declarationAttribute (withoutDoubles a member)) <|
    .cons (spells_modifiers t.modifiers) <| .cons (spells_source t.source) <|
    .cons (spells_optionalLocation t.location) <| .cons (spells_resolvedType t.type) <|
    .cons (spells_deferred spells_typeItems t.typeItems) <|
    .cons (spells_texts t.documentation) <| .cons (spells_comments t.comments) .nil

theorem spells_namespaceElement {element : NamespaceElement}
    (withoutDoubles : element.WithoutDoubles) :
    grammar.Spells namespaceElement element.toJson element := by
  cases element with
  | callable c => exact spells_tagged rfl (spells_callable withoutDoubles) rfl
  | customType t => exact spells_tagged rfl (spells_customType withoutDoubles) rfl

/-! ## Compilations -/

/-- Documentation as JSON, given by pairs of which several may be about one file. -/
def pairsToJson (pairs : List (String × List (List String))) : Json :=
  .object (pairs.map fun pair => (pair.1, .ofList .ofTexts pair.2))

/-- A namespace as JSON, with such documentation. -/
def namespaceToJson (name : String) (elements : List NamespaceElement)
    (pairs : List (String × List (List String))) : Json :=
  .object [("name", .text name), ("elements", .ofList NamespaceElement.toJson elements),
    ("documentation", pairsToJson pairs)]

theorem spells_namespace_pairs (name : String) {elements : List NamespaceElement}
    (withoutDoubles : ∀ element ∈ elements, element.WithoutDoubles)
    (pairs : List (String × List (List String))) :
    grammar.Spells «namespace» (namespaceToJson name elements pairs)
      ⟨name, elements, Table.ofList pairs⟩ := by
  have documentation : grammar.Spells (.table (list (list string))) (pairsToJson pairs)
      (Table.ofList pairs) :=
    spells_pairs fun _ _ => spells_list fun texts _ => spells_texts texts
  refine spells_record (name, elements, Table.ofList pairs, ()) rfl ?_
  exact .cons (spells_string name) <|
    .cons (spells_list fun element member =>
      spells_namespaceElement (withoutDoubles element member)) <|
    .cons documentation .nil

theorem spells_namespace {ns : Namespace} (withoutDoubles : ns.WithoutDoubles) :
    grammar.Spells «namespace» ns.toJson ns := by
  have spelled := spells_namespace_pairs ns.name withoutDoubles ns.documentation.entries
  rwa [Table.ofList_entries] at spelled

theorem spells_compilation {c : Compilation} (withoutDoubles : c.WithoutDoubles) :
    grammar.Spells compilation c.toJson c := by
  refine spells_record (c.namespaces, c.entryPoints, ()) rfl ?_
  exact .cons (spells_list fun ns member => spells_namespace (withoutDoubles ns member)) <|
    .cons (spells_list fun name _ => spells_qualifiedName name) .nil

end WireTree.TreeFormat
