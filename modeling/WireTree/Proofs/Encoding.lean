import WireTree.Proofs.Decodes
import WireTree.Proofs.Documentation

/-!
# From trees back to the wire

Each tree has a wire record in which the slots that its kinds do not select are empty; only what
decoding leaves pending, entry points and files without documentation have no place there.
Main statement: decoding undoes encoding, and the trees that can be decoded from something are
exactly those of which nothing is lost on the way to the wire (`exact_images`).
-/

namespace WireTree

/-! ## Trees that decoding can yield -/

/-- Nothing of a specialization is filled in that the wire does not hold. -/
structure Specialization.Attainable (specialization : Specialization) : Prop where
  signature : specialization.signature = .pending
  implementation : specialization.implementation = .pending
  documentation : specialization.documentation = .pending
  comments : specialization.comments = .pending

/-- Nothing of a callable is filled in that the wire does not hold. -/
structure Callable.Attainable (callable : Callable) : Prop where
  argumentTuple : callable.argumentTuple = .pending
  specializations : ∀ s ∈ callable.specializations, s.Attainable

/-- Nothing of a user-defined type is filled in that the wire does not hold. -/
def CustomType.Attainable (customType : CustomType) : Prop :=
  customType.typeItems = .pending

/-- Nothing of a declaration is filled in that the wire does not hold. -/
def NamespaceElement.Attainable : NamespaceElement → Prop
  | callable c => c.Attainable
  | customType t => t.Attainable

/-- Nothing of the declarations is filled in that the wire does not hold, and every file of the
documentation has a block. -/
structure Namespace.Attainable (ns : Namespace) : Prop where
  elements : ∀ element ∈ ns.elements, element.Attainable
  documentation : ∀ entry ∈ ns.documentation.entries, entry.2 ≠ []

/-- Nothing of the namespaces is filled in that the wire does not hold, and there are no entry
points. -/
structure Compilation.Attainable (compilation : Compilation) : Prop where
  namespaces : ∀ ns ∈ compilation.namespaces, ns.Attainable
  entryPoints : compilation.entryPoints = []

/-- Decoding undoes encoding for certain trees, and yields these trees and no others. -/
def ExactImage {W T : Type} (decode : W → Decoded T) (encode : T → W) (Attainable : T → Prop) :
    Prop :=
  ∀ tree, (Attainable tree → decode (encode tree) = .ok tree) ∧
    ((∃ wire, decode wire = .ok tree) ↔ Attainable tree)

namespace ExactImage

variable {W T : Type} {decode : W → Decoded T} {encode : T → W} {Attainable : T → Prop}

theorem of (undone : ∀ {tree}, Attainable tree → decode (encode tree) = .ok tree)
    (sound : ∀ {wire tree}, decode wire = .ok tree → Attainable tree) :
    ExactImage decode encode Attainable := by
  intro tree
  refine ⟨undone, ?_, ?_⟩
  · rintro ⟨wire, decoded⟩
    exact sound decoded
  · intro attainable
    exact ⟨encode tree, undone attainable⟩

/-- Every tree can be decoded from something. -/
theorem of_total (undone : ∀ tree, decode (encode tree) = .ok tree) :
    ExactImage decode encode fun _ => True :=
  of (fun _ => undone _) fun _ => trivial

end ExactImage

/-- A list is decoded from the encoded members if each member is. -/
theorem mapM_map_eq_ok {W T : Type} {decode : W → Decoded T} {encode : T → W} {trees : List T}
    (each : ∀ t ∈ trees, decode (encode t) = .ok t) :
    (trees.map encode).mapM decode = .ok trees := by
  rw [mapM_eq_ok_iff]
  exact forall₂_map_self each

/-- What holds of every tree that is decoded holds of every member of a list that is. -/
theorem forall_mem_of_mapM_eq_ok {W T : Type} {decode : W → Decoded T} {P : T → Prop}
    (sound : ∀ {wire tree}, decode wire = .ok tree → P tree) {wires : List W} {trees : List T}
    (decoded : wires.mapM decode = .ok trees) : ∀ t ∈ trees, P t := by
  have related := mapM_eq_ok_iff.mp decoded
  clear decoded
  induction related with
  | nil => nofun
  | cons first _ ih =>
    intro t member
    rcases List.mem_cons.mp member with rfl | member
    · exact sound first
    · exact ih t member

namespace Wire

/-! ## Characteristics and types -/

namespace CharacteristicsSlots

variable {C D : Type}

/-- The slots of an expression, all but the one that it needs being empty. -/
def ofTree : CharacteristicsKind C → CharacteristicsSlots C
  | .emptySet => ⟨.known .emptySet, none, none⟩
  | .simpleSet property => ⟨.known .simpleSet, some property, none⟩
  | .union left right => ⟨.known .union, none, some ⟨left, right⟩⟩
  | .intersection left right => ⟨.known .intersection, none, some ⟨left, right⟩⟩
  | .invalidSetExpr => ⟨.known .invalidSetExpr, none, none⟩

theorem select_ofTree (kind : CharacteristicsKind C) : (ofTree kind).select = .ok kind := by
  cases kind <;> rfl

theorem decodeWith_ofTree {encode : D → C} {decode : C → Decoded D} {kind : CharacteristicsKind D}
    (operands : ∀ c ∈ kind.operands, decode (encode c) = .ok c) :
    (ofTree (kind.map encode)).decodeWith decode = .ok kind := by
  rw [decodeWith_eq_bind, select_ofTree]
  refine CharacteristicsKind.traverse_eq_ok_iff.mpr ?_
  cases kind with
  | union left right | intersection left right =>
    constructor
    · exact operands left (by simp [CharacteristicsKind.operands])
    · exact operands right (by simp [CharacteristicsKind.operands])
  | simpleSet property => exact .simpleSet rfl
  | emptySet | invalidSetExpr => constructor

end CharacteristicsSlots

namespace ResolvedCharacteristics

/-- A characteristics expression on the wire. -/
def encode : WireTree.ResolvedCharacteristics → ResolvedCharacteristics :=
  WireTree.ResolvedCharacteristics.fold fun kind => .mk (.ofTree kind)

theorem decode_encode (tree : WireTree.ResolvedCharacteristics) :
    (encode tree).decode = .ok tree := by
  induction tree using WireTree.ResolvedCharacteristics.induct with
  | step kind ih =>
    rw [encode, WireTree.ResolvedCharacteristics.fold_mk, ← encode, decode_mk_eq_ok_iff]
    exact CharacteristicsSlots.decodeWith_ofTree ih

end ResolvedCharacteristics

namespace CallableInformation

/-- What is known of a callable, on the wire. -/
def encode (tree : WireTree.CallableInformation) : CallableInformation :=
  ⟨.encode tree.characteristics, tree.inferredInformation⟩

theorem decode_encode (tree : WireTree.CallableInformation) : (encode tree).decode = .ok tree :=
  decode_eq_ok_iff.mpr ⟨ResolvedCharacteristics.decode_encode tree.characteristics, rfl⟩

end CallableInformation

namespace TypeSlots

variable {T T' U P C C' : Type}

/-- The slots of a type, all but the one that it needs being empty. -/
def ofTree (known : C' → C) : TypeKind T U P C' → TypeSlots T U P C
  | .unitType => empty .unitType
  | .int => empty .int
  | .bigInt => empty .bigInt
  | .double => empty .double
  | .bool => empty .bool
  | .string => empty .string
  | .qubit => empty .qubit
  | .result => empty .result
  | .pauli => empty .pauli
  | .range => empty .range
  | .arrayType item => { empty .arrayType with arrayType := some item }
  | .tupleType items => { empty .tupleType with tupleType := some items }
  | .userDefinedType reference => { empty .userDefinedType with userDefinedType := some reference }
  | .typeParameter parameter => { empty .typeParameter with typeParameter := some parameter }
  | .operation domain codomain characteristics =>
    { empty .operation with operation := some ⟨domain, codomain, known characteristics⟩ }
  | .function domain codomain => { empty .function with function := some ⟨domain, codomain⟩ }
  | .missingType => empty .missingType
  | .invalidType => empty .invalidType
where
  /-- The slots of a kind, all of them empty. -/
  empty (kind : TypeTag) : TypeSlots T U P C :=
    { kind := .known kind
      arrayType := none
      tupleType := none
      userDefinedType := none
      typeParameter := none
      operation := none
      function := none }

theorem decodeWith_ofTree {encode : T' → T} {decode : T → Decoded T'} {known : C' → C}
    {characteristics : C → Decoded C'} {kind : TypeKind T' U P C'}
    (types : ∀ t ∈ kind.types, decode (encode t) = .ok t)
    (information : ∀ c, characteristics (known c) = .ok c) :
    (ofTree known (kind.map encode)).decodeWith decode pure pure characteristics =
      .ok kind := by
  rw [decodeWith_eq_bind, bind_eq_ok_iff]
  cases kind with
  | arrayType item =>
    refine ⟨.arrayType (encode item), rfl, TypeKind.traverse_eq_ok_iff.mpr ?_⟩
    exact .arrayType (types item (by simp [TypeKind.types]))
  | tupleType items =>
    refine ⟨.tupleType (items.map encode), rfl, TypeKind.traverse_eq_ok_iff.mpr ?_⟩
    exact .tupleType (forall₂_map_self types)
  | operation domain codomain c =>
    refine ⟨.operation (encode domain) (encode codomain) (known c), rfl,
      TypeKind.traverse_eq_ok_iff.mpr ?_⟩
    have first := types domain (by simp [TypeKind.types])
    have second := types codomain (by simp [TypeKind.types])
    exact .operation first second (information c)
  | function domain codomain =>
    refine ⟨.function (encode domain) (encode codomain), rfl,
      TypeKind.traverse_eq_ok_iff.mpr ?_⟩
    have first := types domain (by simp [TypeKind.types])
    have second := types codomain (by simp [TypeKind.types])
    exact .function first second
  | _ => exact ⟨_, rfl, rfl⟩

end TypeSlots

namespace ResolvedType

/-- A type on the wire. -/
def encode : WireTree.ResolvedType → ResolvedType :=
  WireTree.ResolvedType.fold fun kind => .mk (.ofTree CallableInformation.encode kind)

theorem decode_encode (tree : WireTree.ResolvedType) : (encode tree).decode = .ok tree := by
  induction tree using WireTree.ResolvedType.induct with
  | step kind ih =>
    rw [encode, WireTree.ResolvedType.fold_mk, ← encode, decode_mk_eq_ok_iff]
    exact TypeSlots.decodeWith_ofTree ih CallableInformation.decode_encode

end ResolvedType

/-! ## Expressions -/

namespace Identifier

/-- An identifier on the wire. -/
def encode : WireTree.Identifier → Identifier
  | .localVariable name => ⟨.known .localVariable, some name, none⟩
  | .globalCallable name => ⟨.known .globalCallable, none, some name⟩
  | .invalidIdentifier => ⟨.known .invalidIdentifier, none, none⟩

theorem decode_encode (tree : WireTree.Identifier) : (encode tree).decode = .ok tree := by
  cases tree <;> rfl

end Identifier

theorem decodeBigInteger_toBytes (n : Int) : decodeBigInteger (BigInteger.toBytes n) = .ok n := by
  have some_byte : (BigInteger.toBytes n).isEmpty = false := by
    simpa using BigInteger.toBytes_ne_nil n
  simp [decodeBigInteger, some_byte, BigInteger.ofBytes_toBytes]

namespace ExpressionSlots

variable {E E' S S' T T' : Type}

/-- The slots of an expression, all but the one that it needs being empty. -/
def ofTree (symbol : S' → S) (type : T' → T) : ExpressionKind E S' T' → ExpressionSlots E S T
  | .unitValue => empty .unitValue
  | .identifier s types =>
    { empty .identifier with identifier := some ⟨symbol s, types.map (List.map type)⟩ }
  | .valueTuple items => { empty .valueTuple with expressionArray := some items }
  | .intLiteral value => { empty .intLiteral with intLiteral := value }
  | .bigIntLiteral value =>
    { empty .bigIntLiteral with bigIntLiteral := some (BigInteger.toBytes value) }
  | .doubleLiteral value => { empty .doubleLiteral with doubleLiteral := value }
  | .boolLiteral value => { empty .boolLiteral with boolLiteral := value }
  | .stringLiteral text items => { empty .stringLiteral with stringLiteral := some ⟨text, items⟩ }
  | .resultLiteral value => { empty .resultLiteral with resultLiteral := some value }
  | .pauliLiteral value => { empty .pauliLiteral with pauliLiteral := some value }
  | .rangeLiteral first last =>
    { empty .rangeLiteral with expressionDouble := some ⟨first, last⟩ }
  | .newArray t length => { empty .newArray with newArray := some ⟨type t, length⟩ }
  | .valueArray items => { empty .valueArray with expressionArray := some items }
  | .arrayItem array index => { empty .arrayItem with expressionDouble := some ⟨array, index⟩ }
  | .namedItem accessed item =>
    { empty .namedItem with namedItem := some ⟨accessed, symbol item⟩ }
  | .unaryOperation operator operand =>
    { empty operator.tag with expressionSingle := some operand }
  | .binaryOperation operator left right =>
    { empty operator.tag with expressionDouble := some ⟨left, right⟩ }
  | .conditional condition then_ else_ =>
    { empty .conditional with expressionTriple := some ⟨condition, then_, else_⟩ }
  | .copyAndUpdate copied item value =>
    { empty .copyAndUpdate with expressionTriple := some ⟨copied, item, value⟩ }
  | .unwrapApplication operand =>
    { empty .unwrapApplication with expressionSingle := some operand }
  | .adjointApplication operand =>
    { empty .adjointApplication with expressionSingle := some operand }
  | .controlledApplication operand =>
    { empty .controlledApplication with expressionSingle := some operand }
  | .callLikeExpression callee argument =>
    { empty .callLikeExpression with expressionDouble := some ⟨callee, argument⟩ }
  | .missingExpr => empty .missingExpr
  | .invalidExpr => empty .invalidExpr
where
  /-- The slots of a kind, all of them empty. -/
  empty (kind : ExpressionTag) : ExpressionSlots E S T := ofKind kind

theorem decodeWith_ofTree {encode : E' → E} {decode : E → Decoded E'} {symbol : S' → S}
    {decodeSymbol : S → Decoded S'} {type : T' → T} {decodeType : T → Decoded T'}
    {kind : ExpressionKind E' S' T'}
    (expressions : ∀ e ∈ kind.expressions, decode (encode e) = .ok e)
    (symbols : ∀ s, decodeSymbol (symbol s) = .ok s)
    (types : ∀ t, decodeType (type t) = .ok t) :
    (ofTree symbol type (kind.map encode)).decodeWith decode decodeSymbol decodeType =
      .ok kind := by
  rw [decodeWith_eq_bind, bind_eq_ok_iff]
  cases kind with
  | identifier s ts =>
    refine ⟨.identifier (symbol s) (ts.map (List.map type)), rfl,
      ExpressionKind.traverse_eq_ok_iff.mpr ?_⟩
    refine .identifier (symbols s) ?_
    cases ts with
    | none => exact .none
    | some ts =>
      exact .some (forall₂_map_self fun t _ => types t)
  | bigIntLiteral n =>
    refine ⟨.bigIntLiteral n, ?_, rfl⟩
    have spelled := decodeBigInteger_toBytes n
    exact bind_eq_ok_iff.mpr ⟨_, rfl, bind_eq_ok_iff.mpr ⟨n, spelled, rfl⟩⟩
  | valueTuple items =>
    refine ⟨.valueTuple (items.map encode), rfl, ExpressionKind.traverse_eq_ok_iff.mpr ?_⟩
    exact .valueTuple (forall₂_map_self expressions)
  | valueArray items =>
    refine ⟨.valueArray (items.map encode), rfl, ExpressionKind.traverse_eq_ok_iff.mpr ?_⟩
    exact .valueArray (forall₂_map_self expressions)
  | stringLiteral text items =>
    refine ⟨.stringLiteral text (items.map encode), rfl,
      ExpressionKind.traverse_eq_ok_iff.mpr ?_⟩
    exact .stringLiteral rfl (forall₂_map_self expressions)
  | newArray t length =>
    refine ⟨.newArray (type t) (encode length), rfl, ExpressionKind.traverse_eq_ok_iff.mpr ?_⟩
    exact .newArray (types t) (expressions length (by simp [ExpressionKind.expressions]))
  | namedItem accessed item =>
    refine ⟨.namedItem (encode accessed) (symbol item), rfl,
      ExpressionKind.traverse_eq_ok_iff.mpr ?_⟩
    exact .namedItem (expressions accessed (by simp [ExpressionKind.expressions])) (symbols item)
  | unaryOperation operator operand =>
    have first := expressions operand (by simp [ExpressionKind.expressions])
    refine ⟨.unaryOperation operator (encode operand), ?_,
      ExpressionKind.traverse_eq_ok_iff.mpr (.unaryOperation operator first)⟩
    cases operator <;> rfl
  | binaryOperation operator left right =>
    have first := expressions left (by simp [ExpressionKind.expressions])
    have second := expressions right (by simp [ExpressionKind.expressions])
    refine ⟨.binaryOperation operator (encode left) (encode right), ?_,
      ExpressionKind.traverse_eq_ok_iff.mpr (.binaryOperation operator first second)⟩
    cases operator <;> rfl
  | unwrapApplication a | adjointApplication a | controlledApplication a =>
    have first := expressions a (by simp [ExpressionKind.expressions])
    refine ⟨_, rfl, ExpressionKind.traverse_eq_ok_iff.mpr ?_⟩
    constructor
    exact first
  | rangeLiteral a b | arrayItem a b | callLikeExpression a b =>
    have first := expressions a (by simp [ExpressionKind.expressions])
    have second := expressions b (by simp [ExpressionKind.expressions])
    refine ⟨_, rfl, ExpressionKind.traverse_eq_ok_iff.mpr ?_⟩
    constructor
    · exact first
    · exact second
  | conditional a b c | copyAndUpdate a b c =>
    have first := expressions a (by simp [ExpressionKind.expressions])
    have second := expressions b (by simp [ExpressionKind.expressions])
    have third := expressions c (by simp [ExpressionKind.expressions])
    refine ⟨_, rfl, ExpressionKind.traverse_eq_ok_iff.mpr ?_⟩
    constructor
    · exact first
    · exact second
    · exact third
  | _ => exact ⟨_, rfl, rfl⟩

end ExpressionSlots

/-- A type argument on the wire. -/
def encodeTypeArgument (tree : TypeArgument WireTree.ResolvedType) : TypeArgument ResolvedType :=
  ⟨tree.callable, tree.name, .encode tree.type⟩

theorem decodeTypeArgument_encode (tree : TypeArgument WireTree.ResolvedType) :
    decodeTypeArgument (encodeTypeArgument tree) = .ok tree :=
  decodeTypeArgument_eq_ok_iff.mpr ⟨rfl, rfl, ResolvedType.decode_encode tree.type⟩

namespace TypedExpression

/-- A typed expression on the wire. -/
def encode : WireTree.TypedExpression → TypedExpression :=
  WireTree.TypedExpression.fold fun node =>
    .mk
      { expression := .ofTree Identifier.encode ResolvedType.encode node.expression
        typeArguments := node.typeArguments.map encodeTypeArgument
        resolvedType := .encode node.resolvedType
        inferredInformation := node.inferredInformation
        range := node.range }

theorem decode_encode (tree : WireTree.TypedExpression) : (encode tree).decode = .ok tree := by
  induction tree using WireTree.TypedExpression.induct with
  | step node ih =>
    rw [encode, WireTree.TypedExpression.fold_mk, ← encode, decode_mk_eq_ok_iff]
    exact
      { expression := ExpressionSlots.decodeWith_ofTree ih Identifier.decode_encode
          ResolvedType.decode_encode
        typeArguments := mapM_map_eq_ok fun argument _ => decodeTypeArgument_encode argument
        resolvedType := ResolvedType.decode_encode node.resolvedType
        inferredInformation := rfl
        range := rfl }

end TypedExpression

/-! ## Declarations -/

namespace LocalSymbol

/-- A local symbol on the wire. -/
def encode : WireTree.LocalSymbol → LocalSymbol
  | .validName name => ⟨.known .validName, some name⟩
  | .invalidName => ⟨.known .invalidName, none⟩

theorem decode_encode (tree : WireTree.LocalSymbol) : (encode tree).decode = .ok tree := by
  cases tree <;> rfl

end LocalSymbol

namespace DeclarationAttribute

/-- An attribute on the wire. -/
def encode (tree : WireTree.DeclarationAttribute) : DeclarationAttribute :=
  { typeId := tree.typeId
    typeIdRange := tree.typeIdRange
    argument := .encode tree.argument
    offset := tree.offset
    comments := tree.comments }

theorem decode_encode (tree : WireTree.DeclarationAttribute) :
    (encode tree).decode = .ok tree :=
  decode_eq_ok_iff.mpr ⟨rfl, rfl, TypedExpression.decode_encode tree.argument, rfl, rfl⟩

end DeclarationAttribute

theorem decode_encode_attributes (trees : List WireTree.DeclarationAttribute) :
    (trees.map DeclarationAttribute.encode).mapM DeclarationAttribute.decode = .ok trees :=
  mapM_map_eq_ok fun tree _ => DeclarationAttribute.decode_encode tree

namespace ResolvedSignature

/-- A signature on the wire. -/
def encode (tree : WireTree.ResolvedSignature) : ResolvedSignature :=
  { typeParameters := tree.typeParameters.map LocalSymbol.encode
    argumentType := .encode tree.argumentType
    returnType := .encode tree.returnType
    information := .encode tree.information }

theorem decode_encode (tree : WireTree.ResolvedSignature) : (encode tree).decode = .ok tree :=
  decode_eq_ok_iff.mpr
    { typeParameters := mapM_map_eq_ok fun symbol _ => LocalSymbol.decode_encode symbol
      argumentType := ResolvedType.decode_encode tree.argumentType
      returnType := ResolvedType.decode_encode tree.returnType
      information := CallableInformation.decode_encode tree.information }

end ResolvedSignature

namespace Specialization

/-- A specialization on the wire. -/
def encode (tree : WireTree.Specialization) : Specialization :=
  { kind := tree.kind
    parent := tree.parent
    attributes := tree.attributes.map DeclarationAttribute.encode
    source := tree.source
    location := tree.location
    typeArguments := tree.typeArguments.map (List.map ResolvedType.encode) }

theorem decode_encode {tree : WireTree.Specialization} (attainable : tree.Attainable) :
    (encode tree).decode = .ok tree := by
  have typeArguments :
      decodeTypeArguments (tree.typeArguments.map (List.map ResolvedType.encode)) =
        .ok tree.typeArguments := by
    cases tree.typeArguments with
    | none => rfl
    | some types =>
      have each : (types.map ResolvedType.encode).mapM ResolvedType.decode = .ok types :=
        mapM_map_eq_ok fun t _ => ResolvedType.decode_encode t
      exact bind_eq_ok_iff.mpr ⟨types, each, rfl⟩
  exact decode_eq_ok_iff.mpr
    { kind := rfl
      parent := rfl
      attributes := decode_encode_attributes tree.attributes
      source := rfl
      location := rfl
      typeArguments := typeArguments
      signature := attainable.signature
      implementation := attainable.implementation
      documentation := attainable.documentation
      comments := attainable.comments }

theorem attainable_of_decode_eq_ok {wire : Specialization} {tree : WireTree.Specialization}
    (decoded : wire.decode = .ok tree) : tree.Attainable := by
  have decodes := decode_eq_ok_iff.mp decoded
  exact ⟨decodes.signature, decodes.implementation, decodes.documentation, decodes.comments⟩

end Specialization

namespace Callable

/-- A callable on the wire. -/
def encode (tree : WireTree.Callable) : Callable :=
  { kind := tree.kind
    fullName := tree.fullName
    attributes := tree.attributes.map DeclarationAttribute.encode
    modifiers := tree.modifiers
    source := tree.source
    location := tree.location
    signature := .encode tree.signature
    specializations := tree.specializations.map Specialization.encode
    documentation := tree.documentation
    comments := tree.comments }

theorem decode_encode {tree : WireTree.Callable} (attainable : tree.Attainable) :
    (encode tree).decode = .ok tree :=
  decode_eq_ok_iff.mpr
    { kind := rfl
      fullName := rfl
      attributes := decode_encode_attributes tree.attributes
      modifiers := rfl
      source := rfl
      location := rfl
      signature := ResolvedSignature.decode_encode tree.signature
      argumentTuple := attainable.argumentTuple
      specializations := mapM_map_eq_ok fun s member =>
        Specialization.decode_encode (attainable.specializations s member)
      documentation := rfl
      comments := rfl }

theorem attainable_of_decode_eq_ok {wire : Callable} {tree : WireTree.Callable}
    (decoded : wire.decode = .ok tree) : tree.Attainable := by
  have decodes := decode_eq_ok_iff.mp decoded
  exact ⟨decodes.argumentTuple, forall_mem_of_mapM_eq_ok
    Specialization.attainable_of_decode_eq_ok decodes.specializations⟩

end Callable

namespace CustomType

/-- A user-defined type on the wire. -/
def encode (tree : WireTree.CustomType) : CustomType :=
  { fullName := tree.fullName
    attributes := tree.attributes.map DeclarationAttribute.encode
    modifiers := tree.modifiers
    source := tree.source
    location := tree.location
    type := .encode tree.type
    documentation := tree.documentation
    comments := tree.comments }

theorem decode_encode {tree : WireTree.CustomType} (attainable : tree.Attainable) :
    (encode tree).decode = .ok tree :=
  decode_eq_ok_iff.mpr
    { fullName := rfl
      attributes := decode_encode_attributes tree.attributes
      modifiers := rfl
      source := rfl
      location := rfl
      type := ResolvedType.decode_encode tree.type
      typeItems := attainable
      documentation := rfl
      comments := rfl }

theorem attainable_of_decode_eq_ok {wire : CustomType} {tree : WireTree.CustomType}
    (decoded : wire.decode = .ok tree) : tree.Attainable :=
  (decode_eq_ok_iff.mp decoded).typeItems

end CustomType

namespace NamespaceElement

/-- A declaration on the wire. -/
def encode : WireTree.NamespaceElement → NamespaceElement
  | .callable tree => ⟨.known .callable, some (.encode tree), none⟩
  | .customType tree => ⟨.known .customType, none, some (.encode tree)⟩

theorem decode_encode {tree : WireTree.NamespaceElement} (attainable : tree.Attainable) :
    (encode tree).decode = .ok tree := by
  rw [decode_eq_bind, bind_eq_ok_iff]
  cases tree with
  | callable tree =>
    have decoded := Callable.decode_encode attainable
    exact ⟨.callable (.encode tree), rfl, Declared.decode_eq_callable_iff.mpr ⟨_, rfl, decoded⟩⟩
  | customType tree =>
    have decoded := CustomType.decode_encode attainable
    exact ⟨.customType (.encode tree), rfl,
      Declared.decode_eq_customType_iff.mpr ⟨_, rfl, decoded⟩⟩

theorem attainable_of_decode_eq_ok {wire : NamespaceElement} {tree : WireTree.NamespaceElement}
    (decoded : wire.decode = .ok tree) : tree.Attainable := by
  rw [decode_eq_bind, bind_eq_ok_iff] at decoded
  obtain ⟨declared, -, decoded⟩ := decoded
  cases tree with
  | callable tree =>
    obtain ⟨c, -, decoded⟩ := Declared.decode_eq_callable_iff.mp decoded
    exact Callable.attainable_of_decode_eq_ok decoded
  | customType tree =>
    obtain ⟨t, -, decoded⟩ := Declared.decode_eq_customType_iff.mp decoded
    exact CustomType.attainable_of_decode_eq_ok decoded

end NamespaceElement

/-! ## Compilations -/

namespace Namespace

/-- A namespace on the wire, its documentation file after file. -/
def encode (tree : WireTree.Namespace) : Namespace :=
  { name := tree.name
    elements := tree.elements.map NamespaceElement.encode
    documentation := blocksOfTable tree.documentation }

theorem decode_encode {tree : WireTree.Namespace} (attainable : tree.Attainable) :
    (encode tree).decode = .ok tree :=
  decode_eq_ok_iff.mpr
    { name := rfl
      elements := mapM_map_eq_ok fun element member =>
        NamespaceElement.decode_encode (attainable.elements element member)
      documentation := decodeDocumentation_blocksOfTable attainable.documentation }

theorem attainable_of_decode_eq_ok {wire : Namespace} {tree : WireTree.Namespace}
    (decoded : wire.decode = .ok tree) : tree.Attainable := by
  have decodes := decode_eq_ok_iff.mp decoded
  refine ⟨forall_mem_of_mapM_eq_ok NamespaceElement.attainable_of_decode_eq_ok
    decodes.elements, ?_⟩
  intro entry member
  rw [← decodes.documentation] at member
  exact ne_nil_of_mem_decodeDocumentation member

end Namespace

namespace Compilation

/-- A compilation on the wire, without entry points. -/
def encode (tree : WireTree.Compilation) : Compilation :=
  { namespaces := tree.namespaces.map Namespace.encode
    entryPoints := [] }

theorem decode_encode {tree : WireTree.Compilation} (attainable : tree.Attainable) :
    (encode tree).decode = .ok tree := by
  refine decode_eq_ok_iff.mpr ⟨mapM_map_eq_ok ?_, attainable.entryPoints⟩
  intro ns member
  exact Namespace.decode_encode (attainable.namespaces ns member)

theorem attainable_of_decode_eq_ok {wire : Compilation} {tree : WireTree.Compilation}
    (decoded : wire.decode = .ok tree) : tree.Attainable := by
  obtain ⟨namespaces, entryPoints⟩ := decode_eq_ok_iff.mp decoded
  exact ⟨forall_mem_of_mapM_eq_ok Namespace.attainable_of_decode_eq_ok namespaces, entryPoints⟩

end Compilation

/-- What the decoders yield: every expression, identifier, type, characteristics expression,
attribute and signature, and those declarations, namespaces and compilations in which what the
wire does not hold is pending or absent. Decoding what such a tree is encoded to gives it
back. -/
theorem exact_images :
    ExactImage Compilation.decode Compilation.encode WireTree.Compilation.Attainable ∧
      ExactImage Namespace.decode Namespace.encode WireTree.Namespace.Attainable ∧
      ExactImage NamespaceElement.decode NamespaceElement.encode
        WireTree.NamespaceElement.Attainable ∧
      ExactImage CustomType.decode CustomType.encode WireTree.CustomType.Attainable ∧
      ExactImage Callable.decode Callable.encode WireTree.Callable.Attainable ∧
      ExactImage Specialization.decode Specialization.encode
        WireTree.Specialization.Attainable ∧
      ExactImage ResolvedSignature.decode ResolvedSignature.encode (fun _ => True) ∧
      ExactImage DeclarationAttribute.decode DeclarationAttribute.encode (fun _ => True) ∧
      ExactImage CallableInformation.decode CallableInformation.encode (fun _ => True) ∧
      ExactImage ResolvedCharacteristics.decode ResolvedCharacteristics.encode
        (fun _ => True) ∧
      ExactImage ResolvedType.decode ResolvedType.encode (fun _ => True) ∧
      ExactImage Identifier.decode Identifier.encode (fun _ => True) ∧
      ExactImage TypedExpression.decode TypedExpression.encode (fun _ => True) := by
  refine ⟨?_, ?_, ?_, ?_, ?_, ?_, ?_, ?_, ?_, ?_, ?_, ?_, ?_⟩
  · exact .of Compilation.decode_encode Compilation.attainable_of_decode_eq_ok
  · exact .of Namespace.decode_encode Namespace.attainable_of_decode_eq_ok
  · exact .of NamespaceElement.decode_encode NamespaceElement.attainable_of_decode_eq_ok
  · exact .of CustomType.decode_encode CustomType.attainable_of_decode_eq_ok
  · exact .of Callable.decode_encode Callable.attainable_of_decode_eq_ok
  · exact .of Specialization.decode_encode Specialization.attainable_of_decode_eq_ok
  · exact .of_total ResolvedSignature.decode_encode
  · exact .of_total DeclarationAttribute.decode_encode
  · exact .of_total CallableInformation.decode_encode
  · exact .of_total ResolvedCharacteristics.decode_encode
  · exact .of_total ResolvedType.decode_encode
  · exact .of_total Identifier.decode_encode
  · exact .of_total TypedExpression.decode_encode

end Wire

end WireTree
