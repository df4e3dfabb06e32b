import WireTree.BigInteger
import WireTree.Declaration.Basic
import WireTree.Json.Basic

/-!
# Trees as JSON values

Records are objects with all their members, absent ones `null`. A union is an object whose `type`
names the alternative and whose `value` holds the payload, if there is one; two or more payloads
stand in an array. Doubles are written by their bits.
-/

namespace WireTree

namespace Json

/-- An alternative without payload. -/
def bare (tag : String) : Json := .object [("type", .text tag)]

/-- An alternative with a payload. -/
def tagged (tag : String) (value : Json) : Json :=
  .object [("type", .text tag), ("value", value)]

/-- An alternative with two or more payloads. -/
def taggedAll (tag : String) (values : List Json) : Json :=
  tagged tag (.array values)

/-- A name with its first letter lowered. -/
def ofNamed {α : Type} [Named α] (a : α) : Json := .text (Named.treeName a)

/-- A list of texts. -/
def ofTexts (texts : List String) : Json := ofList .text texts

end Json

/-- An integer of any size: its sign and the digits of its magnitude. -/
def BigInteger.toJson (n : Int) : Json :=
  .array [.ofInt (sign n).toInt, .ofList (fun d => .ofInt d.toNat) (digits n.natAbs)]

/-- A double by its bits. -/
def Binary64.toJson (d : Binary64) : Json := .text d.hex

/-- A position. -/
def Position.toJson (p : Position) : Json :=
  .object [("line", .ofInt p.line.toNat), ("column", .ofInt p.column.toNat)]

/-- A range. -/
def Range.toJson (r : Range) : Json :=
  .object [("start", r.start.toJson), ("end", r.finish.toJson)]

/-- A location. -/
def Location.toJson (l : Location) : Json :=
  .object [("offset", l.offset.toJson), ("range", l.range.toJson)]

/-- A qualified name. -/
def QualifiedName.toJson (n : QualifiedName) : Json :=
  .object [("namespace", .text n.scope), ("name", .text n.name)]

/-- A reference to a user-defined type. -/
def UserDefinedType.toJson (t : UserDefinedType) : Json :=
  .object [("namespace", .text t.scope), ("name", .text t.name),
    ("range", .ofOption Range.toJson t.range)]

/-- A type parameter. -/
def TypeParameter.toJson (p : TypeParameter) : Json :=
  .object [("origin", p.origin.toJson), ("typeName", .text p.typeName),
    ("range", .ofOption Range.toJson p.range)]

/-- A characteristics expression, given how its operands are written. -/
def CharacteristicsKind.toJson {C : Type} (operand : C → Json) : CharacteristicsKind C → Json
  | .emptySet => .bare "emptySet"
  | .simpleSet property => .tagged "simpleSet" (.ofNamed property)
  | .union left right => .taggedAll "union" [operand left, operand right]
  | .intersection left right => .taggedAll "intersection" [operand left, operand right]
  | .invalidSetExpr => .bare "invalidSetExpr"

/-- A resolved characteristics expression. -/
def ResolvedCharacteristics.toJson : ResolvedCharacteristics → Json :=
  fold (CharacteristicsKind.toJson id)

/-- What the compiler inferred of a callable. -/
def InferredCallableInformation.toJson (i : InferredCallableInformation) : Json :=
  .object [("isSelfAdjoint", .boolean i.isSelfAdjoint), ("isIntrinsic", .boolean i.isIntrinsic)]

/-- What is known of a callable. -/
def CallableInformation.toJson (i : CallableInformation) : Json :=
  .object [("characteristics", i.characteristics.toJson),
    ("inferredInformation", i.inferredInformation.toJson)]

/-- A type, given how its parts are written. -/
def TypeKind.toJson {T U P C : Type} (type : T → Json) (reference : U → Json)
    (parameter : P → Json) (characteristics : C → Json) : TypeKind T U P C → Json
  | .unitType => .bare "unitType"
  | .int => .bare "int"
  | .bigInt => .bare "bigInt"
  | .double => .bare "double"
  | .bool => .bare "bool"
  | .string => .bare "string"
  | .qubit => .bare "qubit"
  | .result => .bare "result"
  | .pauli => .bare "pauli"
  | .range => .bare "range"
  | .arrayType item => .tagged "arrayType" (type item)
  | .tupleType items => .tagged "tupleType" (.ofList type items)
  | .userDefinedType r => .tagged "userDefinedType" (reference r)
  | .typeParameter p => .tagged "typeParameter" (parameter p)
  | .operation domain codomain c =>
    .taggedAll "operation" [.array [type domain, type codomain], characteristics c]
  | .function domain codomain => .taggedAll "function" [type domain, type codomain]
  | .missingType => .bare "missingType"
  | .invalidType => .bare "invalidType"

/-- A resolved type. -/
def ResolvedType.toJson : ResolvedType → Json :=
  fold (TypeKind.toJson id UserDefinedType.toJson TypeParameter.toJson
    CallableInformation.toJson)

/-- An identifier. -/
def Identifier.toJson : Identifier → Json
  | .localVariable name => .tagged "localVariable" (.text name)
  | .globalCallable name => .tagged "globalCallable" name.toJson
  | .invalidIdentifier => .bare "invalidIdentifier"

/-- An expression, given how its parts are written. -/
def ExpressionKind.toJson {E S T : Type} (expression : E → Json) (symbol : S → Json)
    (type : T → Json) : ExpressionKind E S T → Json
  | .unitValue => .bare "unitValue"
  | .identifier s types =>
    .taggedAll "identifier" [symbol s, .ofOption (.ofList type) types]
  | .valueTuple items => .tagged "valueTuple" (.ofList expression items)
  | .intLiteral value => .tagged "intLiteral" (.ofInt value.toInt)
  | .bigIntLiteral value => .tagged "bigIntLiteral" (BigInteger.toJson value)
  | .doubleLiteral value => .tagged "doubleLiteral" value.toJson
  | .boolLiteral value => .tagged "boolLiteral" (.boolean value)
  | .stringLiteral text expressions =>
    .taggedAll "stringLiteral" [.text text, .ofList expression expressions]
  | .resultLiteral value => .tagged "resultLiteral" (.ofNamed value)
  | .pauliLiteral value => .tagged "pauliLiteral" (.ofNamed value)
  | .rangeLiteral first last => .taggedAll "rangeLiteral" [expression first, expression last]
  | .newArray t length => .taggedAll "newArray" [type t, expression length]
  | .valueArray items => .tagged "valueArray" (.ofList expression items)
  | .arrayItem array index => .taggedAll "arrayItem" [expression array, expression index]
  | .namedItem accessed item => .taggedAll "namedItem" [expression accessed, symbol item]
  | .unaryOperation operator operand =>
    .taggedAll "unaryOperation" [.ofNamed operator, expression operand]
  | .binaryOperation operator left right =>
    .taggedAll "binaryOperation" [.ofNamed operator, expression left, expression right]
  | .conditional condition then_ else_ =>
    .taggedAll "conditional" [expression condition, expression then_, expression else_]
  | .copyAndUpdate copied item value =>
    .taggedAll "copyAndUpdate" [expression copied, expression item, expression value]
  | .unwrapApplication operand => .tagged "unwrapApplication" (expression operand)
  | .adjointApplication operand => .tagged "adjointApplication" (expression operand)
  | .controlledApplication operand => .tagged "controlledApplication" (expression operand)
  | .callLikeExpression callee argument =>
    .taggedAll "callLikeExpression" [expression callee, expression argument]
  | .missingExpr => .bare "missingExpr"
  | .invalidExpr => .bare "invalidExpr"

/-- A type argument. -/
def TypeArgument.toJson (a : TypeArgument ResolvedType) : Json :=
  .object [("callable", a.callable.toJson), ("name", .text a.name), ("type", a.type.toJson)]

/-- What the compiler inferred of an expression. -/
def InferredExpressionInformation.toJson (i : InferredExpressionInformation) : Json :=
  .object [("isMutable", .boolean i.isMutable),
    ("hasLocalQuantumDependency", .boolean i.hasLocalQuantumDependency)]

/-- The node of a typed expression, the expressions in it being written already. -/
def TypedExpression.Node.toJson (node : TypedExpression.Node Json) : Json :=
  .object [("expression", node.expression.toJson id Identifier.toJson ResolvedType.toJson),
    ("typeArguments", .ofList TypeArgument.toJson node.typeArguments),
    ("resolvedType", node.resolvedType.toJson),
    ("inferredInformation", node.inferredInformation.toJson),
    ("range", .ofOption Range.toJson node.range)]

/-- A typed expression. -/
def TypedExpression.toJson : TypedExpression → Json :=
  fold TypedExpression.Node.toJson

/-- A part that may be pending. -/
def Deferred.toJson {α : Type} (part : α → Json) : Deferred α → Json
  | .pending => .bare "pending"
  | .decoded value => .tagged "decoded" (part value)

/-- A tuple. -/
def Tuple.toJson {α : Type} (item : α → Json) : Tuple α → Json :=
  fold (fun value => .tagged "item" (item value)) fun items => .tagged "tuple" (.array items)

/-- A local symbol. -/
def LocalSymbol.toJson : LocalSymbol → Json
  | .validName name => .tagged "validName" (.text name)
  | .invalidName => .bare "invalidName"

/-- A variable declared in local scope. -/
def LocalVariableDeclaration.toJson {N : Type} (variableName : N → Json)
    (d : LocalVariableDeclaration N) : Json :=
  .object [("variableName", variableName d.variableName), ("type", d.type.toJson),
    ("inferredInformation", d.inferredInformation.toJson),
    ("position", .ofOption Position.toJson d.position), ("range", d.range.toJson)]

/-- The parameters of a callable. -/
def ArgumentTuple.toJson : ArgumentTuple → Json :=
  Tuple.toJson (LocalVariableDeclaration.toJson LocalSymbol.toJson)

/-- An item of a user-defined type. -/
def TypeItem.toJson : TypeItem → Json
  | .named item => .tagged "named" (item.toJson .text)
  | .anonymous type => .tagged "anonymous" type.toJson

/-- The items of a user-defined type, which may be pending. -/
def TypeItem.deferredToJson : Deferred (Tuple TypeItem) → Json :=
  Deferred.toJson (Tuple.toJson TypeItem.toJson)

/-- The comments around a declaration. -/
def Comments.toJson (c : Comments) : Json :=
  .object [("openingComments", .ofTexts c.openingComments),
    ("closingComments", .ofTexts c.closingComments)]

/-- The modifiers of a declaration. -/
def Modifiers.toJson (m : Modifiers) : Json :=
  .object [("access", .ofNamed m.access)]

/-- The file that a declaration comes from. -/
def Source.toJson (s : Source) : Json :=
  .object [("codeFile", .text s.codeFile), ("assemblyFile", .ofOption .text s.assemblyFile)]

/-- An attribute of a declaration. -/
def DeclarationAttribute.toJson (a : DeclarationAttribute) : Json :=
  .object [("typeId", .ofOption UserDefinedType.toJson a.typeId),
    ("typeIdRange", .ofOption Range.toJson a.typeIdRange), ("argument", a.argument.toJson),
    ("offset", a.offset.toJson), ("comments", a.comments.toJson)]

/-- A signature. -/
def ResolvedSignature.toJson (s : ResolvedSignature) : Json :=
  .object [("typeParameters", .ofList LocalSymbol.toJson s.typeParameters),
    ("argumentType", s.argumentType.toJson), ("returnType", s.returnType.toJson),
    ("information", s.information.toJson)]

/-- The implementation of a specialization. -/
def SpecializationImplementation.toJson : SpecializationImplementation → Json
  | .intrinsic => .bare "intrinsic"
  | .external => .bare "external"
  | .generated directive => .tagged "generated" (.ofNamed directive)
  | .provided arguments => .tagged "provided" (ArgumentTuple.toJson arguments)

/-- A specialization. -/
def Specialization.toJson (s : Specialization) : Json :=
  .object [("kind", .ofNamed s.kind), ("parent", s.parent.toJson),
    ("attributes", .ofList DeclarationAttribute.toJson s.attributes),
    ("source", s.source.toJson), ("location", .ofOption Location.toJson s.location),
    ("typeArguments", .ofOption (.ofList ResolvedType.toJson) s.typeArguments),
    ("signature", s.signature.toJson ResolvedSignature.toJson),
    ("implementation", s.implementation.toJson SpecializationImplementation.toJson),
    ("documentation", s.documentation.toJson .ofTexts),
    ("comments", s.comments.toJson Comments.toJson)]

/-- A callable. -/
def Callable.toJson (c : Callable) : Json :=
  .object [("kind", .ofNamed c.kind), ("fullName", c.fullName.toJson),
    ("attributes", .ofList DeclarationAttribute.toJson c.attributes),
    ("modifiers", c.modifiers.toJson), ("source", c.source.toJson),
    ("location", .ofOption Location.toJson c.location), ("signature", c.signature.toJson),
    ("argumentTuple", c.argumentTuple.toJson ArgumentTuple.toJson),
    ("specializations", .ofList Specialization.toJson c.specializations),
    ("documentation", .ofTexts c.documentation), ("comments", c.comments.toJson)]

/-- A user-defined type. -/
def CustomType.toJson (t : CustomType) : Json :=
  .object [("fullName", t.fullName.toJson),
    ("attributes", .ofList DeclarationAttribute.toJson t.attributes),
    ("modifiers", t.modifiers.toJson), ("source", t.source.toJson),
    ("location", .ofOption Location.toJson t.location), ("type", t.type.toJson),
    ("typeItems", TypeItem.deferredToJson t.typeItems),
    ("documentation", .ofTexts t.documentation), ("comments", t.comments.toJson)]

/-- A declaration. -/
def NamespaceElement.toJson : NamespaceElement → Json
  | .callable c => .tagged "callable" c.toJson
  | .customType t => .tagged "customType" t.toJson

/-- The documentation of a namespace: for each file, its blocks. -/
def Namespace.documentationToJson (documentation : Table (List (List String))) : Json :=
  .object (documentation.entries.map fun entry => (entry.1, .ofList .ofTexts entry.2))

/-- A namespace. -/
def Namespace.toJson (n : Namespace) : Json :=
  .object [("name", .text n.name), ("elements", .ofList NamespaceElement.toJson n.elements),
    ("documentation", documentationToJson n.documentation)]

/-- A compilation. -/
def Compilation.toJson (c : Compilation) : Json :=
  .object [("namespaces", .ofList Namespace.toJson c.namespaces),
    ("entryPoints", .ofList QualifiedName.toJson c.entryPoints)]

end WireTree
