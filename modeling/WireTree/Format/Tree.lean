import WireTree.Declaration.Basic
import WireTree.Format.Shared

/-!
# The schemas of trees

All members of a record have to be there, except that an optional one may be absent from an object;
no member has another default. An alternative with two or more payloads takes them in an array.
-/

namespace WireTree.TreeFormat

open Format

variable {ι : Type} {K : ι → Type} {α τ : Type}

/-- One of a few names, with the first letter lowered. -/
def choice (α : Type) [Named α] : Schema K α := .choice Named.treeNames

/-- The payloads of an alternative that has two or more. -/
def payloads (union name : String) (items : Items (Schema K) τ) : Schema K τ :=
  let wanted := "tuple variant " ++ union ++ "::" ++ name
  .shape (.tuple wanted (wanted ++ " with " ++ elements items.size) items id)

/-- A union. -/
def union (name : String) {n : Nat} (arms : Arms (Schema K) n α) : Schema K α :=
  .shape (.union name arms)

/-- The recursive types of trees. -/
inductive Node where
  | characteristics
  | resolvedType
  | typedExpression
  | argumentTuple
  | typeItems

/-- What the nodes stand for. -/
def Node.Carrier : Node → Type
  | .characteristics => ResolvedCharacteristics
  | .resolvedType => ResolvedType
  | .typedExpression => TypedExpression
  | .argumentTuple => ArgumentTuple
  | .typeItems => Tuple TypeItem

/-- A schema over the recursive types of trees. -/
abbrev Form (α : Type) := Schema Node.Carrier α

/-- A characteristics expression. -/
def characteristics : Form ResolvedCharacteristics := .node Node.characteristics

/-- A type. -/
def resolvedType : Form ResolvedType := .node Node.resolvedType

/-- A typed expression. -/
def typedExpression : Form TypedExpression := .node Node.typedExpression

/-- The parameters of a callable. -/
def argumentTuple : Form ArgumentTuple := .node Node.argumentTuple

/-- The items of a user-defined type. -/
def typeItems : Form (Tuple TypeItem) := .node Node.typeItems

/-- The alternatives of characteristics. -/
def characteristicsArms : Arms (Schema Node.Carrier) 5 ResolvedCharacteristics :=
  let operands name :=
    payloads "CharacteristicsKind" name
      (.cons characteristics <| .cons characteristics .nil)
  .bare "emptySet" (.mk .emptySet) <|
  .payload "simpleSet" (choice OpProperty) (fun property => .mk (.simpleSet property)) <|
  .payload "union" (operands "Union") (fun (left, right, ()) => .mk (.union left right)) <|
  .payload "intersection" (operands "Intersection")
    (fun (left, right, ()) => .mk (.intersection left right)) <|
  .bare "invalidSetExpr" (.mk .invalidSetExpr) .nil

/-- What the compiler inferred of a callable. -/
def inferredCallableInformation : Form InferredCallableInformation :=
  record "InferredCallableInformation"
    (required "isSelfAdjoint" .boolean <| required "isIntrinsic" .boolean <| .nil)
    fun (isSelfAdjoint, isIntrinsic, ()) => { isSelfAdjoint, isIntrinsic }

/-- What is known of a callable. -/
def callableInformation : Form CallableInformation :=
  record "CallableInformation"
    (required "characteristics" characteristics <|
      required "inferredInformation" inferredCallableInformation <| .nil)
    fun (characteristics, inferredInformation, ()) => { characteristics, inferredInformation }

/-- The alternatives of types. -/
def typeArms : Arms (Schema Node.Carrier) 18 ResolvedType :=
  .bare "unitType" (.mk .unitType) <|
  .bare "int" (.mk .int) <|
  .bare "bigInt" (.mk .bigInt) <|
  .bare "double" (.mk .double) <|
  .bare "bool" (.mk .bool) <|
  .bare "string" (.mk .string) <|
  .bare "qubit" (.mk .qubit) <|
  .bare "result" (.mk .result) <|
  .bare "pauli" (.mk .pauli) <|
  .bare "range" (.mk .range) <|
  .payload "arrayType" resolvedType (fun item => .mk (.arrayType item)) <|
  .payload "tupleType" (list resolvedType) (fun items => .mk (.tupleType items)) <|
  .payload "userDefinedType" userDefinedType
    (fun reference => .mk (.userDefinedType reference)) <|
  .payload "typeParameter" typeParameter (fun parameter => .mk (.typeParameter parameter)) <|
  .payload "operation"
    (payloads "TypeKind" "Operation"
      (.cons (pair resolvedType resolvedType) <| .cons callableInformation .nil))
    (fun ((domain, codomain), characteristics, ()) =>
      .mk (.operation domain codomain characteristics)) <|
  .payload "function"
    (payloads "TypeKind" "Function" (.cons resolvedType <| .cons resolvedType .nil))
    (fun (domain, codomain, ()) => .mk (.function domain codomain)) <|
  .bare "missingType" (.mk .missingType) <|
  .bare "invalidType" (.mk .invalidType) .nil

/-- An identifier. -/
def identifier : Form Identifier :=
  union "Identifier" <|
    .payload "localVariable" string .localVariable <|
    .payload "globalCallable" qualifiedName .globalCallable <|
    .bare "invalidIdentifier" .invalidIdentifier .nil

/-- Two expressions, as the payloads of an alternative. -/
def twoExpressions (name : String) : Form (TypedExpression × TypedExpression × Unit) :=
  payloads "ExpressionKind" name (.cons typedExpression <| .cons typedExpression .nil)

/-- Three expressions, as the payloads of an alternative. -/
def threeExpressions (name : String) :
    Form (TypedExpression × TypedExpression × TypedExpression × Unit) :=
  payloads "ExpressionKind" name
    (.cons typedExpression <| .cons typedExpression <| .cons typedExpression .nil)

/-- An expression kind. -/
def expressionKind : Form (ExpressionKind TypedExpression Identifier ResolvedType) :=
  union "ExpressionKind" <|
    .bare "unitValue" .unitValue <|
    .payload "identifier"
      (payloads "ExpressionKind" "Identifier"
        (.cons identifier <| .cons (.optional (list resolvedType)) .nil))
      (fun (symbol, types, ()) => .identifier symbol types) <|
    .payload "valueTuple" (list typedExpression) .valueTuple <|
    .payload "intLiteral" int64 .intLiteral <|
    .payload "bigIntLiteral" bigInteger .bigIntLiteral <|
    .payload "doubleLiteral" .double .doubleLiteral <|
    .payload "boolLiteral" .boolean .boolLiteral <|
    .payload "stringLiteral"
      (payloads "ExpressionKind" "StringLiteral"
        (.cons string <| .cons (list typedExpression) .nil))
      (fun (text, expressions, ()) => .stringLiteral text expressions) <|
    .payload "resultLiteral" (choice ResultValue) .resultLiteral <|
    .payload "pauliLiteral" (choice Pauli) .pauliLiteral <|
    .payload "rangeLiteral" (twoExpressions "RangeLiteral")
      (fun (first, last, ()) => .rangeLiteral first last) <|
    .payload "newArray"
      (payloads "ExpressionKind" "NewArray" (.cons resolvedType <| .cons typedExpression .nil))
      (fun (type, length, ()) => .newArray type length) <|
    .payload "valueArray" (list typedExpression) .valueArray <|
    .payload "arrayItem" (twoExpressions "ArrayItem")
      (fun (array, index, ()) => .arrayItem array index) <|
    .payload "namedItem"
      (payloads "ExpressionKind" "NamedItem" (.cons typedExpression <| .cons identifier .nil))
      (fun (accessed, item, ()) => .namedItem accessed item) <|
    .payload "unaryOperation"
      (payloads "ExpressionKind" "UnaryOperation"
        (.cons (choice UnaryOperator) <| .cons typedExpression .nil))
      (fun (operator, operand, ()) => .unaryOperation operator operand) <|
    .payload "binaryOperation"
      (payloads "ExpressionKind" "BinaryOperation"
        (.cons (choice BinaryOperator) <| .cons typedExpression <| .cons typedExpression .nil))
      (fun (operator, left, right, ()) => .binaryOperation operator left right) <|
    .payload "conditional" (threeExpressions "Conditional")
      (fun (condition, then_, else_, ()) => .conditional condition then_ else_) <|
    .payload "copyAndUpdate" (threeExpressions "CopyAndUpdate")
      (fun (copied, item, value, ()) => .copyAndUpdate copied item value) <|
    .payload "unwrapApplication" typedExpression .unwrapApplication <|
    .payload "adjointApplication" typedExpression .adjointApplication <|
    .payload "controlledApplication" typedExpression .controlledApplication <|
    .payload "callLikeExpression" (twoExpressions "CallLikeExpression")
      (fun (callee, argument, ()) => .callLikeExpression callee argument) <|
    .bare "missingExpr" .missingExpr <|
    .bare "invalidExpr" .invalidExpr .nil

/-- A type argument. -/
def typeArgument : Form (TypeArgument ResolvedType) :=
  record "TypeArgument"
    (required "callable" qualifiedName <| required "name" string <|
      required "type" resolvedType <| .nil)
    fun (callable, name, type, ()) => { callable, name, type }

/-- What the compiler inferred of an expression. -/
def inferredExpressionInformation : Form InferredExpressionInformation :=
  record "InferredExpressionInformation"
    (required "isMutable" .boolean <| required "hasLocalQuantumDependency" .boolean <| .nil)
    fun (isMutable, hasLocalQuantumDependency, ()) => { isMutable, hasLocalQuantumDependency }

/-- A local symbol. -/
def localSymbol : Form LocalSymbol :=
  union "LocalSymbol" <|
    .payload "validName" string .validName <|
    .bare "invalidName" .invalidName .nil

/-- A variable declared in local scope. -/
def localVariableDeclaration {N : Type} (variableName : Form N) :
    Form (LocalVariableDeclaration N) :=
  record "LocalVariableDeclaration"
    (required "variableName" variableName <|
      required "type" resolvedType <|
      required "inferredInformation" inferredExpressionInformation <|
      optional "position" position <|
      required "range" range <| .nil)
    fun (variableName, type, inferredInformation, position, range, ()) =>
      { variableName, type, inferredInformation, position, range }

/-- An item of a user-defined type. -/
def typeItem : Form TypeItem :=
  union "TypeItem" <|
    .payload "named" (localVariableDeclaration string) .named <|
    .payload "anonymous" resolvedType .anonymous .nil

/-- The alternatives of tuples. -/
def tupleArms (item : Form α) (tuple : Form (Tuple α)) :
    Arms (Schema Node.Carrier) 2 (Tuple α) :=
  .payload "item" item .item <|
  .payload "tuple" (list tuple) .tuple .nil

/-- The shapes of the recursive types. -/
def shape : (node : Node) → Shape (Schema Node.Carrier) node.Carrier
  | .characteristics => .union "CharacteristicsKind" characteristicsArms
  | .resolvedType => .union "TypeKind" typeArms
  | .typedExpression =>
    .record "TypedExpression"
      (required "expression" expressionKind <|
        required "typeArguments" (list typeArgument) <|
        required "resolvedType" resolvedType <|
        required "inferredInformation" inferredExpressionInformation <|
        optional "range" range <| .nil)
      fun (expression, typeArguments, resolvedType, inferredInformation, range, ()) =>
        TypedExpression.mk
          { expression, typeArguments, resolvedType, inferredInformation, range }
  | .argumentTuple =>
    .union "Tuple" (tupleArms (localVariableDeclaration localSymbol) argumentTuple)
  | .typeItems => .union "Tuple" (tupleArms typeItem typeItems)

/-- The grammar of trees. Keys of choices are checked as on the wire. -/
def grammar : Grammar Node where
  Carrier := Node.Carrier
  shape := shape
  keyCheck := .syntactic

/-- A part that may be pending. -/
def deferred (part : Schema K α) : Schema K (Deferred α) :=
  union "Deferred" <|
    .bare "pending" .pending <|
    .payload "decoded" part .decoded .nil

/-- The comments around a declaration. -/
def comments : Form Comments :=
  record "Comments"
    (required "openingComments" (list string) <|
      required "closingComments" (list string) <| .nil)
    fun (openingComments, closingComments, ()) => { openingComments, closingComments }

/-- The modifiers of a declaration. -/
def modifiers : Form Modifiers :=
  record "Modifiers" (required "access" (choice AccessModifier) <| .nil)
    fun (access, ()) => { access }

/-- The file that a declaration comes from. -/
def source : Form Source :=
  record "Source" (required "codeFile" string <| optional "assemblyFile" string <| .nil)
    fun (codeFile, assemblyFile, ()) => { codeFile, assemblyFile }

/-- An attribute of a declaration. -/
def declarationAttribute : Form DeclarationAttribute :=
  record "DeclarationAttribute"
    (optional "typeId" userDefinedType <|
      optional "typeIdRange" range <|
      required "argument" typedExpression <|
      required "offset" position <|
      required "comments" comments <| .nil)
    fun (typeId, typeIdRange, argument, offset, comments, ()) =>
      { typeId, typeIdRange, argument, offset, comments }

/-- A signature. -/
def resolvedSignature : Form ResolvedSignature :=
  record "ResolvedSignature"
    (required "typeParameters" (list localSymbol) <|
      required "argumentType" resolvedType <|
      required "returnType" resolvedType <|
      required "information" callableInformation <| .nil)
    fun (typeParameters, argumentType, returnType, information, ()) =>
      { typeParameters, argumentType, returnType, information }

/-- The implementation of a specialization. -/
def specializationImplementation : Form SpecializationImplementation :=
  union "SpecializationImplementation" <|
    .bare "intrinsic" .intrinsic <|
    .bare "external" .external <|
    .payload "generated" (choice GeneratorDirective) .generated <|
    .payload "provided" argumentTuple .provided .nil

/-- A specialization. -/
def specialization : Form Specialization :=
  record "Specialization"
    (required "kind" (choice SpecializationKind) <|
      required "parent" qualifiedName <|
      required "attributes" (list declarationAttribute) <|
      required "source" source <|
      optional "location" location <|
      optional "typeArguments" (list resolvedType) <|
      required "signature" (deferred resolvedSignature) <|
      required "implementation" (deferred specializationImplementation) <|
      required "documentation" (deferred (list string)) <|
      required "comments" (deferred comments) <| .nil)
    fun (kind, parent, attributes, source, location, typeArguments, signature, implementation,
        documentation, comments, ()) =>
      { kind, parent, attributes, source, location, typeArguments, signature, implementation,
        documentation, comments }

/-- A callable. -/
def callable : Form Callable :=
  record "Callable"
    (required "kind" (choice CallableKind) <|
      required "fullName" qualifiedName <|
      required "attributes" (list declarationAttribute) <|
      required "modifiers" modifiers <|
      required "source" source <|
      optional "location" location <|
      required "signature" resolvedSignature <|
      required "argumentTuple" (deferred argumentTuple) <|
      required "specializations" (list specialization) <|
      required "documentation" (list string) <|
      required "comments" comments <| .nil)
    fun (kind, fullName, attributes, modifiers, source, location, signature, argumentTuple,
        specializations, documentation, comments, ()) =>
      { kind, fullName, attributes, modifiers, source, location, signature, argumentTuple,
        specializations, documentation, comments }

/-- A user-defined type. -/
def customType : Form CustomType :=
  record "CustomType"
    (required "fullName" qualifiedName <|
      required "attributes" (list declarationAttribute) <|
      required "modifiers" modifiers <|
      required "source" source <|
      optional "location" location <|
      required "type" resolvedType <|
      required "typeItems" (deferred typeItems) <|
      required "documentation" (list string) <|
      required "comments" comments <| .nil)
    fun (fullName, attributes, modifiers, source, location, type, typeItems, documentation,
        comments, ()) =>
      { fullName, attributes, modifiers, source, location, type, typeItems, documentation,
        comments }

/-- A declaration. -/
def namespaceElement : Form NamespaceElement :=
  union "NamespaceElement" <|
    .payload "callable" callable .callable <|
    .payload "customType" customType .customType .nil

/-- A namespace. -/
def «namespace» : Form Namespace :=
  record "Namespace"
    (required "name" string <|
      required "elements" (list namespaceElement) <|
      required "documentation" (.table (list (list string))) <| .nil)
    fun (name, elements, documentation, ()) => { name, elements, documentation }

/-- A compilation. -/
def compilation : Form Compilation :=
  record "Compilation"
    (required "namespaces" (list «namespace») <|
      required "entryPoints" (list qualifiedName) <| .nil)
    fun (namespaces, entryPoints, ()) => { namespaces, entryPoints }

end WireTree.TreeFormat
