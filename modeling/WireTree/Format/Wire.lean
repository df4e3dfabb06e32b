import WireTree.Compilation.Decode
import WireTree.Format.Shared

/-!
# The schemas of wire records

A record of a union has a member for each payload, selected or not; a payload that is absent is no
matter for reading.
-/

namespace WireTree.Wire.Format

open WireTree.Format

variable {ι : Type} {K : ι → Type} {T U P C E S : Type}

/-- One of a few names, as the wire spells them. -/
def choice (α : Type) [Named α] : Schema K α := .choice Named.wireNames

/-- The operands of a union or an intersection. -/
def setOperation (operand : Schema K C) : Schema K (SetOperation C) :=
  record "SetOperation" (required "left" operand <| required "right" operand <| .nil)
    fun (left, right, ()) => ⟨left, right⟩

/-- A characteristics union. -/
def characteristicsSlots (operand : Schema K C) : Schema K (CharacteristicsSlots C) :=
  record "CharacteristicsKindComposition"
    (required "kind" (discriminator CharacteristicsTag) <|
      optional "simpleSet" (choice OpProperty) <|
      optional "setOperation" (setOperation operand) <| .nil)
    fun (kind, simpleSet, setOperation, ()) => { kind, simpleSet, setOperation }

/-- The payload of an operation type. -/
def operationType (type : Schema K T) (characteristics : Schema K C) :
    Schema K (OperationType T C) :=
  record "TypeKindOperation"
    (required "domain" type <| required "codomain" type <|
      required "characteristics" characteristics <| .nil)
    fun (domain, codomain, characteristics, ()) => { domain, codomain, characteristics }

/-- The payload of a function type. -/
def functionType (type : Schema K T) : Schema K (FunctionType T) :=
  record "TypeKindFunction" (required "domain" type <| required "codomain" type <| .nil)
    fun (domain, codomain, ()) => { domain, codomain }

/-- A type union. -/
def typeSlots (type : Schema K T) (reference : Schema K U) (parameter : Schema K P)
    (characteristics : Schema K C) : Schema K (TypeSlots T U P C) :=
  record "TypeKindComposition"
    (required "kind" (discriminator TypeTag) <|
      optional "arrayType" type <|
      optional "tupleType" (list type) <|
      optional "userDefinedType" reference <|
      optional "typeParameter" parameter <|
      optional "operation" (operationType type characteristics) <|
      optional "function" (functionType type) <| .nil)
    fun (kind, arrayType, tupleType, userDefinedType, typeParameter, operation, function, ()) =>
      { kind, arrayType, tupleType, userDefinedType, typeParameter, operation, function }

/-- The payload of an identifier. -/
def identifierPayload (symbol : Schema K S) (type : Schema K T) :
    Schema K (IdentifierPayload S T) :=
  record "IdentifierComposition"
    (required "symbol" symbol <| optional "types" (list type) <| .nil)
    fun (symbol, types, ()) => { symbol, types }

/-- The payload of a string literal. -/
def stringPayload (expression : Schema K E) : Schema K (StringPayload E) :=
  record "StringLiteralComposition"
    (required "text" string <| defaulted "expressions" [] (list expression) <| .nil)
    fun (text, expressions, ()) => { text, expressions }

/-- The payload of a new array. -/
def newArrayPayload (expression : Schema K E) (type : Schema K T) :
    Schema K (NewArrayPayload E T) :=
  record "NewArrayComposition"
    (required "type" type <| required "expression" expression <| .nil)
    fun (type, length, ()) => { type, length }

/-- The payload of a named item. -/
def namedItemPayload (expression : Schema K E) (symbol : Schema K S) :
    Schema K (NamedItemPayload E S) :=
  record "NamedItemComposition"
    (required "expression" expression <| required "symbol" symbol <| .nil)
    fun (accessed, symbol, ()) => { accessed, symbol }

/-- Two operands. -/
def twoOperands (expression : Schema K E) : Schema K (TwoOperands E) :=
  record "ExpressionDouble"
    (required "expression1" expression <| required "expression2" expression <| .nil)
    fun (first, second, ()) => { first, second }

/-- Three operands. -/
def threeOperands (expression : Schema K E) : Schema K (ThreeOperands E) :=
  record "ExpressionTriple"
    (required "expression1" expression <| required "expression2" expression <|
      required "expression3" expression <| .nil)
    fun (first, second, third, ()) => { first, second, third }

/-- An expression union. -/
def expressionSlots (expression : Schema K E) (symbol : Schema K S) (type : Schema K T) :
    Schema K (ExpressionSlots E S T) :=
  record "ExpressionKindComposition"
    (required "kind" (discriminator ExpressionTag) <|
      optional "identifier" (identifierPayload symbol type) <|
      defaulted "intLiteral" 0 int64 <|
      optional "bigIntLiteral" (list byte) <|
      defaulted "doubleLiteral" .zero .double <|
      defaulted "boolLiteral" false .boolean <|
      optional "stringLiteral" (stringPayload expression) <|
      optional "resultLiteral" (choice ResultValue) <|
      optional "pauliLiteral" (choice Pauli) <|
      optional "newArray" (newArrayPayload expression type) <|
      optional "namedItem" (namedItemPayload expression symbol) <|
      optional "expressionSingle" expression <|
      optional "expressionDouble" (twoOperands expression) <|
      optional "expressionTriple" (threeOperands expression) <|
      optional "expressionArray" (list expression) <| .nil)
    fun (kind, identifier, intLiteral, bigIntLiteral, doubleLiteral, boolLiteral,
        stringLiteral, resultLiteral, pauliLiteral, newArray, namedItem, expressionSingle,
        expressionDouble, expressionTriple, expressionArray, ()) =>
      { kind, identifier, intLiteral, bigIntLiteral, doubleLiteral, boolLiteral,
        stringLiteral, resultLiteral, pauliLiteral, newArray, namedItem, expressionSingle,
        expressionDouble, expressionTriple, expressionArray }

/-- The recursive types of the wire. -/
inductive Node where
  | characteristics
  | resolvedType
  | typedExpression

/-- What the nodes stand for. -/
def Node.Carrier : Node → Type
  | .characteristics => ResolvedCharacteristics
  | .resolvedType => ResolvedType
  | .typedExpression => TypedExpression

/-- A schema over the recursive types of the wire. -/
abbrev Form (α : Type) := Schema Node.Carrier α

/-- A characteristics expression. -/
def characteristics : Form ResolvedCharacteristics := .node Node.characteristics

/-- A type. -/
def resolvedType : Form ResolvedType := .node Node.resolvedType

/-- A typed expression. -/
def typedExpression : Form TypedExpression := .node Node.typedExpression

/-- What the compiler inferred of a callable. -/
def inferredCallableInformation : Form InferredCallableInformation :=
  record "InferredCallableInformation"
    (defaulted "isSelfAdjoint" false .boolean <| defaulted "isIntrinsic" false .boolean <| .nil)
    fun (isSelfAdjoint, isIntrinsic, ()) => { isSelfAdjoint, isIntrinsic }

/-- What is known of a callable. -/
def callableInformation : Form CallableInformation :=
  record "CallableInformation"
    (required "characteristics" characteristics <|
      defaulted "inferredInformation" .nothing inferredCallableInformation <| .nil)
    fun (characteristics, inferredInformation, ()) => { characteristics, inferredInformation }

/-- An identifier. -/
def identifier : Form Identifier :=
  record "Identifier"
    (required "kind" (discriminator IdentifierTag) <|
      optional "localVariable" string <|
      optional "globalCallable" qualifiedName <| .nil)
    fun (kind, localVariable, globalCallable, ()) => { kind, localVariable, globalCallable }

/-- A type argument. -/
def typeArgument : Form (TypeArgument ResolvedType) :=
  record "TypeArgument"
    (required "callable" qualifiedName <| required "name" string <|
      required "type" resolvedType <| .nil)
    fun (callable, name, type, ()) => { callable, name, type }

/-- What the compiler inferred of an expression. -/
def inferredExpressionInformation : Form InferredExpressionInformation :=
  record "InferredExpressionInformation"
    (defaulted "isMutable" false .boolean <|
      defaulted "hasLocalQuantumDependency" false .boolean <| .nil)
    fun (isMutable, hasLocalQuantumDependency, ()) => { isMutable, hasLocalQuantumDependency }

/-- The shapes of the recursive types. -/
def shape : (node : Node) → Shape (Schema Node.Carrier) node.Carrier
  | .characteristics =>
    .record "ResolvedCharacteristics"
      (required "expression" (characteristicsSlots characteristics) <| .nil)
      fun (expression, ()) => ResolvedCharacteristics.mk expression
  | .resolvedType =>
    .record "ResolvedType"
      (required "typeKind"
        (typeSlots resolvedType userDefinedType typeParameter callableInformation) <| .nil)
      fun (typeKind, ()) => ResolvedType.mk typeKind
  | .typedExpression =>
    .record "TypedExpression"
      (required "expression" (expressionSlots typedExpression identifier resolvedType) <|
        defaulted "typeArguments" [] (list typeArgument) <|
        required "resolvedType" resolvedType <|
        defaulted "inferredInformation" .nothing inferredExpressionInformation <|
        optional "range" range <| .nil)
      fun (expression, typeArguments, resolvedType, inferredInformation, range, ()) =>
        TypedExpression.mk
          { expression, typeArguments, resolvedType, inferredInformation, range }

/-- The grammar of the wire. Keys of choices are checked as runs of the program show it. -/
def grammar : Grammar Node where
  Carrier := Node.Carrier
  shape := shape
  keyCheck := .syntactic

/-- The comments around a declaration. -/
def comments : Form Comments :=
  record "Comments"
    (defaulted "openingComments" [] (list string) <|
      defaulted "closingComments" [] (list string) <| .nil)
    fun (openingComments, closingComments, ()) => { openingComments, closingComments }

/-- The modifiers of a declaration. -/
def modifiers : Form Modifiers :=
  record "Modifiers" (defaulted "access" .defaultAccess (choice AccessModifier) <| .nil)
    fun (access, ()) => { access }

/-- The file that a declaration comes from. -/
def source : Form Source :=
  record "Source"
    (defaulted "codeFile" "" string <| optional "assemblyFile" string <| .nil)
    fun (codeFile, assemblyFile, ()) => { codeFile, assemblyFile }

/-- A local symbol. -/
def localSymbol : Form LocalSymbol :=
  record "LocalSymbol"
    (required "kind" (discriminator LocalSymbolTag) <| optional "name" string <| .nil)
    fun (kind, name, ()) => { kind, name }

/-- An attribute of a declaration. -/
def declarationAttribute : Form DeclarationAttribute :=
  record "DeclarationAttribute"
    (optional "typeId" userDefinedType <|
      optional "typeIdRange" range <|
      required "argument" typedExpression <|
      required "offset" position <|
      defaulted "comments" .empty comments <| .nil)
    fun (typeId, typeIdRange, argument, offset, comments, ()) =>
      { typeId, typeIdRange, argument, offset, comments }

/-- A signature. -/
def resolvedSignature : Form ResolvedSignature :=
  record "ResolvedSignature"
    (defaulted "typeParameters" [] (list localSymbol) <|
      required "argumentType" resolvedType <|
      required "returnType" resolvedType <|
      required "information" callableInformation <| .nil)
    fun (typeParameters, argumentType, returnType, information, ()) =>
      { typeParameters, argumentType, returnType, information }

/-- A specialization. -/
def specialization : Form Specialization :=
  record "Specialization"
    (required "kind" (choice SpecializationKind) <|
      required "parent" qualifiedName <|
      defaulted "attributes" [] (list declarationAttribute) <|
      defaulted "source" .empty source <|
      optional "location" location <|
      optional "typeArguments" (list resolvedType) <| .nil)
    fun (kind, parent, attributes, source, location, typeArguments, ()) =>
      { kind, parent, attributes, source, location, typeArguments }

/-- A callable. -/
def callable : Form Callable :=
  record "Callable"
    (required "kind" (choice CallableKind) <|
      required "fullName" qualifiedName <|
      defaulted "attributes" [] (list declarationAttribute) <|
      defaulted "modifiers" .standard modifiers <|
      defaulted "source" .empty source <|
      optional "location" location <|
      required "signature" resolvedSignature <|
      defaulted "specializations" [] (list specialization) <|
      defaulted "documentation" [] (list string) <|
      defaulted "comments" .empty comments <| .nil)
    fun (kind, fullName, attributes, modifiers, source, location, signature, specializations,
        documentation, comments, ()) =>
      { kind, fullName, attributes, modifiers, source, location, signature, specializations,
        documentation, comments }

/-- A user-defined type. -/
def customType : Form CustomType :=
  record "CustomType"
    (required "fullName" qualifiedName <|
      defaulted "attributes" [] (list declarationAttribute) <|
      defaulted "modifiers" .standard modifiers <|
      defaulted "source" .empty source <|
      optional "location" location <|
      required "type" resolvedType <|
      defaulted "documentation" [] (list string) <|
      defaulted "comments" .empty comments <| .nil)
    fun (fullName, attributes, modifiers, source, location, type, documentation, comments,
        ()) =>
      { fullName, attributes, modifiers, source, location, type, documentation, comments }

/-- A declaration. -/
def namespaceElement : Form NamespaceElement :=
  record "NamespaceElement"
    (required "kind" (discriminator NamespaceElementTag) <|
      optional "callable" callable <|
      optional "customType" customType <| .nil)
    fun (kind, callable, customType, ()) => { kind, callable, customType }

/-- A block of documentation. -/
def sourceFileDocumentation : Form SourceFileDocumentation :=
  record "SourceFileDocumentation"
    (required "fileName" string <|
      defaulted "documentationItems" [] (list string) <| .nil)
    fun (fileName, documentationItems, ()) => { fileName, documentationItems }

/-- The blocks of documentation of a namespace. -/
def documentation : Form (List SourceFileDocumentation) := list sourceFileDocumentation

/-- A namespace. -/
def «namespace» : Form Namespace :=
  record "Namespace"
    (required "name" string <|
      defaulted "elements" [] (list namespaceElement) <|
      defaulted "documentation" [] documentation <| .nil)
    fun (name, elements, documentation, ()) => { name, elements, documentation }

/-- A compilation. -/
def compilation : Form Compilation :=
  record "Compilation"
    (defaulted "namespaces" [] (list «namespace») <|
      defaulted "entryPoints" [] (list qualifiedName) <| .nil)
    fun (namespaces, entryPoints, ()) => { namespaces, entryPoints }

/-- The options of decoding. -/
def options : Form Options :=
  record "Options" (defaulted "parallel" false .boolean <| .nil)
    fun (parallel, ()) => { parallel }

end WireTree.Wire.Format
