import WireTree.BigInteger
import WireTree.Expression.Wire
import WireTree.ResolvedType.Decode

/-!
# From expressions on the wire to expressions in trees

The kinds of the wire name each operator; trees have one kind for all operators with the same number
of operands.
-/

namespace WireTree.Wire

/-- An integer of any size from its bytes, of which there has to be at least one. -/
def decodeBigInteger (bytes : List UInt8) : Decoded Int :=
  if bytes.isEmpty then .error (.malformed "big integer" "no bytes")
  else .ok (BigInteger.ofBytes bytes)

namespace Identifier

/-- The tree of an identifier. -/
def decode (identifier : Identifier) : Decoded WireTree.Identifier :=
  match identifier.kind with
  | .unrecognized _ => .error (UnionTag.unsupported identifier.kind)
  | .known kind =>
    match kind with
    | .localVariable =>
      (UnionTag.payload kind "localVariable" identifier.localVariable).map .localVariable
    | .globalCallable =>
      (UnionTag.payload kind "globalCallable" identifier.globalCallable).map .globalCallable
    | .invalidIdentifier => .ok .invalidIdentifier

end Identifier

namespace ExpressionSlots

variable {E S T : Type}

/-- The operand of an operator with one. -/
def single (slots : ExpressionSlots E S T) (kind : ExpressionTag)
    (build : E → ExpressionKind E S T) : Decoded (ExpressionKind E S T) :=
  (UnionTag.payload kind "expressionSingle" slots.expressionSingle).map build

/-- The operands of an operator with two. -/
def double (slots : ExpressionSlots E S T) (kind : ExpressionTag)
    (build : E → E → ExpressionKind E S T) : Decoded (ExpressionKind E S T) :=
  (UnionTag.payload kind "expressionDouble" slots.expressionDouble).map fun operands =>
    build operands.first operands.second

/-- The operands of an operator with three. -/
def triple (slots : ExpressionSlots E S T) (kind : ExpressionTag)
    (build : E → E → E → ExpressionKind E S T) : Decoded (ExpressionKind E S T) :=
  (UnionTag.payload kind "expressionTriple" slots.expressionTriple).map fun operands =>
    build operands.first operands.second operands.third

/-- The items of a tuple or an array. -/
def array (slots : ExpressionSlots E S T) (kind : ExpressionTag)
    (build : List E → ExpressionKind E S T) : Decoded (ExpressionKind E S T) :=
  (UnionTag.payload kind "expressionArray" slots.expressionArray).map build

/-- The expression whose parts are those of the selected payload. Trees have no place for
sized arrays and lambdas. -/
def select (slots : ExpressionSlots E S T) : Decoded (ExpressionKind E S T) :=
  match slots.kind with
  | .unrecognized _ => .error (UnionTag.unsupported slots.kind)
  | .known kind =>
    match kind with
    | .unitValue => .ok .unitValue
    | .identifier =>
      (UnionTag.payload kind "identifier" slots.identifier).map fun payload =>
        .identifier payload.symbol payload.types
    | .valueTuple => slots.array kind .valueTuple
    | .intLiteral => .ok (.intLiteral slots.intLiteral)
    | .bigIntLiteral => do
      let bytes ← UnionTag.payload kind "bigIntLiteral" slots.bigIntLiteral
      return .bigIntLiteral (← decodeBigInteger bytes)
    | .doubleLiteral => .ok (.doubleLiteral slots.doubleLiteral)
    | .boolLiteral => .ok (.boolLiteral slots.boolLiteral)
    | .stringLiteral =>
      (UnionTag.payload kind "stringLiteral" slots.stringLiteral).map fun payload =>
        .stringLiteral payload.text payload.expressions
    | .resultLiteral =>
      (UnionTag.payload kind "resultLiteral" slots.resultLiteral).map .resultLiteral
    | .pauliLiteral => (UnionTag.payload kind "pauliLiteral" slots.pauliLiteral).map .pauliLiteral
    | .rangeLiteral => slots.double kind .rangeLiteral
    | .newArray =>
      (UnionTag.payload kind "newArray" slots.newArray).map fun payload =>
        .newArray payload.type payload.length
    | .sizedArray => .error (UnionTag.unsupported slots.kind)
    | .valueArray => slots.array kind .valueArray
    | .arrayItem => slots.double kind .arrayItem
    | .namedItem =>
      (UnionTag.payload kind "namedItem" slots.namedItem).map fun payload =>
        .namedItem payload.accessed payload.symbol
    | .neg => slots.single kind (.unaryOperation .neg)
    | .not => slots.single kind (.unaryOperation .not)
    | .bNot => slots.single kind (.unaryOperation .bNot)
    | .add => slots.double kind (.binaryOperation .add)
    | .sub => slots.double kind (.binaryOperation .sub)
    | .mul => slots.double kind (.binaryOperation .mul)
    | .div => slots.double kind (.binaryOperation .div)
    | .pow => slots.double kind (.binaryOperation .pow)
    | .mod => slots.double kind (.binaryOperation .mod)
    | .lShift => slots.double kind (.binaryOperation .lShift)
    | .rShift => slots.double kind (.binaryOperation .rShift)
    | .bOr => slots.double kind (.binaryOperation .bOr)
    | .bXor => slots.double kind (.binaryOperation .bXor)
    | .bAnd => slots.double kind (.binaryOperation .bAnd)
    | .lt => slots.double kind (.binaryOperation .lt)
    | .lte => slots.double kind (.binaryOperation .lte)
    | .gt => slots.double kind (.binaryOperation .gt)
    | .gte => slots.double kind (.binaryOperation .gte)
    | .eq => slots.double kind (.binaryOperation .eq)
    | .neq => slots.double kind (.binaryOperation .neq)
    | .and => slots.double kind (.binaryOperation .and)
    | .or => slots.double kind (.binaryOperation .or)
    | .conditional => slots.triple kind .conditional
    | .copyAndUpdate => slots.triple kind .copyAndUpdate
    | .unwrapApplication => slots.single kind .unwrapApplication
    | .adjointApplication => slots.single kind .adjointApplication
    | .controlledApplication => slots.single kind .controlledApplication
    | .callLikeExpression => slots.double kind .callLikeExpression
    | .lambda => .error (UnionTag.unsupported slots.kind)
    | .missingExpr => .ok .missingExpr
    | .invalidExpr => .ok .invalidExpr

/-- Decode an expression union, given how its parts are decoded. -/
def decodeWith {m : Type → Type} [Monad m] [MonadExcept Fault m] {E' S' T' : Type}
    (expression : E → m E') (symbol : S → m S') (type : T → m T')
    (slots : ExpressionSlots E S T) : m (ExpressionKind E' S' T') :=
  match slots.select with
  | .error fault => throw fault
  | .ok kind => kind.traverse expression symbol type

end ExpressionSlots

/-- The tree of a type argument. -/
def decodeTypeArgument (argument : TypeArgument ResolvedType) :
    Decoded (TypeArgument WireTree.ResolvedType) := do
  return ⟨argument.callable, argument.name, ← argument.type.decode⟩

/-- The tree of a typed expression. -/
def TypedExpression.decode : TypedExpression → Decoded WireTree.TypedExpression :=
  fold fun node => do
    let expression ← node.expression.decodeWith id Identifier.decode ResolvedType.decode
    let typeArguments ← node.typeArguments.mapM decodeTypeArgument
    let resolvedType ← node.resolvedType.decode
    return .mk ⟨expression, typeArguments, resolvedType, node.inferredInformation, node.range⟩

end WireTree.Wire
