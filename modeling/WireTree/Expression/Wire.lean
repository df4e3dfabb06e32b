import WireTree.Expression.Basic
import WireTree.ResolvedType.Wire

/-!
# Expressions on the wire

Operators share payload slots by the number of their operands.
-/

namespace WireTree.Wire

/-- The kinds of identifiers. -/
inductive IdentifierTag where
  | localVariable
  | globalCallable
  | invalidIdentifier
deriving DecidableEq

instance : UnionTag IdentifierTag where
  all := [.localVariable, .globalCallable, .invalidIdentifier]
  name
    | .localVariable => "LocalVariable"
    | .globalCallable => "GlobalCallable"
    | .invalidIdentifier => "InvalidIdentifier"
  union := "Identifier"

/-- An identifier union. -/
structure Identifier where
  kind : Discriminator IdentifierTag
  localVariable : Option String
  globalCallable : Option QualifiedName
deriving DecidableEq

/-- The kinds of expressions. -/
inductive ExpressionTag where
  | unitValue
  | identifier
  | valueTuple
  | intLiteral
  | bigIntLiteral
  | doubleLiteral
  | boolLiteral
  | stringLiteral
  | resultLiteral
  | pauliLiteral
  | rangeLiteral
  | newArray
  | sizedArray
  | valueArray
  | arrayItem
  | namedItem
  | neg
  | not
  | bNot
  | add
  | sub
  | mul
  | div
  | pow
  | mod
  | lShift
  | rShift
  | bOr
  | bXor
  | bAnd
  | lt
  | lte
  | gt
  | gte
  | eq
  | neq
  | and
  | or
  | conditional
  | copyAndUpdate
  | unwrapApplication
  | adjointApplication
  | controlledApplication
  | callLikeExpression
  | lambda
  | missingExpr
  | invalidExpr
deriving DecidableEq

instance : UnionTag ExpressionTag where
  all := [.unitValue, .identifier, .valueTuple, .intLiteral, .bigIntLiteral,
    .doubleLiteral, .boolLiteral, .stringLiteral, .resultLiteral, .pauliLiteral,
    .rangeLiteral, .newArray, .sizedArray, .valueArray, .arrayItem, .namedItem, .neg,
    .not, .bNot, .add, .sub, .mul, .div, .pow, .mod, .lShift, .rShift, .bOr, .bXor, .bAnd,
    .lt, .lte, .gt, .gte, .eq, .neq, .and, .or, .conditional, .copyAndUpdate,
    .unwrapApplication, .adjointApplication, .controlledApplication, .callLikeExpression,
    .lambda, .missingExpr, .invalidExpr]
  name
    | .unitValue => "UnitValue"
    | .identifier => "Identifier"
    | .valueTuple => "ValueTuple"
    | .intLiteral => "IntLiteral"
    | .bigIntLiteral => "BigIntLiteral"
    | .doubleLiteral => "DoubleLiteral"
    | .boolLiteral => "BoolLiteral"
    | .stringLiteral => "StringLiteral"
    | .resultLiteral => "ResultLiteral"
    | .pauliLiteral => "PauliLiteral"
    | .rangeLiteral => "RangeLiteral"
    | .newArray => "NewArray"
    | .sizedArray => "SizedArray"
    | .valueArray => "ValueArray"
    | .arrayItem => "ArrayItem"
    | .namedItem => "NamedItem"
    | .neg => "Neg"
    | .not => "Not"
    | .bNot => "BNot"
    | .add => "Add"
    | .sub => "Sub"
    | .mul => "Mul"
    | .div => "Div"
    | .pow => "Pow"
    | .mod => "Mod"
    | .lShift => "LShift"
    | .rShift => "RShift"
    | .bOr => "BOr"
    | .bXor => "BXor"
    | .bAnd => "BAnd"
    | .lt => "Lt"
    | .lte => "Lte"
    | .gt => "Gt"
    | .gte => "Gte"
    | .eq => "Eq"
    | .neq => "Neq"
    | .and => "And"
    | .or => "Or"
    | .conditional => "Conditional"
    | .copyAndUpdate => "CopyAndUpdate"
    | .unwrapApplication => "UnwrapApplication"
    | .adjointApplication => "AdjointApplication"
    | .controlledApplication => "ControlledApplication"
    | .callLikeExpression => "CallLikeExpression"
    | .lambda => "Lambda"
    | .missingExpr => "MissingExpr"
    | .invalidExpr => "InvalidExpr"
  union := "ExpressionKind"

/-- The payload of an identifier: a symbol, and type arguments if any were given. -/
structure IdentifierPayload (S T : Type) where
  symbol : S
  types : Option (List T)
deriving BEq

/-- The payload of a string literal: its text and the expressions interpolated in it. -/
structure StringPayload (E : Type) where
  text : String
  expressions : List E
deriving BEq

/-- The payload of a new array: the type of its items and its length. -/
structure NewArrayPayload (E T : Type) where
  type : T
  length : E
deriving BEq

/-- The payload of a named item: what is accessed and the item's name. -/
structure NamedItemPayload (E S : Type) where
  accessed : E
  symbol : S
deriving BEq

/-- Two operands. -/
structure TwoOperands (E : Type) where
  first : E
  second : E
deriving BEq

/-- Three operands. -/
structure ThreeOperands (E : Type) where
  first : E
  second : E
  third : E
deriving BEq

/-- An expression union, over nested expressions `E`, symbols `S` and types `T`. Equality
with `==` compares doubles as numbers, slots that are not selected included. -/
structure ExpressionSlots (E S T : Type) where
  kind : Discriminator ExpressionTag
  identifier : Option (IdentifierPayload S T)
  intLiteral : Int64
  bigIntLiteral : Option (List UInt8)
  doubleLiteral : Binary64
  boolLiteral : Bool
  stringLiteral : Option (StringPayload E)
  resultLiteral : Option ResultValue
  pauliLiteral : Option Pauli
  newArray : Option (NewArrayPayload E T)
  namedItem : Option (NamedItemPayload E S)
  expressionSingle : Option E
  expressionDouble : Option (TwoOperands E)
  expressionTriple : Option (ThreeOperands E)
  expressionArray : Option (List E)
deriving BEq

namespace ExpressionSlots

variable {E E' S T : Type}

/-- The slots of a kind with all payloads absent and all scalars at their defaults. -/
def ofKind (kind : ExpressionTag) : ExpressionSlots E S T :=
  { kind := .known kind
    identifier := none
    intLiteral := 0
    bigIntLiteral := none
    doubleLiteral := .zero
    boolLiteral := false
    stringLiteral := none
    resultLiteral := none
    pauliLiteral := none
    newArray := none
    namedItem := none
    expressionSingle := none
    expressionDouble := none
    expressionTriple := none
    expressionArray := none }

/-- The expressions in all slots, selected or not. -/
def expressions (slots : ExpressionSlots E S T) : List E :=
  (slots.stringLiteral.elim [] (·.expressions)) ++
    (slots.newArray.elim [] fun payload => [payload.length]) ++
    (slots.namedItem.elim [] fun payload => [payload.accessed]) ++
    slots.expressionSingle.toList ++
    (slots.expressionDouble.elim [] fun operands => [operands.first, operands.second]) ++
    (slots.expressionTriple.elim [] fun operands =>
      [operands.first, operands.second, operands.third]) ++
    slots.expressionArray.getD []

/-- Replace each expression. -/
def map (f : E → E') (slots : ExpressionSlots E S T) : ExpressionSlots E' S T :=
  { kind := slots.kind
    identifier := slots.identifier
    intLiteral := slots.intLiteral
    bigIntLiteral := slots.bigIntLiteral
    doubleLiteral := slots.doubleLiteral
    boolLiteral := slots.boolLiteral
    stringLiteral := slots.stringLiteral.map fun payload =>
      ⟨payload.text, payload.expressions.map f⟩
    resultLiteral := slots.resultLiteral
    pauliLiteral := slots.pauliLiteral
    newArray := slots.newArray.map fun payload => ⟨payload.type, f payload.length⟩
    namedItem := slots.namedItem.map fun payload => ⟨f payload.accessed, payload.symbol⟩
    expressionSingle := slots.expressionSingle.map f
    expressionDouble := slots.expressionDouble.map fun operands =>
      ⟨f operands.first, f operands.second⟩
    expressionTriple := slots.expressionTriple.map fun operands =>
      ⟨f operands.first, f operands.second, f operands.third⟩
    expressionArray := slots.expressionArray.map (List.map f) }

/-- The slots without the expressions in them. -/
def shape (slots : ExpressionSlots E S T) : ExpressionSlots Unit S T :=
  slots.map fun _ => ()

theorem map_map {D : Type} (f : E → E') (g : E' → D) (slots : ExpressionSlots E S T) :
    (slots.map f).map g = slots.map fun e => g (f e) := by
  simp only [map, Option.map_map, List.map_map, Function.comp_def]

theorem shape_map (f : E → E') (slots : ExpressionSlots E S T) :
    (slots.map f).shape = slots.shape :=
  slots.map_map f fun _ => ()

theorem expressions_map (f : E → E') (slots : ExpressionSlots E S T) :
    (slots.map f).expressions = slots.expressions.map f := by
  simp only [expressions, map, List.map_append]
  congr 1
  · congr 1
    · congr 1
      · congr 1
        · congr 1
          · congr 1
            · cases slots.stringLiteral <;> rfl
            · cases slots.newArray <;> rfl
          · cases slots.namedItem <;> rfl
        · cases slots.expressionSingle <;> rfl
      · cases slots.expressionDouble <;> rfl
    · cases slots.expressionTriple <;> rfl
  · cases slots.expressionArray <;> rfl

end ExpressionSlots

/-- A typed expression. -/
inductive TypedExpression where
  | mk (node : Typed (ExpressionSlots TypedExpression Identifier ResolvedType) ResolvedType)

namespace TypedExpression

/-- The outermost node of a typed expression, over the expressions in it. -/
abbrev Node (X : Type) := Typed (ExpressionSlots X Identifier ResolvedType) ResolvedType

/-- The outermost node. -/
def node : TypedExpression → Node TypedExpression
  | mk node => node

/-- Replace each nested expression of a node. -/
def Node.map {X Y : Type} (f : X → Y) (node : Node X) : Node Y :=
  node.withExpression (node.expression.map f)

/-- The node without the expressions in it. -/
def Node.shape {X : Type} (node : Node X) : Node Unit :=
  node.map fun _ => ()

mutual

/-- Evaluate an expression from the expressions in it up, those in slots that are not selected
included. -/
def fold {X : Type} (evaluate : Node X → X) : TypedExpression → X
  | mk ⟨⟨kind, identifier, intLiteral, bigIntLiteral, doubleLiteral, boolLiteral, stringLiteral,
      resultLiteral, pauliLiteral, newArray, namedItem, single, double, triple, array⟩,
      typeArguments, resolvedType, inferredInformation, range⟩ =>
    evaluate
      { typeArguments, resolvedType, inferredInformation, range
        expression :=
          { kind, identifier, intLiteral, bigIntLiteral, doubleLiteral, boolLiteral,
            resultLiteral, pauliLiteral
            stringLiteral := foldString evaluate stringLiteral
            newArray := foldNewArray evaluate newArray
            namedItem := foldNamedItem evaluate namedItem
            expressionSingle := foldOne evaluate single
            expressionDouble := foldTwo evaluate double
            expressionTriple := foldThree evaluate triple
            expressionArray := foldMany evaluate array } }

/-- Evaluate the expressions interpolated in a string. -/
def foldString {X : Type} (evaluate : Node X → X) :
    Option (StringPayload TypedExpression) → Option (StringPayload X)
  | none => none
  | some ⟨text, expressions⟩ => some ⟨text, foldAll evaluate expressions⟩

/-- Evaluate the length of a new array. -/
def foldNewArray {X : Type} (evaluate : Node X → X) :
    Option (NewArrayPayload TypedExpression ResolvedType) →
      Option (NewArrayPayload X ResolvedType)
  | none => none
  | some ⟨type, length⟩ => some ⟨type, length.fold evaluate⟩

/-- Evaluate what an item is accessed of. -/
def foldNamedItem {X : Type} (evaluate : Node X → X) :
    Option (NamedItemPayload TypedExpression Identifier) →
      Option (NamedItemPayload X Identifier)
  | none => none
  | some ⟨accessed, symbol⟩ => some ⟨accessed.fold evaluate, symbol⟩

/-- Evaluate a single operand. -/
def foldOne {X : Type} (evaluate : Node X → X) : Option TypedExpression → Option X
  | none => none
  | some operand => some (operand.fold evaluate)

/-- Evaluate two operands. -/
def foldTwo {X : Type} (evaluate : Node X → X) :
    Option (TwoOperands TypedExpression) → Option (TwoOperands X)
  | none => none
  | some ⟨first, second⟩ => some ⟨first.fold evaluate, second.fold evaluate⟩

/-- Evaluate three operands. -/
def foldThree {X : Type} (evaluate : Node X → X) :
    Option (ThreeOperands TypedExpression) → Option (ThreeOperands X)
  | none => none
  | some ⟨first, second, third⟩ =>
    some ⟨first.fold evaluate, second.fold evaluate, third.fold evaluate⟩

/-- Evaluate the items of an array. -/
def foldMany {X : Type} (evaluate : Node X → X) :
    Option (List TypedExpression) → Option (List X)
  | none => none
  | some items => some (foldAll evaluate items)

/-- Evaluate each expression in a list. -/
def foldAll {X : Type} (evaluate : Node X → X) : List TypedExpression → List X
  | [] => []
  | e :: es => e.fold evaluate :: foldAll evaluate es

end

theorem foldAll_eq_map {X : Type} (evaluate : Node X → X) (es : List TypedExpression) :
    foldAll evaluate es = es.map (fold evaluate) := by
  induction es with
  | nil => rfl
  | cons e es ih => rw [foldAll, ih, List.map_cons]

theorem foldString_eq_map {X : Type} (evaluate : Node X → X)
    (slot : Option (StringPayload TypedExpression)) :
    foldString evaluate slot =
      slot.map fun payload => ⟨payload.text, payload.expressions.map (fold evaluate)⟩ := by
  cases slot with
  | none => rfl
  | some payload => rw [foldString, foldAll_eq_map, Option.map_some]

theorem foldNewArray_eq_map {X : Type} (evaluate : Node X → X)
    (slot : Option (NewArrayPayload TypedExpression ResolvedType)) :
    foldNewArray evaluate slot =
      slot.map fun payload => ⟨payload.type, fold evaluate payload.length⟩ := by
  cases slot <;> rfl

theorem foldNamedItem_eq_map {X : Type} (evaluate : Node X → X)
    (slot : Option (NamedItemPayload TypedExpression Identifier)) :
    foldNamedItem evaluate slot =
      slot.map fun payload => ⟨fold evaluate payload.accessed, payload.symbol⟩ := by
  cases slot <;> rfl

theorem foldOne_eq_map {X : Type} (evaluate : Node X → X) (slot : Option TypedExpression) :
    foldOne evaluate slot = slot.map (fold evaluate) := by
  cases slot <;> rfl

theorem foldTwo_eq_map {X : Type} (evaluate : Node X → X)
    (slot : Option (TwoOperands TypedExpression)) :
    foldTwo evaluate slot = slot.map fun operands =>
      ⟨fold evaluate operands.first, fold evaluate operands.second⟩ := by
  cases slot <;> rfl

theorem foldThree_eq_map {X : Type} (evaluate : Node X → X)
    (slot : Option (ThreeOperands TypedExpression)) :
    foldThree evaluate slot = slot.map fun operands =>
      ⟨fold evaluate operands.first, fold evaluate operands.second,
        fold evaluate operands.third⟩ := by
  cases slot <;> rfl

theorem foldMany_eq_map {X : Type} (evaluate : Node X → X)
    (slot : Option (List TypedExpression)) :
    foldMany evaluate slot = slot.map (List.map (fold evaluate)) := by
  cases slot with
  | none => rfl
  | some items => rw [foldMany, foldAll_eq_map, Option.map_some]

theorem fold_mk {X : Type} (evaluate : Node X → X) (node : Node TypedExpression) :
    fold evaluate (mk node) = evaluate (node.map (fold evaluate)) := by
  obtain ⟨⟨kind, identifier, intLiteral, bigIntLiteral, doubleLiteral, boolLiteral,
    stringLiteral, resultLiteral, pauliLiteral, newArray, namedItem, single, double, triple,
    array⟩, typeArguments, resolvedType, inferredInformation, range⟩ := node
  rw [fold, foldString_eq_map, foldNewArray_eq_map, foldNamedItem_eq_map, foldOne_eq_map,
    foldTwo_eq_map, foldThree_eq_map, foldMany_eq_map]
  rfl

/-- Whether two expressions agree, all slots included and doubles compared as numbers. -/
def same : TypedExpression → TypedExpression → Bool :=
  fold fun node other =>
    decide (node.typeArguments = other.node.typeArguments) &&
      decide (node.resolvedType = other.node.resolvedType) &&
      decide (node.inferredInformation = other.node.inferredInformation) &&
      decide (node.range = other.node.range) &&
      node.expression.shape == other.node.expression.shape &&
      allApplied node.expression.expressions other.node.expression.expressions

instance : BEq TypedExpression := ⟨same⟩

end TypedExpression

end WireTree.Wire
