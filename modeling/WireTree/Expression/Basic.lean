import WireTree.Binary64.Basic
import WireTree.ResolvedType.Basic

/-!
# Expressions

The kind of an expression is a functor of the expressions, symbols and types in it; a typed
expression is its kind with what type checking found out, as the least fixed point.
Main statements: a fold meets its equation (`fold_mk`), there is induction over the expressions in
an expression (`induct`), and equality is decidable (`same_iff`). Doubles are compared by their
bits.
-/

namespace WireTree

/-- An operator with one operand. -/
inductive UnaryOperator where
  | neg
  | not
  | bNot
deriving DecidableEq

instance : Named UnaryOperator where
  all := [.neg, .not, .bNot]
  name
    | .neg => "Neg"
    | .not => "Not"
    | .bNot => "BNot"

/-- The operator as it is written. -/
def UnaryOperator.display : UnaryOperator → String
  | .neg => "-"
  | .not => "not"
  | .bNot => "~~~"

/-- An operator with two operands. -/
inductive BinaryOperator where
  | add
  | sub
  | mul
  | div
  | pow
  | mod
  | lShift
  | rShift
  | bOr
  | bXor
  | bAnd
  | lt
  | lte
  | gt
  | gte
  | eq
  | neq
  | and
  | or
deriving DecidableEq

instance : Named BinaryOperator where
  all := [.add, .sub, .mul, .div, .pow, .mod, .lShift, .rShift, .bOr, .bXor, .bAnd, .lt, .lte,
    .gt, .gte, .eq, .neq, .and, .or]
  name
    | .add => "Add"
    | .sub => "Sub"
    | .mul => "Mul"
    | .div => "Div"
    | .pow => "Pow"
    | .mod => "Mod"
    | .lShift => "LShift"
    | .rShift => "RShift"
    | .bOr => "BOr"
    | .bXor => "BXor"
    | .bAnd => "BAnd"
    | .lt => "Lt"
    | .lte => "Lte"
    | .gt => "Gt"
    | .gte => "Gte"
    | .eq => "Eq"
    | .neq => "Neq"
    | .and => "And"
    | .or => "Or"

/-- The operator as it is written. -/
def BinaryOperator.display : BinaryOperator → String
  | .add => "+"
  | .sub => "-"
  | .mul => "*"
  | .div => "/"
  | .pow => "^"
  | .mod => "%"
  | .lShift => "<<<"
  | .rShift => ">>>"
  | .bOr => "|||"
  | .bXor => "^^^"
  | .bAnd => "&&&"
  | .lt => "<"
  | .lte => "<="
  | .gt => ">"
  | .gte => ">="
  | .eq => "=="
  | .neq => "!="
  | .and => "and"
  | .or => "or"

/-- The result of a measurement. -/
inductive ResultValue where
  | zero
  | one
deriving DecidableEq

instance : Named ResultValue where
  all := [.zero, .one]
  name
    | .zero => "Zero"
    | .one => "One"

/-- A Pauli matrix. -/
inductive Pauli where
  | i
  | x
  | y
  | z
deriving DecidableEq

instance : Named Pauli where
  all := [.i, .x, .y, .z]
  name
    | .i => "PauliI"
    | .x => "PauliX"
    | .y => "PauliY"
    | .z => "PauliZ"

/-- A reference to a local variable or to a global callable. -/
inductive Identifier where
  | localVariable (name : String)
  | globalCallable (name : QualifiedName)
  /-- an identifier that could not be resolved -/
  | invalidIdentifier
deriving DecidableEq

/-- The kind of an expression, over nested expressions `E`, symbols `S` and types `T`. -/
inductive ExpressionKind (E S T : Type) where
  | unitValue
  | identifier (symbol : S) (types : Option (List T))
  | valueTuple (items : List E)
  | intLiteral (value : Int64)
  | bigIntLiteral (value : Int)
  | doubleLiteral (value : Binary64)
  | boolLiteral (value : Bool)
  | stringLiteral (text : String) (expressions : List E)
  | resultLiteral (value : ResultValue)
  | pauliLiteral (value : Pauli)
  | rangeLiteral (first last : E)
  | newArray (type : T) (length : E)
  | valueArray (items : List E)
  | arrayItem (array index : E)
  | namedItem (accessed : E) (item : S)
  | unaryOperation (operator : UnaryOperator) (operand : E)
  | binaryOperation (operator : BinaryOperator) (left right : E)
  | conditional (condition then_ else_ : E)
  | copyAndUpdate (copied item value : E)
  | unwrapApplication (operand : E)
  | adjointApplication (operand : E)
  | controlledApplication (operand : E)
  | callLikeExpression (callee argument : E)
  /-- an expression that was not written -/
  | missingExpr
  /-- an expression that could not be resolved -/
  | invalidExpr
deriving DecidableEq

namespace ExpressionKind

variable {E E' S S' T T' : Type}

/-- The expressions in an expression, in the order in which they are written. -/
def expressions : ExpressionKind E S T → List E
  | valueTuple items => items
  | stringLiteral _ expressions => expressions
  | rangeLiteral first last => [first, last]
  | newArray _ length => [length]
  | valueArray items => items
  | arrayItem array index => [array, index]
  | namedItem accessed _ => [accessed]
  | unaryOperation _ operand => [operand]
  | binaryOperation _ left right => [left, right]
  | conditional condition then_ else_ => [condition, then_, else_]
  | copyAndUpdate copied item value => [copied, item, value]
  | unwrapApplication operand => [operand]
  | adjointApplication operand => [operand]
  | controlledApplication operand => [operand]
  | callLikeExpression callee argument => [callee, argument]
  | _ => []

/-- Replace each nested expression. -/
def map (f : E → E') : ExpressionKind E S T → ExpressionKind E' S T
  | unitValue => unitValue
  | identifier symbol types => identifier symbol types
  | valueTuple items => valueTuple (items.map f)
  | intLiteral value => intLiteral value
  | bigIntLiteral value => bigIntLiteral value
  | doubleLiteral value => doubleLiteral value
  | boolLiteral value => boolLiteral value
  | stringLiteral text expressions => stringLiteral text (expressions.map f)
  | resultLiteral value => resultLiteral value
  | pauliLiteral value => pauliLiteral value
  | rangeLiteral first last => rangeLiteral (f first) (f last)
  | newArray type length => newArray type (f length)
  | valueArray items => valueArray (items.map f)
  | arrayItem array index => arrayItem (f array) (f index)
  | namedItem accessed item => namedItem (f accessed) item
  | unaryOperation operator operand => unaryOperation operator (f operand)
  | binaryOperation operator left right => binaryOperation operator (f left) (f right)
  | conditional condition then_ else_ => conditional (f condition) (f then_) (f else_)
  | copyAndUpdate copied item value => copyAndUpdate (f copied) (f item) (f value)
  | unwrapApplication operand => unwrapApplication (f operand)
  | adjointApplication operand => adjointApplication (f operand)
  | controlledApplication operand => controlledApplication (f operand)
  | callLikeExpression callee argument => callLikeExpression (f callee) (f argument)
  | missingExpr => missingExpr
  | invalidExpr => invalidExpr

/-- The kind without the expressions in it. -/
def shape (kind : ExpressionKind E S T) : ExpressionKind Unit S T :=
  kind.map fun _ => ()

theorem map_map {D : Type} (f : E → E') (g : E' → D) (kind : ExpressionKind E S T) :
    (kind.map f).map g = kind.map fun e => g (f e) := by
  cases kind <;> simp only [map, List.map_map, Function.comp_def]

theorem shape_map (f : E → E') (kind : ExpressionKind E S T) :
    (kind.map f).shape = kind.shape :=
  kind.map_map f fun _ => ()

theorem expressions_map (f : E → E') (kind : ExpressionKind E S T) :
    (kind.map f).expressions = kind.expressions.map f := by
  cases kind <;> rfl

theorem eq_of_shape {a b : ExpressionKind E S T} (sameShape : a.shape = b.shape)
    (sameExpressions : a.expressions = b.expressions) : a = b := by
  cases a <;> cases b <;> simp_all [shape, map, expressions]

/-- Replace each part by what an effectful function makes of it, in the order in which the
parts are written. -/
def traverse {m : Type → Type} [Monad m] (expression : E → m E') (symbol : S → m S')
    (type : T → m T') : ExpressionKind E S T → m (ExpressionKind E' S' T')
  | .unitValue => pure .unitValue
  | .identifier s none => do return .identifier (← symbol s) none
  | .identifier s (some types) => do
    return .identifier (← symbol s) (some (← types.mapM type))
  | .valueTuple items => do return .valueTuple (← items.mapM expression)
  | .intLiteral value => pure (.intLiteral value)
  | .bigIntLiteral value => pure (.bigIntLiteral value)
  | .doubleLiteral value => pure (.doubleLiteral value)
  | .boolLiteral value => pure (.boolLiteral value)
  | .stringLiteral text expressions => do
    return .stringLiteral text (← expressions.mapM expression)
  | .resultLiteral value => pure (.resultLiteral value)
  | .pauliLiteral value => pure (.pauliLiteral value)
  | .rangeLiteral first last => do
    return .rangeLiteral (← expression first) (← expression last)
  | .newArray t length => do return .newArray (← type t) (← expression length)
  | .valueArray items => do return .valueArray (← items.mapM expression)
  | .arrayItem array index => do
    return .arrayItem (← expression array) (← expression index)
  | .namedItem accessed item => do
    return .namedItem (← expression accessed) (← symbol item)
  | .unaryOperation operator operand => do
    return .unaryOperation operator (← expression operand)
  | .binaryOperation operator left right => do
    return .binaryOperation operator (← expression left) (← expression right)
  | .conditional condition then_ else_ => do
    return .conditional (← expression condition) (← expression then_) (← expression else_)
  | .copyAndUpdate copied item value => do
    return .copyAndUpdate (← expression copied) (← expression item) (← expression value)
  | .unwrapApplication operand => do return .unwrapApplication (← expression operand)
  | .adjointApplication operand => do return .adjointApplication (← expression operand)
  | .controlledApplication operand => do return .controlledApplication (← expression operand)
  | .callLikeExpression callee argument => do
    return .callLikeExpression (← expression callee) (← expression argument)
  | .missingExpr => pure .missingExpr
  | .invalidExpr => pure .invalidExpr

end ExpressionKind

/-- What a type parameter was resolved to. -/
structure TypeArgument (T : Type) where
  callable : QualifiedName
  name : String
  type : T
deriving DecidableEq

/-- What the compiler inferred of an expression. -/
structure InferredExpressionInformation where
  isMutable : Bool
  hasLocalQuantumDependency : Bool
deriving DecidableEq

/-- Nothing was inferred. -/
def InferredExpressionInformation.nothing : InferredExpressionInformation := ⟨false, false⟩

/-- An expression kind `X` with what type checking found out, over types `T`. The range is
relative to the enclosing statement. -/
structure Typed (X T : Type) where
  expression : X
  typeArguments : List (TypeArgument T)
  resolvedType : T
  inferredInformation : InferredExpressionInformation
  range : Option Range
deriving DecidableEq

/-- The same finding on another expression kind. -/
def Typed.withExpression {X Y T : Type} (typed : Typed X T) (expression : Y) : Typed Y T :=
  { typed with expression }

/-- A typed expression. -/
inductive TypedExpression where
  | mk (node : Typed (ExpressionKind TypedExpression Identifier ResolvedType) ResolvedType)

namespace TypedExpression

/-- The outermost node of a typed expression, over the expressions in it. -/
abbrev Node (X : Type) := Typed (ExpressionKind X Identifier ResolvedType) ResolvedType

/-- The outermost node. -/
def node : TypedExpression → Node TypedExpression
  | mk node => node

/-- Replace each nested expression of a node. -/
def Node.map {X Y : Type} (f : X → Y) (node : Node X) : Node Y :=
  node.withExpression (node.expression.map f)

mutual

/-- Evaluate an expression from the expressions in it up. -/
def fold {X : Type} (evaluate : Node X → X) : TypedExpression → X
  | mk ⟨kind, typeArguments, resolvedType, inferredInformation, range⟩ =>
    evaluate
      { typeArguments, resolvedType, inferredInformation, range
        expression := match kind with
          | .unitValue => .unitValue
          | .identifier symbol types => .identifier symbol types
          | .valueTuple items => .valueTuple (foldAll evaluate items)
          | .intLiteral value => .intLiteral value
          | .bigIntLiteral value => .bigIntLiteral value
          | .doubleLiteral value => .doubleLiteral value
          | .boolLiteral value => .boolLiteral value
          | .stringLiteral text expressions => .stringLiteral text (foldAll evaluate expressions)
          | .resultLiteral value => .resultLiteral value
          | .pauliLiteral value => .pauliLiteral value
          | .rangeLiteral first last =>
            .rangeLiteral (first.fold evaluate) (last.fold evaluate)
          | .newArray type length => .newArray type (length.fold evaluate)
          | .valueArray items => .valueArray (foldAll evaluate items)
          | .arrayItem array index => .arrayItem (array.fold evaluate) (index.fold evaluate)
          | .namedItem accessed item => .namedItem (accessed.fold evaluate) item
          | .unaryOperation operator operand =>
            .unaryOperation operator (operand.fold evaluate)
          | .binaryOperation operator left right =>
            .binaryOperation operator (left.fold evaluate) (right.fold evaluate)
          | .conditional condition then_ else_ =>
            .conditional (condition.fold evaluate) (then_.fold evaluate) (else_.fold evaluate)
          | .copyAndUpdate copied item value =>
            .copyAndUpdate (copied.fold evaluate) (item.fold evaluate) (value.fold evaluate)
          | .unwrapApplication operand => .unwrapApplication (operand.fold evaluate)
          | .adjointApplication operand => .adjointApplication (operand.fold evaluate)
          | .controlledApplication operand => .controlledApplication (operand.fold evaluate)
          | .callLikeExpression callee argument =>
            .callLikeExpression (callee.fold evaluate) (argument.fold evaluate)
          | .missingExpr => .missingExpr
          | .invalidExpr => .invalidExpr }

/-- Evaluate each expression in a list. -/
def foldAll {X : Type} (evaluate : Node X → X) : List TypedExpression → List X
  | [] => []
  | e :: es => e.fold evaluate :: foldAll evaluate es

end

theorem foldAll_eq_map {X : Type} (evaluate : Node X → X) (es : List TypedExpression) :
    foldAll evaluate es = es.map (fold evaluate) := by
  induction es with
  | nil => rfl
  | cons e es ih => rw [foldAll, ih, List.map_cons]

theorem fold_mk {X : Type} (evaluate : Node X → X) (node : Node TypedExpression) :
    fold evaluate (mk node) = evaluate (node.map (fold evaluate)) := by
  obtain ⟨kind, typeArguments, resolvedType, inferredInformation, range⟩ := node
  cases kind <;> simp [fold, Node.map, Typed.withExpression, ExpressionKind.map, foldAll_eq_map]

theorem sizeOf_lt_of_mem {node : Node TypedExpression} {e : TypedExpression}
    (member : e ∈ node.expression.expressions) : sizeOf e < sizeOf (mk node) := by
  obtain ⟨kind, typeArguments, resolvedType, inferredInformation, range⟩ := node
  have below : sizeOf e < sizeOf kind := by
    cases kind
    case valueTuple items | stringLiteral text items | valueArray items =>
      have : sizeOf e < sizeOf items := List.sizeOf_lt_of_mem member
      simp
      omega
    all_goals simp [ExpressionKind.expressions] at member
    all_goals simp
    all_goals grind
  simp
  omega

/-- What holds of an expression whenever it holds of the expressions in it holds of every
expression. -/
theorem induct {P : TypedExpression → Prop}
    (step : ∀ node, (∀ e ∈ node.expression.expressions, P e) → P (mk node))
    (e : TypedExpression) : P e :=
  match e with
  | mk node => step node fun inner member =>
    have := sizeOf_lt_of_mem member
    induct step inner
termination_by sizeOf e
decreasing_by assumption

/-- The node without the expressions in it. -/
def Node.shape {X : Type} (node : Node X) : Node Unit :=
  node.map fun _ => ()

/-- Whether two expressions are the same. -/
def same : TypedExpression → TypedExpression → Bool :=
  fold fun node other =>
    decide (node.shape = other.node.shape) &&
      allApplied node.expression.expressions other.node.expression.expressions

theorem same_mk (node : Node TypedExpression) (other : TypedExpression) :
    same (mk node) other = (decide (node.shape = other.node.shape) &&
      allApplied (node.expression.expressions.map same) other.node.expression.expressions) := by
  rw [same, fold_mk]
  simp only [Node.shape, Node.map, Typed.withExpression, ExpressionKind.expressions_map]
  congr 3
  rw [← ExpressionKind.shape, ← ExpressionKind.shape, ExpressionKind.shape_map]

theorem same_iff (a b : TypedExpression) : same a b = true ↔ a = b := by
  induction a using induct generalizing b with
  | step node ih =>
    obtain ⟨other⟩ := b
    have expressions := allApplied_map_iff same node.expression.expressions
      other.expression.expressions ih
    rw [same_mk, Bool.and_eq_true, decide_eq_true_eq, TypedExpression.node, expressions, mk.injEq]
    constructor
    · rintro ⟨sameShape, sameExpressions⟩
      obtain ⟨kind, typeArguments, resolvedType, inferredInformation, range⟩ := node
      obtain ⟨kind', typeArguments', resolvedType', inferredInformation', range'⟩ := other
      simp only [Node.shape, Node.map, Typed.withExpression, Typed.mk.injEq] at sameShape
      obtain ⟨sameKind, rfl, rfl, rfl, rfl⟩ := sameShape
      rw [ExpressionKind.eq_of_shape sameKind sameExpressions]
    · rintro rfl
      exact ⟨rfl, rfl⟩

instance : DecidableEq TypedExpression := fun a b =>
  decidable_of_iff (same a b = true) (same_iff a b)

end TypedExpression

end WireTree
