import WireTree.Expression.Decode
import WireTree.Proofs.Selection.Basic

/-!
# The slots of an expression union

Operators share the slots for one, two and three operands. The scalars are always there; the bytes
of a big integer may be there and still be no integer.
Main statements: selecting follows the table of slots (`select_selects`), two unions of one kind
agree on what counts exactly if they select related expressions (`agree_iff`), and an expression is
decoded exactly if its parts are (`traverse_eq_ok_iff`).
-/

namespace WireTree

/-- A part of an expression, in the role that it has there. -/
inductive ExpressionPart (E S T : Type) where
  | expression (e : E)
  | symbol (s : S)
  | type (t : T)

/-- Replace a part that is an expression. -/
def ExpressionPart.map {E E' S T : Type} (f : E → E') :
    ExpressionPart E S T → ExpressionPart E' S T
  | .expression e => .expression (f e)
  | .symbol s => .symbol s
  | .type t => .type t

/-- What decoding a part reports, given how the parts of each role are decoded. -/
def ExpressionPart.fault? {E E' S S' T T' : Type} (expression : E → Decoded E')
    (symbol : S → Decoded S') (type : T → Decoded T') : ExpressionPart E S T → Option Fault
  | .expression e => WireTree.fault? (expression e)
  | .symbol s => WireTree.fault? (symbol s)
  | .type t => WireTree.fault? (type t)

/-- The kind on the wire of an operator with one operand. -/
def UnaryOperator.tag : UnaryOperator → Wire.ExpressionTag
  | .neg => .neg
  | .not => .not
  | .bNot => .bNot

/-- The kind on the wire of an operator with two operands. -/
def BinaryOperator.tag : BinaryOperator → Wire.ExpressionTag
  | .add => .add
  | .sub => .sub
  | .mul => .mul
  | .div => .div
  | .pow => .pow
  | .mod => .mod
  | .lShift => .lShift
  | .rShift => .rShift
  | .bOr => .bOr
  | .bXor => .bXor
  | .bAnd => .bAnd
  | .lt => .lt
  | .lte => .lte
  | .gt => .gt
  | .gte => .gte
  | .eq => .eq
  | .neq => .neq
  | .and => .and
  | .or => .or

namespace ExpressionKind

variable {E E' E'' S S' S'' T T' T'' : Type}

/-- The kind on the wire that selects an expression. -/
def tag : ExpressionKind E S T → Wire.ExpressionTag
  | unitValue => .unitValue
  | identifier _ _ => .identifier
  | valueTuple _ => .valueTuple
  | intLiteral _ => .intLiteral
  | bigIntLiteral _ => .bigIntLiteral
  | doubleLiteral _ => .doubleLiteral
  | boolLiteral _ => .boolLiteral
  | stringLiteral _ _ => .stringLiteral
  | resultLiteral _ => .resultLiteral
  | pauliLiteral _ => .pauliLiteral
  | rangeLiteral _ _ => .rangeLiteral
  | newArray _ _ => .newArray
  | valueArray _ => .valueArray
  | arrayItem _ _ => .arrayItem
  | namedItem _ _ => .namedItem
  | unaryOperation operator _ => operator.tag
  | binaryOperation operator _ _ => operator.tag
  | conditional _ _ _ => .conditional
  | copyAndUpdate _ _ _ => .copyAndUpdate
  | unwrapApplication _ => .unwrapApplication
  | adjointApplication _ => .adjointApplication
  | controlledApplication _ => .controlledApplication
  | callLikeExpression _ _ => .callLikeExpression
  | missingExpr => .missingExpr
  | invalidExpr => .invalidExpr

/-- The parts of an expression, in the order in which they are decoded. -/
def parts : ExpressionKind E S T → List (ExpressionPart E S T)
  | identifier symbol types => .symbol symbol :: types.elim [] fun types => types.map .type
  | valueTuple items => items.map .expression
  | stringLiteral _ expressions => expressions.map .expression
  | rangeLiteral first last => [.expression first, .expression last]
  | newArray type length => [.type type, .expression length]
  | valueArray items => items.map .expression
  | arrayItem array index => [.expression array, .expression index]
  | namedItem accessed item => [.expression accessed, .symbol item]
  | unaryOperation _ operand => [.expression operand]
  | binaryOperation _ left right => [.expression left, .expression right]
  | conditional condition then_ else_ =>
    [.expression condition, .expression then_, .expression else_]
  | copyAndUpdate copied item value => [.expression copied, .expression item, .expression value]
  | unwrapApplication operand => [.expression operand]
  | adjointApplication operand => [.expression operand]
  | controlledApplication operand => [.expression operand]
  | callLikeExpression callee argument => [.expression callee, .expression argument]
  | _ => []

/-- Two expressions of the same form whose parts are related. -/
inductive Related (RE : E → E' → Prop) (RS : S → S' → Prop) (RT : T → T' → Prop) :
    ExpressionKind E S T → ExpressionKind E' S' T' → Prop where
  | unitValue : Related RE RS RT .unitValue .unitValue
  | identifier {symbol : S} {symbol' : S'} {types : Option (List T)} {types' : Option (List T')}
      (first : RS symbol symbol') (second : Option.Rel (List.Forall₂ RT) types types') :
      Related RE RS RT (.identifier symbol types) (.identifier symbol' types')
  | valueTuple {items : List E} {items' : List E'} (related : List.Forall₂ RE items items') :
      Related RE RS RT (.valueTuple items) (.valueTuple items')
  | intLiteral {value value' : Int64} (same : value = value') :
      Related RE RS RT (.intLiteral value) (.intLiteral value')
  | bigIntLiteral {value value' : Int} (same : value = value') :
      Related RE RS RT (.bigIntLiteral value) (.bigIntLiteral value')
  | doubleLiteral {value value' : Binary64} (same : value = value') :
      Related RE RS RT (.doubleLiteral value) (.doubleLiteral value')
  | boolLiteral {value value' : Bool} (same : value = value') :
      Related RE RS RT (.boolLiteral value) (.boolLiteral value')
  | stringLiteral {text text' : String} {items : List E} {items' : List E'}
      (same : text = text') (related : List.Forall₂ RE items items') :
      Related RE RS RT (.stringLiteral text items) (.stringLiteral text' items')
  | resultLiteral {value value' : ResultValue} (same : value = value') :
      Related RE RS RT (.resultLiteral value) (.resultLiteral value')
  | pauliLiteral {value value' : Pauli} (same : value = value') :
      Related RE RS RT (.pauliLiteral value) (.pauliLiteral value')
  | rangeLiteral {a b : E} {a' b' : E'} (first : RE a a') (second : RE b b') :
      Related RE RS RT (.rangeLiteral a b) (.rangeLiteral a' b')
  | newArray {t : T} {t' : T'} {e : E} {e' : E'} (first : RT t t') (second : RE e e') :
      Related RE RS RT (.newArray t e) (.newArray t' e')
  | valueArray {items : List E} {items' : List E'} (related : List.Forall₂ RE items items') :
      Related RE RS RT (.valueArray items) (.valueArray items')
  | arrayItem {a b : E} {a' b' : E'} (first : RE a a') (second : RE b b') :
      Related RE RS RT (.arrayItem a b) (.arrayItem a' b')
  | namedItem {e : E} {e' : E'} {s : S} {s' : S'} (first : RE e e') (second : RS s s') :
      Related RE RS RT (.namedItem e s) (.namedItem e' s')
  | unaryOperation (operator : UnaryOperator) {a : E} {a' : E'} (first : RE a a') :
      Related RE RS RT (.unaryOperation operator a) (.unaryOperation operator a')
  | binaryOperation (operator : BinaryOperator) {a b : E} {a' b' : E'} (first : RE a a')
      (second : RE b b') :
      Related RE RS RT (.binaryOperation operator a b) (.binaryOperation operator a' b')
  | conditional {a b c : E} {a' b' c' : E'} (first : RE a a') (second : RE b b')
      (third : RE c c') : Related RE RS RT (.conditional a b c) (.conditional a' b' c')
  | copyAndUpdate {a b c : E} {a' b' c' : E'} (first : RE a a') (second : RE b b')
      (third : RE c c') : Related RE RS RT (.copyAndUpdate a b c) (.copyAndUpdate a' b' c')
  | unwrapApplication {a : E} {a' : E'} (first : RE a a') :
      Related RE RS RT (.unwrapApplication a) (.unwrapApplication a')
  | adjointApplication {a : E} {a' : E'} (first : RE a a') :
      Related RE RS RT (.adjointApplication a) (.adjointApplication a')
  | controlledApplication {a : E} {a' : E'} (first : RE a a') :
      Related RE RS RT (.controlledApplication a) (.controlledApplication a')
  | callLikeExpression {a b : E} {a' b' : E'} (first : RE a a') (second : RE b b') :
      Related RE RS RT (.callLikeExpression a b) (.callLikeExpression a' b')
  | missingExpr : Related RE RS RT .missingExpr .missingExpr
  | invalidExpr : Related RE RS RT .invalidExpr .invalidExpr

namespace Related

variable {RE : E → E' → Prop} {RS : S → S' → Prop} {RT : T → T' → Prop}
  {kind : ExpressionKind E S T} {kind' : ExpressionKind E' S' T'}

theorem tag_eq (related : kind.Related RE RS RT kind') : kind.tag = kind'.tag := by
  cases related <;> rfl

theorem join {QE : E → E'' → Prop} {QS : S → S'' → Prop} {QT : T → T'' → Prop}
    {QE' : E' → E'' → Prop} {QS' : S' → S'' → Prop} {QT' : T' → T'' → Prop}
    {tree : ExpressionKind E'' S'' T''} (related : kind.Related QE QS QT tree)
    (related' : kind'.Related QE' QS' QT' tree) :
    kind.Related (fun a b => ∃ c, QE a c ∧ QE' b c) (fun a b => ∃ c, QS a c ∧ QS' b c)
      (fun a b => ∃ c, QT a c ∧ QT' b c) kind' := by
  cases related with
  | identifier symbol types =>
    cases related' with
    | identifier symbol' types' =>
      refine .identifier ⟨_, symbol, symbol'⟩ ?_
      refine rel_imp_of_mem ?_ (rel_join types types')
      rintro ts - ts' ⟨common, left, right⟩
      exact forall₂_join left right
  | valueTuple items | valueArray items =>
    cases related'
    rename_i items'
    constructor
    exact forall₂_join items items'
  | stringLiteral same items =>
    cases related' with
    | stringLiteral same' items' =>
      exact .stringLiteral (same.trans same'.symm) (forall₂_join items items')
  | intLiteral same | bigIntLiteral same | doubleLiteral same | boolLiteral same
  | resultLiteral same | pauliLiteral same =>
    cases related'
    rename_i same'
    constructor
    exact same.trans same'.symm
  | unaryOperation _ first | unwrapApplication first | adjointApplication first
  | controlledApplication first =>
    cases related'
    rename_i first'
    constructor
    exact ⟨_, first, first'⟩
  | rangeLiteral first second | newArray first second | arrayItem first second
  | namedItem first second | binaryOperation _ first second
  | callLikeExpression first second =>
    cases related'
    rename_i first' second'
    constructor
    · exact ⟨_, first, first'⟩
    · exact ⟨_, second, second'⟩
  | conditional first second third | copyAndUpdate first second third =>
    cases related'
    rename_i first' second' third'
    constructor
    · exact ⟨_, first, first'⟩
    · exact ⟨_, second, second'⟩
    · exact ⟨_, third, third'⟩
  | unitValue | missingExpr | invalidExpr => cases related'; constructor

theorem traverse_congr {expression : E → Decoded E''} {expression' : E' → Decoded E''}
    {symbol : S → Decoded S''} {symbol' : S' → Decoded S''} {type : T → Decoded T''}
    {type' : T' → Decoded T''}
    (alike : kind.Related (fun a b => expression a = expression' b)
      (fun a b => symbol a = symbol' b) (fun a b => type a = type' b) kind') :
    kind.traverse expression symbol type = kind'.traverse expression' symbol' type' := by
  cases alike with
  | identifier first second =>
    cases second with
    | none => simp only [traverse, first]
    | some types => simp only [traverse, first, mapM_congr_forall₂ types]
  | valueTuple items | valueArray items => simp only [traverse, mapM_congr_forall₂ items]
  | stringLiteral same items => simp only [traverse, same, mapM_congr_forall₂ items]
  | intLiteral same | bigIntLiteral same | doubleLiteral same | boolLiteral same
  | resultLiteral same | pauliLiteral same => rw [same]; rfl
  | unaryOperation _ first | unwrapApplication first | adjointApplication first
  | controlledApplication first => simp only [traverse, first]
  | rangeLiteral first second | newArray first second | arrayItem first second
  | namedItem first second | binaryOperation _ first second
  | callLikeExpression first second => simp only [traverse, first, second]
  | conditional first second third | copyAndUpdate first second third =>
    simp only [traverse, first, second, third]
  | unitValue | missingExpr | invalidExpr => rfl

end Related

theorem traverse_map {m : Type → Type} [Monad m] [LawfulMonad m] (f : E → E')
    (expression : E' → m E'') (symbol : S → m S') (type : T → m T')
    (kind : ExpressionKind E S T) :
    (kind.map f).traverse expression symbol type =
      kind.traverse (fun e => expression (f e)) symbol type := by
  cases kind with
  | valueTuple items | valueArray items | stringLiteral _ items =>
    simp only [map, traverse, List.mapM_map]
    rfl
  | identifier symbol types => cases types <;> rfl
  | _ => rfl

theorem traverse_reports {expression : E → Decoded E'} {symbol : S → Decoded S'}
    {type : T → Decoded T'} {faults : ExpressionPart E S T → List Fault}
    (kind : ExpressionKind E S T)
    (each : ∀ part ∈ kind.parts, part.fault? expression symbol type = (faults part).head?) :
    Reports (kind.traverse expression symbol type) (kind.parts.flatMap faults) := by
  -- what the parts of each role report, as steps of the traversal
  have expressions : ∀ e, .expression e ∈ kind.parts →
      Reports (expression e) (faults (.expression e)) := fun e => each (.expression e)
  have symbols : ∀ s, .symbol s ∈ kind.parts → Reports (symbol s) (faults (.symbol s)) :=
    fun s => each (.symbol s)
  have types : ∀ t, .type t ∈ kind.parts → Reports (type t) (faults (.type t)) :=
    fun t => each (.type t)
  clear each
  cases kind with
  | identifier s ts =>
    have first := symbols s (by simp [parts])
    cases ts with
    | none => exact first.bind fun _ => .ok _
    | some ts =>
      have second : Reports (ts.mapM type) (ts.flatMap fun t => faults (.type t)) :=
        Reports.mapM fun t member => types t (by simp [parts, member])
      simp only [parts, Option.elim_some, List.flatMap_cons, List.flatMap_map]
      exact first.bind fun _ => second.bind_ok
  | valueTuple items | valueArray items | stringLiteral _ items =>
    have all : Reports (items.mapM expression) (items.flatMap fun e => faults (.expression e)) :=
      Reports.mapM fun e member => expressions e (by simp [parts, member])
    rw [parts, List.flatMap_map]
    exact all.bind_ok
  | newArray t e =>
    have first := types t (by simp [parts])
    have second := expressions e (by simp [parts])
    exact first.bind fun _ => second.bind fun _ => .ok _
  | namedItem e s =>
    have first := expressions e (by simp [parts])
    have second := symbols s (by simp [parts])
    exact first.bind fun _ => second.bind fun _ => .ok _
  | unaryOperation _ a | unwrapApplication a | adjointApplication a
  | controlledApplication a =>
    have first := expressions a (by simp [parts])
    exact first.bind fun _ => .ok _
  | rangeLiteral a b | arrayItem a b | binaryOperation _ a b | callLikeExpression a b =>
    have first := expressions a (by simp [parts])
    have second := expressions b (by simp [parts])
    exact first.bind fun _ => second.bind fun _ => .ok _
  | conditional a b c | copyAndUpdate a b c =>
    have first := expressions a (by simp [parts])
    have second := expressions b (by simp [parts])
    have third := expressions c (by simp [parts])
    exact first.bind fun _ => second.bind fun _ => third.bind fun _ => .ok _
  | _ => exact .ok _

theorem traverse_eq_ok_iff {expression : E → Decoded E'} {symbol : S → Decoded S'}
    {type : T → Decoded T'} {kind : ExpressionKind E S T} {tree : ExpressionKind E' S' T'} :
    kind.traverse expression symbol type = .ok tree ↔
      kind.Related (fun a b => expression a = .ok b) (fun a b => symbol a = .ok b)
        (fun a b => type a = .ok b) tree := by
  constructor
  · intro decoded
    cases kind with
    | identifier s ts =>
      cases ts with
      | none =>
        obtain ⟨s', first, same⟩ := bind_eq_ok_iff.mp decoded
        cases same
        exact .identifier first .none
      | some ts =>
        obtain ⟨s', first, rest⟩ := bind_eq_ok_iff.mp decoded
        obtain ⟨ts', second, same⟩ := bind_eq_ok_iff.mp rest
        cases same
        exact .identifier first (.some (mapM_eq_ok_iff.mp second))
    | valueTuple items | valueArray items =>
      obtain ⟨items', related, same⟩ := bind_eq_ok_iff.mp decoded
      cases same
      constructor
      exact mapM_eq_ok_iff.mp related
    | stringLiteral text items =>
      obtain ⟨items', related, same⟩ := bind_eq_ok_iff.mp decoded
      cases same
      exact .stringLiteral rfl (mapM_eq_ok_iff.mp related)
    | unaryOperation _ a | unwrapApplication a | adjointApplication a
    | controlledApplication a =>
      obtain ⟨a', first, same⟩ := bind_eq_ok_iff.mp decoded
      cases same
      constructor
      exact first
    | rangeLiteral a b | newArray a b | arrayItem a b | namedItem a b | binaryOperation _ a b
    | callLikeExpression a b =>
      obtain ⟨a', first, rest⟩ := bind_eq_ok_iff.mp decoded
      obtain ⟨b', second, same⟩ := bind_eq_ok_iff.mp rest
      cases same
      constructor
      · exact first
      · exact second
    | conditional a b c | copyAndUpdate a b c =>
      obtain ⟨a', first, rest⟩ := bind_eq_ok_iff.mp decoded
      obtain ⟨b', second, rest⟩ := bind_eq_ok_iff.mp rest
      obtain ⟨c', third, same⟩ := bind_eq_ok_iff.mp rest
      cases same
      constructor
      · exact first
      · exact second
      · exact third
    | intLiteral _ | bigIntLiteral _ | doubleLiteral _ | boolLiteral _ | resultLiteral _
    | pauliLiteral _ => cases decoded; constructor; rfl
    | unitValue | missingExpr | invalidExpr => cases decoded; constructor
  · intro related
    cases related with
    | identifier first second =>
      cases second with
      | none => exact bind_eq_ok_iff.mpr ⟨_, first, rfl⟩
      | some types =>
        exact bind_eq_ok_iff.mpr ⟨_, first, bind_eq_ok_iff.mpr ⟨_, mapM_eq_ok_iff.mpr types, rfl⟩⟩
    | valueTuple items | valueArray items =>
      exact bind_eq_ok_iff.mpr ⟨_, mapM_eq_ok_iff.mpr items, rfl⟩
    | stringLiteral same items =>
      rw [same]
      exact bind_eq_ok_iff.mpr ⟨_, mapM_eq_ok_iff.mpr items, rfl⟩
    | unaryOperation _ first | unwrapApplication first | adjointApplication first
    | controlledApplication first => exact bind_eq_ok_iff.mpr ⟨_, first, rfl⟩
    | rangeLiteral first second | newArray first second | arrayItem first second
    | namedItem first second | binaryOperation _ first second
    | callLikeExpression first second =>
      exact bind_eq_ok_iff.mpr ⟨_, first, bind_eq_ok_iff.mpr ⟨_, second, rfl⟩⟩
    | conditional first second third | copyAndUpdate first second third =>
      refine bind_eq_ok_iff.mpr ⟨_, first, bind_eq_ok_iff.mpr ⟨_, second, ?_⟩⟩
      exact bind_eq_ok_iff.mpr ⟨_, third, rfl⟩
    | intLiteral same | bigIntLiteral same | doubleLiteral same | boolLiteral same
    | resultLiteral same | pauliLiteral same => rw [same]; rfl
    | unitValue | missingExpr | invalidExpr => rfl

end ExpressionKind

namespace Wire

/-- The payload slots of an expression union. -/
inductive ExpressionSlot where
  | identifier
  | intLiteral
  | bigIntLiteral
  | doubleLiteral
  | boolLiteral
  | stringLiteral
  | resultLiteral
  | pauliLiteral
  | newArray
  | namedItem
  | expressionSingle
  | expressionDouble
  | expressionTriple
  | expressionArray

instance : SlotTag ExpressionTag ExpressionSlot where
  demand
    | .unitValue | .missingExpr | .invalidExpr => .nothing
    | .sizedArray | .lambda => .unsupported
    | .identifier => .slot .identifier
    | .intLiteral => .slot .intLiteral
    | .bigIntLiteral => .slot .bigIntLiteral
    | .doubleLiteral => .slot .doubleLiteral
    | .boolLiteral => .slot .boolLiteral
    | .stringLiteral => .slot .stringLiteral
    | .resultLiteral => .slot .resultLiteral
    | .pauliLiteral => .slot .pauliLiteral
    | .newArray => .slot .newArray
    | .namedItem => .slot .namedItem
    | .valueTuple | .valueArray => .slot .expressionArray
    | .neg | .not | .bNot | .unwrapApplication | .adjointApplication | .controlledApplication =>
      .slot .expressionSingle
    | .rangeLiteral | .arrayItem | .add | .sub | .mul | .div | .pow | .mod | .lShift | .rShift
    | .bOr | .bXor | .bAnd | .lt | .lte | .gt | .gte | .eq | .neq | .and | .or
    | .callLikeExpression => .slot .expressionDouble
    | .conditional | .copyAndUpdate => .slot .expressionTriple
  field
    | .identifier => "identifier"
    | .intLiteral => "intLiteral"
    | .bigIntLiteral => "bigIntLiteral"
    | .doubleLiteral => "doubleLiteral"
    | .boolLiteral => "boolLiteral"
    | .stringLiteral => "stringLiteral"
    | .resultLiteral => "resultLiteral"
    | .pauliLiteral => "pauliLiteral"
    | .newArray => "newArray"
    | .namedItem => "namedItem"
    | .expressionSingle => "expressionSingle"
    | .expressionDouble => "expressionDouble"
    | .expressionTriple => "expressionTriple"
    | .expressionArray => "expressionArray"

/-- Bytes that spell the same big integer, or that are none both. -/
def SameInteger (bytes bytes' : List UInt8) : Prop :=
  bytes = [] ∧ bytes' = [] ∨
    bytes ≠ [] ∧ bytes' ≠ [] ∧ BigInteger.ofBytes bytes = BigInteger.ofBytes bytes'

theorem sameInteger_iff {bytes bytes' : List UInt8} :
    SameInteger bytes bytes' ↔
      Outcomes (· = ·) (decodeBigInteger bytes) (decodeBigInteger bytes') := by
  unfold SameInteger decodeBigInteger
  cases bytes with
  | nil =>
    cases bytes' with
    | nil => exact iff_of_true (.inl ⟨rfl, rfl⟩) (.error _)
    | cons b bs => exact iff_of_false (by simp) nofun
  | cons b bs =>
    cases bytes' with
    | nil => exact iff_of_false (by simp) nofun
    | cons b' bs' => simp [Outcomes.ok_iff]

namespace ExpressionSlots

variable {E E' E'' S S' S'' T T' T'' : Type}

/-- Whether a slot holds a payload. -/
def holds (slots : ExpressionSlots E S T) : ExpressionSlot → Bool
  | .intLiteral | .doubleLiteral | .boolLiteral => true
  | .identifier => slots.identifier.isSome
  | .bigIntLiteral => slots.bigIntLiteral.isSome
  | .stringLiteral => slots.stringLiteral.isSome
  | .resultLiteral => slots.resultLiteral.isSome
  | .pauliLiteral => slots.pauliLiteral.isSome
  | .newArray => slots.newArray.isSome
  | .namedItem => slots.namedItem.isSome
  | .expressionSingle => slots.expressionSingle.isSome
  | .expressionDouble => slots.expressionDouble.isSome
  | .expressionTriple => slots.expressionTriple.isSome
  | .expressionArray => slots.expressionArray.isSome

/-- The union's own fault. A big integer that is there needs at least one byte. -/
def ownFault (slots : ExpressionSlots E S T) : Option Fault :=
  match slots.kind, slots.bigIntLiteral with
  | .known .bigIntLiteral, some [] => some (.malformed "big integer" "no bytes")
  | kind, _ => kind.fault? slots.holds

/-- The parts in a slot: a symbol before the type arguments, the type of the items before the
length, what is accessed before the name of the item. -/
def contents (slots : ExpressionSlots E S T) : ExpressionSlot → List (ExpressionPart E S T)
  | .identifier => slots.identifier.elim [] fun payload =>
    .symbol payload.symbol :: payload.types.elim [] fun types => types.map .type
  | .stringLiteral => slots.stringLiteral.elim [] fun payload =>
    payload.expressions.map .expression
  | .newArray => slots.newArray.elim [] fun payload =>
    [.type payload.type, .expression payload.length]
  | .namedItem => slots.namedItem.elim [] fun payload =>
    [.expression payload.accessed, .symbol payload.symbol]
  | .expressionSingle => slots.expressionSingle.elim [] fun operand => [.expression operand]
  | .expressionDouble => slots.expressionDouble.elim [] fun operands =>
    [.expression operands.first, .expression operands.second]
  | .expressionTriple => slots.expressionTriple.elim [] fun operands =>
    [.expression operands.first, .expression operands.second, .expression operands.third]
  | .expressionArray => slots.expressionArray.elim [] fun items => items.map .expression
  | _ => []

/-- The parts in the slot that counts. -/
def children (slots : ExpressionSlots E S T) : List (ExpressionPart E S T) :=
  slots.kind.slot?.elim [] slots.contents

/-- The faults of a union, given those of its parts. -/
def faultsWith (part : ExpressionPart E S T → List Fault) (slots : ExpressionSlots E S T) :
    List Fault :=
  unionFaults slots.ownFault (slots.children.flatMap part)

/-- Two unions hold related payloads in a slot. Doubles are related by their bits. -/
def Payloads (RE : E → E' → Prop) (RS : S → S' → Prop) (RT : T → T' → Prop)
    (a : ExpressionSlots E S T) (b : ExpressionSlots E' S' T') : ExpressionSlot → Prop
  | .identifier => Option.Rel (fun p q => RS p.symbol q.symbol ∧
      Option.Rel (List.Forall₂ RT) p.types q.types) a.identifier b.identifier
  | .intLiteral => a.intLiteral = b.intLiteral
  | .bigIntLiteral => Option.Rel SameInteger a.bigIntLiteral b.bigIntLiteral
  | .doubleLiteral => a.doubleLiteral = b.doubleLiteral
  | .boolLiteral => a.boolLiteral = b.boolLiteral
  | .stringLiteral => Option.Rel (fun p q => p.text = q.text ∧
      List.Forall₂ RE p.expressions q.expressions) a.stringLiteral b.stringLiteral
  | .resultLiteral => a.resultLiteral = b.resultLiteral
  | .pauliLiteral => a.pauliLiteral = b.pauliLiteral
  | .newArray => Option.Rel (fun p q => RT p.type q.type ∧ RE p.length q.length)
      a.newArray b.newArray
  | .namedItem => Option.Rel (fun p q => RE p.accessed q.accessed ∧ RS p.symbol q.symbol)
      a.namedItem b.namedItem
  | .expressionSingle => Option.Rel RE a.expressionSingle b.expressionSingle
  | .expressionDouble => Option.Rel (fun p q => RE p.first q.first ∧ RE p.second q.second)
      a.expressionDouble b.expressionDouble
  | .expressionTriple => Option.Rel (fun p q => RE p.first q.first ∧ RE p.second q.second ∧
      RE p.third q.third) a.expressionTriple b.expressionTriple
  | .expressionArray => Option.Rel (List.Forall₂ RE) a.expressionArray b.expressionArray

/-- Two unions agree on what counts, up to relations of their parts. -/
def Agree (RE : E → E' → Prop) (RS : S → S' → Prop) (RT : T → T' → Prop)
    (a : ExpressionSlots E S T) (b : ExpressionSlots E' S' T') : Prop :=
  a.kind.Agree b.kind (Payloads RE RS RT a b)

theorem mem_expressions_of_mem_children {slots : ExpressionSlots E S T} {e : E}
    (member : .expression e ∈ slots.children) : e ∈ slots.expressions := by
  unfold children at member
  cases selected : slots.kind.slot? with
  | none => simp [selected] at member
  | some s =>
    rw [selected, Option.elim_some] at member
    unfold expressions
    cases s with
    | identifier => cases held : slots.identifier with
      | none => simp [contents, held] at member
      | some payload => cases types : payload.types <;> simp [contents, held, types] at member
    | stringLiteral => cases held : slots.stringLiteral <;> simp_all [contents]
    | newArray => cases held : slots.newArray <;> simp_all [contents]
    | namedItem => cases held : slots.namedItem <;> simp_all [contents]
    | expressionSingle => cases held : slots.expressionSingle <;> simp_all [contents]
    | expressionDouble =>
      cases held : slots.expressionDouble with
      | none => simp [contents, held] at member
      | some operands =>
        rcases (by simpa [contents, held] using member) with rfl | rfl <;> simp
    | expressionTriple =>
      cases held : slots.expressionTriple with
      | none => simp [contents, held] at member
      | some operands =>
        rcases (by simpa [contents, held] using member) with rfl | rfl | rfl <;> simp
    | expressionArray => cases held : slots.expressionArray <;> simp_all [contents]
    | _ => cases member

theorem contents_map (f : E → E') (slots : ExpressionSlots E S T) (s : ExpressionSlot) :
    (slots.map f).contents s = (slots.contents s).map (.map f) := by
  cases s with
  | identifier =>
    simp only [contents, map]
    cases slots.identifier with
    | none => rfl
    | some payload => cases types : payload.types <;> simp [types, ExpressionPart.map]
  | stringLiteral =>
    simp only [contents, map]
    cases slots.stringLiteral <;> simp [ExpressionPart.map]
  | expressionArray =>
    simp only [contents, map]
    cases slots.expressionArray <;> simp [ExpressionPart.map]
  | newArray => simp only [contents, map]; cases slots.newArray <;> rfl
  | namedItem => simp only [contents, map]; cases slots.namedItem <;> rfl
  | expressionSingle => simp only [contents, map]; cases slots.expressionSingle <;> rfl
  | expressionDouble => simp only [contents, map]; cases slots.expressionDouble <;> rfl
  | expressionTriple => simp only [contents, map]; cases slots.expressionTriple <;> rfl
  | _ => rfl

theorem children_map (f : E → E') (slots : ExpressionSlots E S T) :
    (slots.map f).children = slots.children.map (.map f) := by
  have sameKind : (slots.map f).kind = slots.kind := rfl
  unfold children
  rw [sameKind]
  cases slots.kind.slot? with
  | none => rfl
  | some s => exact slots.contents_map f s

theorem faultsWith_map (f : E → E') (part : ExpressionPart E' S T → List Fault)
    (slots : ExpressionSlots E S T) :
    (slots.map f).faultsWith part = slots.faultsWith fun p => part (p.map f) := by
  have sameHolds : (slots.map f).holds = slots.holds := by
    funext s
    cases s <;> simp [holds, map]
  have sameOwn : (slots.map f).ownFault = slots.ownFault := by
    unfold ownFault
    rw [sameHolds]
    rfl
  unfold faultsWith
  rw [sameOwn, children_map, List.flatMap_map]

theorem agree_refl (slots : ExpressionSlots E S T) :
    slots.Agree (· = ·) (· = ·) (· = ·) slots := by
  have items : ∀ {α : Type} (items : List α), List.Forall₂ (· = ·) items items :=
    fun items => List.forall₂_same.mpr fun _ _ => rfl
  refine ⟨rfl, ?_⟩
  intro s _
  cases s with
  | identifier => exact rel_refl (fun _ => ⟨rfl, rel_refl items _⟩) _
  | bigIntLiteral =>
    exact rel_refl (fun bytes => sameInteger_iff.mpr (Outcomes.refl (fun _ => rfl) _)) _
  | stringLiteral => exact rel_refl (fun _ => ⟨rfl, items _⟩) _
  | newArray | namedItem | expressionDouble => exact rel_refl (fun _ => ⟨rfl, rfl⟩) _
  | expressionTriple => exact rel_refl (fun _ => ⟨rfl, rfl, rfl⟩) _
  | expressionSingle => exact rel_refl (fun _ => rfl) _
  | expressionArray => exact rel_refl items _
  | _ => rfl

theorem agree_map_iff {f : E'' → E} {RE : E → E' → Prop} {RS : S → S' → Prop}
    {RT : T → T' → Prop} {a : ExpressionSlots E'' S T} {b : ExpressionSlots E' S' T'} :
    (a.map f).Agree RE RS RT b ↔ a.Agree (fun e e' => RE (f e) e') RS RT b := by
  have same : Payloads RE RS RT (a.map f) b =
      Payloads (fun e e' => RE (f e) e') RS RT a b := by
    funext s
    cases s <;> simp only [Payloads, map, rel_map_left_iff, List.forall₂_map_left_iff]
  unfold Agree
  rw [same]
  rfl

/-- Only the parts of the first union matter for what the relations are asked of. -/
theorem Agree.imp_of_mem {RE QE : E → E' → Prop} {RS QS : S → S' → Prop} {RT QT : T → T' → Prop}
    {a : ExpressionSlots E S T} {b : ExpressionSlots E' S' T'}
    (expressions : ∀ e ∈ a.expressions, ∀ e', RE e e' → QE e e')
    (symbols : ∀ s s', RS s s' → QS s s') (types : ∀ t t', RT t t' → QT t t')
    (agree : a.Agree RE RS RT b) : a.Agree QE QS QT b := by
  refine Discriminator.Agree.imp ?_ agree
  intro s payloads
  cases s with
  | identifier =>
    refine rel_imp_of_mem ?_ payloads
    rintro payload - payload' ⟨symbol, arguments⟩
    refine ⟨symbols _ _ symbol, rel_imp_of_mem ?_ arguments⟩
    intro ts _ ts' related
    exact related.imp types
  | stringLiteral =>
    refine rel_imp_of_mem ?_ payloads
    intro payload held payload' related
    refine ⟨related.1, forall₂_imp_of_mem ?_ related.2⟩
    intro e member
    exact expressions e (by simp [ExpressionSlots.expressions, held, member])
  | newArray =>
    refine rel_imp_of_mem ?_ payloads
    intro payload held payload' related
    have member : payload.length ∈ a.expressions := by
      simp [ExpressionSlots.expressions, held]
    exact ⟨types _ _ related.1, expressions _ member _ related.2⟩
  | namedItem =>
    refine rel_imp_of_mem ?_ payloads
    intro payload held payload' related
    have member : payload.accessed ∈ a.expressions := by
      simp [ExpressionSlots.expressions, held]
    exact ⟨expressions _ member _ related.1, symbols _ _ related.2⟩
  | expressionSingle =>
    refine rel_imp_of_mem ?_ payloads
    intro operand held
    exact expressions operand (by simp [ExpressionSlots.expressions, held])
  | expressionDouble =>
    refine rel_imp_of_mem ?_ payloads
    intro operands held operands' related
    have members : operands.first ∈ a.expressions ∧ operands.second ∈ a.expressions := by
      simp [ExpressionSlots.expressions, held]
    exact ⟨expressions _ members.1 _ related.1, expressions _ members.2 _ related.2⟩
  | expressionTriple =>
    refine rel_imp_of_mem ?_ payloads
    intro operands held operands' related
    have members : operands.first ∈ a.expressions ∧ operands.second ∈ a.expressions ∧
        operands.third ∈ a.expressions := by
      simp [ExpressionSlots.expressions, held]
    exact ⟨expressions _ members.1 _ related.1, expressions _ members.2.1 _ related.2.1,
      expressions _ members.2.2 _ related.2.2⟩
  | expressionArray =>
    refine rel_imp_of_mem ?_ payloads
    intro items held items' related
    refine forall₂_imp_of_mem ?_ related
    intro e member
    exact expressions e (by simp [ExpressionSlots.expressions, held, member])
  | _ => exact payloads

theorem select_selects (slots : ExpressionSlots E S T) :
    Selects ExpressionKind.tag ExpressionKind.parts slots.kind slots.ownFault slots.children
      slots.select := by
  obtain ⟨kind, identifier, intLiteral, bigIntLiteral, doubleLiteral, boolLiteral, stringLiteral,
    resultLiteral, pauliLiteral, newArray, namedItem, single, double, triple, array⟩ := slots
  cases kind with
  | unrecognized text => rfl
  | known tag =>
    cases tag with
    | identifier => exact .payload _ identifier (fun _ => rfl) fun _ => rfl
    | stringLiteral => exact .payload _ stringLiteral (fun _ => rfl) fun _ => rfl
    | newArray => exact .payload _ newArray (fun _ => rfl) fun _ => rfl
    | namedItem => exact .payload _ namedItem (fun _ => rfl) fun _ => rfl
    | resultLiteral => exact .leaf _ resultLiteral (fun _ => rfl) fun _ => rfl
    | pauliLiteral => exact .leaf _ pauliLiteral (fun _ => rfl) fun _ => rfl
    | bigIntLiteral =>
      -- the one scalar that can be there and have no value
      cases bigIntLiteral with
      | none => rfl
      | some bytes =>
        cases bytes with
        | nil => rfl
        | cons b bs => exact .bare rfl rfl
    | valueTuple | valueArray => exact .payload _ array (fun _ => rfl) fun _ => rfl
    | neg | not | bNot | unwrapApplication | adjointApplication | controlledApplication =>
      exact .payload _ single (fun _ => rfl) fun _ => rfl
    | conditional | copyAndUpdate => exact .payload _ triple (fun _ => rfl) fun _ => rfl
    | unitValue | missingExpr | invalidExpr | intLiteral | doubleLiteral | boolLiteral =>
      exact .bare rfl rfl
    | sizedArray | lambda => rfl
    | _ => exact .payload _ double (fun _ => rfl) fun _ => rfl

theorem agree_iff {RE : E → E' → Prop} {RS : S → S' → Prop} {RT : T → T' → Prop}
    {a : ExpressionSlots E S T} {b : ExpressionSlots E' S' T'} (sameKind : a.kind = b.kind) :
    a.Agree RE RS RT b ↔ Outcomes (ExpressionKind.Related RE RS RT) a.select b.select := by
  obtain ⟨kind, identifier, intLiteral, bigIntLiteral, doubleLiteral, boolLiteral, stringLiteral,
    resultLiteral, pauliLiteral, newArray, namedItem, single, double, triple, array⟩ := a
  obtain ⟨_, identifier', intLiteral', bigIntLiteral', doubleLiteral', boolLiteral',
    stringLiteral', resultLiteral', pauliLiteral', newArray', namedItem', single', double',
    triple', array'⟩ := b
  obtain rfl := sameKind
  cases kind with
  | unrecognized text =>
    exact iff_of_true (Discriminator.agree_unrecognized _) (.error _)
  | known tag =>
    cases tag with
    | identifier =>
      refine Discriminator.agree_known_iff.trans (Outcomes.payload_iff _ _ ?_)
      exact fun _ _ => ⟨fun both => .identifier both.1 both.2,
        fun | .identifier first second => ⟨first, second⟩⟩
    | intLiteral =>
      exact Discriminator.agree_known_iff.trans
        ⟨fun same => .ok (.intLiteral same), fun | .ok (.intLiteral same) => same⟩
    | doubleLiteral =>
      exact Discriminator.agree_known_iff.trans
        ⟨fun same => .ok (.doubleLiteral same), fun | .ok (.doubleLiteral same) => same⟩
    | boolLiteral =>
      exact Discriminator.agree_known_iff.trans
        ⟨fun same => .ok (.boolLiteral same), fun | .ok (.boolLiteral same) => same⟩
    | bigIntLiteral =>
      refine Discriminator.agree_known_iff.trans ?_
      cases bigIntLiteral with
      | none =>
        cases bigIntLiteral' with
        | none => exact iff_of_true .none (.error _)
        | some bytes' => cases bytes' <;> exact iff_of_false nofun nofun
      | some bytes =>
        cases bigIntLiteral' with
        | none => cases bytes <;> exact iff_of_false nofun nofun
        | some bytes' =>
          show Option.Rel SameInteger (some bytes) (some bytes') ↔
            Outcomes (ExpressionKind.Related RE RS RT)
              (decodeBigInteger bytes >>= fun n => .ok (.bigIntLiteral n))
              (decodeBigInteger bytes' >>= fun n => .ok (.bigIntLiteral n))
          rw [Option.rel_some_some, sameInteger_iff, ← Outcomes.bind_ok_iff]
          exact fun _ _ => ⟨.bigIntLiteral, fun | .bigIntLiteral same => same⟩
    | stringLiteral =>
      refine Discriminator.agree_known_iff.trans (Outcomes.payload_iff _ _ ?_)
      exact fun _ _ => ⟨fun both => .stringLiteral both.1 both.2,
        fun | .stringLiteral same items => ⟨same, items⟩⟩
    | resultLiteral =>
      refine Discriminator.agree_known_iff.trans (Outcomes.leaf_iff _ _ ?_)
      exact fun _ _ => ⟨.resultLiteral, fun | .resultLiteral same => same⟩
    | pauliLiteral =>
      refine Discriminator.agree_known_iff.trans (Outcomes.leaf_iff _ _ ?_)
      exact fun _ _ => ⟨.pauliLiteral, fun | .pauliLiteral same => same⟩
    | newArray =>
      refine Discriminator.agree_known_iff.trans (Outcomes.payload_iff _ _ ?_)
      exact fun _ _ => ⟨fun both => .newArray both.1 both.2,
        fun | .newArray first second => ⟨first, second⟩⟩
    | namedItem =>
      refine Discriminator.agree_known_iff.trans (Outcomes.payload_iff _ _ ?_)
      exact fun _ _ => ⟨fun both => .namedItem both.1 both.2,
        fun | .namedItem first second => ⟨first, second⟩⟩
    | valueTuple =>
      refine Discriminator.agree_known_iff.trans (Outcomes.payload_iff _ _ ?_)
      exact fun _ _ => ⟨.valueTuple, fun | .valueTuple items => items⟩
    | valueArray =>
      refine Discriminator.agree_known_iff.trans (Outcomes.payload_iff _ _ ?_)
      exact fun _ _ => ⟨.valueArray, fun | .valueArray items => items⟩
    | neg | not | bNot =>
      refine Discriminator.agree_known_iff.trans (Outcomes.payload_iff _ _ ?_)
      exact fun _ _ => ⟨.unaryOperation _, fun | .unaryOperation _ first => first⟩
    | unwrapApplication =>
      refine Discriminator.agree_known_iff.trans (Outcomes.payload_iff _ _ ?_)
      exact fun _ _ => ⟨.unwrapApplication, fun | .unwrapApplication first => first⟩
    | adjointApplication =>
      refine Discriminator.agree_known_iff.trans (Outcomes.payload_iff _ _ ?_)
      exact fun _ _ => ⟨.adjointApplication, fun | .adjointApplication first => first⟩
    | controlledApplication =>
      refine Discriminator.agree_known_iff.trans (Outcomes.payload_iff _ _ ?_)
      exact fun _ _ => ⟨.controlledApplication, fun | .controlledApplication first => first⟩
    | rangeLiteral =>
      refine Discriminator.agree_known_iff.trans (Outcomes.payload_iff _ _ ?_)
      exact fun _ _ => ⟨fun both => .rangeLiteral both.1 both.2,
        fun | .rangeLiteral first second => ⟨first, second⟩⟩
    | arrayItem =>
      refine Discriminator.agree_known_iff.trans (Outcomes.payload_iff _ _ ?_)
      exact fun _ _ => ⟨fun both => .arrayItem both.1 both.2,
        fun | .arrayItem first second => ⟨first, second⟩⟩
    | callLikeExpression =>
      refine Discriminator.agree_known_iff.trans (Outcomes.payload_iff _ _ ?_)
      exact fun _ _ => ⟨fun both => .callLikeExpression both.1 both.2,
        fun | .callLikeExpression first second => ⟨first, second⟩⟩
    | conditional =>
      refine Discriminator.agree_known_iff.trans (Outcomes.payload_iff _ _ ?_)
      exact fun _ _ => ⟨fun all => .conditional all.1 all.2.1 all.2.2,
        fun | .conditional first second third => ⟨first, second, third⟩⟩
    | copyAndUpdate =>
      refine Discriminator.agree_known_iff.trans (Outcomes.payload_iff _ _ ?_)
      exact fun _ _ => ⟨fun all => .copyAndUpdate all.1 all.2.1 all.2.2,
        fun | .copyAndUpdate first second third => ⟨first, second, third⟩⟩
    | sizedArray | lambda =>
      exact Discriminator.agree_known_iff.trans (iff_of_true trivial (.error _))
    | unitValue | missingExpr | invalidExpr =>
      exact Discriminator.agree_known_iff.trans (iff_of_true trivial (.ok (by constructor)))
    | _ =>
      refine Discriminator.agree_known_iff.trans (Outcomes.payload_iff _ _ ?_)
      exact fun _ _ => ⟨fun both => .binaryOperation _ both.1 both.2,
        fun | .binaryOperation _ first second => ⟨first, second⟩⟩

theorem select_map (f : E → E') (slots : ExpressionSlots E S T) :
    (slots.map f).select = slots.select.map (ExpressionKind.map f) := by
  obtain ⟨kind, identifier, intLiteral, bigIntLiteral, doubleLiteral, boolLiteral, stringLiteral,
    resultLiteral, pauliLiteral, newArray, namedItem, single, double, triple, array⟩ := slots
  cases kind with
  | unrecognized text => rfl
  | known tag =>
    cases tag with
    | identifier => cases identifier <;> rfl
    | stringLiteral => cases stringLiteral <;> rfl
    | newArray => cases newArray <;> rfl
    | namedItem => cases namedItem <;> rfl
    | resultLiteral => cases resultLiteral <;> rfl
    | pauliLiteral => cases pauliLiteral <;> rfl
    | bigIntLiteral =>
      cases bigIntLiteral with
      | none => rfl
      | some bytes => cases bytes <;> rfl
    | valueTuple | valueArray => cases array <;> rfl
    | neg | not | bNot | unwrapApplication | adjointApplication | controlledApplication =>
      cases single <;> rfl
    | conditional | copyAndUpdate => cases triple <;> rfl
    | unitValue | missingExpr | invalidExpr | intLiteral | doubleLiteral | boolLiteral
    | sizedArray | lambda => rfl
    | _ => cases double <;> rfl

/-- Decoding selects first and then decodes the parts. -/
theorem decodeWith_eq_bind (expression : E → Decoded E') (symbol : S → Decoded S')
    (type : T → Decoded T') (slots : ExpressionSlots E S T) :
    slots.decodeWith expression symbol type =
      slots.select >>= fun kind => kind.traverse expression symbol type := by
  unfold decodeWith
  cases slots.select <;> rfl

theorem decodeWith_map (f : E → E') (expression : E' → Decoded E'') (symbol : S → Decoded S')
    (type : T → Decoded T') (slots : ExpressionSlots E S T) :
    (slots.map f).decodeWith expression symbol type =
      slots.decodeWith (fun e => expression (f e)) symbol type := by
  rw [decodeWith_eq_bind, decodeWith_eq_bind, select_map]
  cases slots.select with
  | error fault => rfl
  | ok kind => exact kind.traverse_map f expression symbol type

theorem decodeWith_reports {expression : E → Decoded E'} {symbol : S → Decoded S'}
    {type : T → Decoded T'} {faults : ExpressionPart E S T → List Fault}
    (slots : ExpressionSlots E S T)
    (each : ∀ part ∈ slots.children, part.fault? expression symbol type = (faults part).head?) :
    Reports (slots.decodeWith expression symbol type) (slots.faultsWith faults) := by
  rw [decodeWith_eq_bind]
  refine slots.select_selects.reports ?_
  intro kind same
  exact kind.traverse_reports fun part member => each part (same ▸ member)

/-- Unions that agree, with parts that decode alike, decode alike. -/
theorem Agree.decodeWith_eq {expression : E → Decoded E''} {expression' : E' → Decoded E''}
    {symbol : S → Decoded S''} {symbol' : S' → Decoded S''} {type : T → Decoded T''}
    {type' : T' → Decoded T''} {a : ExpressionSlots E S T} {b : ExpressionSlots E' S' T'}
    (agree : a.Agree (fun e e' => expression e = expression' e')
      (fun s s' => symbol s = symbol' s') (fun t t' => type t = type' t') b) :
    a.decodeWith expression symbol type = b.decodeWith expression' symbol' type' := by
  rw [decodeWith_eq_bind, decodeWith_eq_bind]
  refine ((agree_iff agree.1).mp agree).bind_congr ?_
  intro kind kind' related
  exact related.traverse_congr

/-- Unions that decode to the same tree agree, with parts that decode to the same trees. -/
theorem agree_of_decodeWith_eq_ok {expression : E → Decoded E''} {expression' : E' → Decoded E''}
    {symbol : S → Decoded S''} {symbol' : S' → Decoded S''} {type : T → Decoded T''}
    {type' : T' → Decoded T''} {a : ExpressionSlots E S T} {b : ExpressionSlots E' S' T'}
    {tree : ExpressionKind E'' S'' T''}
    (first : a.decodeWith expression symbol type = .ok tree)
    (second : b.decodeWith expression' symbol' type' = .ok tree) :
    a.Agree (fun e e' => ∃ x, expression e = .ok x ∧ expression' e' = .ok x)
      (fun s s' => ∃ x, symbol s = .ok x ∧ symbol' s' = .ok x)
      (fun t t' => ∃ x, type t = .ok x ∧ type' t' = .ok x) b := by
  rw [decodeWith_eq_bind, bind_eq_ok_iff] at first second
  obtain ⟨kind, selected, traversed⟩ := first
  obtain ⟨kind', selected', traversed'⟩ := second
  have related := ExpressionKind.traverse_eq_ok_iff.mp traversed
  have related' := ExpressionKind.traverse_eq_ok_iff.mp traversed'
  have sameTag := related.tag_eq.trans related'.tag_eq.symm
  have sameKind := a.select_selects.kind_eq b.select_selects selected selected' sameTag
  rw [agree_iff sameKind, selected, selected', Outcomes.ok_iff]
  exact related.join related'

end ExpressionSlots

namespace TypedExpression

theorem decode_mk (node : Node TypedExpression) :
    decode (mk node) = (do
      let expression ← node.expression.decodeWith decode Identifier.decode ResolvedType.decode
      let typeArguments ← node.typeArguments.mapM decodeTypeArgument
      let resolvedType ← node.resolvedType.decode
      return .mk ⟨expression, typeArguments, resolvedType, node.inferredInformation,
        node.range⟩) := by
  rw [decode, fold_mk]
  simp only [Node.map, Typed.withExpression, ExpressionSlots.decodeWith_map]
  rfl

theorem sizeOf_lt_of_mem {node : Node TypedExpression} {e : TypedExpression}
    (member : e ∈ node.expression.expressions) : sizeOf e < sizeOf (mk node) := by
  obtain ⟨⟨kind, identifier, intLiteral, bigIntLiteral, doubleLiteral, boolLiteral,
    stringLiteral, resultLiteral, pauliLiteral, newArray, namedItem, single, double, triple,
    array⟩, typeArguments, resolvedType, inferredInformation, range⟩ := node
  simp only [ExpressionSlots.expressions, List.mem_append, Option.mem_toList] at member
  simp only [mk.sizeOf_spec, Typed.mk.sizeOf_spec, ExpressionSlots.mk.sizeOf_spec]
  rcases member with (((((member | member) | member) | member) | member) | member) | member
  · cases stringLiteral with
    | none => simp at member
    | some payload =>
      obtain ⟨text, items⟩ := payload
      have : sizeOf e < sizeOf items := List.sizeOf_lt_of_mem (by simpa using member)
      simp
      omega
  · cases newArray with
    | none => simp at member
    | some payload =>
      obtain ⟨type, length⟩ := payload
      obtain rfl : e = length := by simpa using member
      simp
      omega
  · cases namedItem with
    | none => simp at member
    | some payload =>
      obtain ⟨accessed, symbol⟩ := payload
      obtain rfl : e = accessed := by simpa using member
      simp
      omega
  · subst member
    simp
    omega
  · cases double with
    | none => simp at member
    | some operands =>
      obtain ⟨first, second⟩ := operands
      simp at member
      rcases member with rfl | rfl <;> simp <;> omega
  · cases triple with
    | none => simp at member
    | some operands =>
      obtain ⟨first, second, third⟩ := operands
      simp at member
      rcases member with rfl | rfl | rfl <;> simp <;> omega
  · cases array with
    | none => simp at member
    | some items =>
      have : sizeOf e < sizeOf items := List.sizeOf_lt_of_mem (by simpa using member)
      simp
      omega

/-- What holds of an expression whenever it holds of the expressions in all its slots holds of
every expression. -/
theorem induct {P : TypedExpression → Prop}
    (step : ∀ node, (∀ e ∈ node.expression.expressions, P e) → P (mk node))
    (e : TypedExpression) : P e :=
  match e with
  | mk node => step node fun inner member =>
    have := sizeOf_lt_of_mem member
    induct step inner
termination_by sizeOf e
decreasing_by assumption

end TypedExpression

end Wire

end WireTree
