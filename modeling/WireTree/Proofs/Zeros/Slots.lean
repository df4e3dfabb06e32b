import WireTree.Proofs.Selection.Expression
import WireTree.Proofs.Zeros.Basic

/-!
# The doubles in the slots of an expression union

Every union has a slot for a double, whether or not its kind selects it, and equality compares it as
a number.
Main statements: equality of unions comes apart into that of their shapes and that of the
expressions in them, one by one (`beq_comesApart`), and so unions are equal exactly if they are the
same up to the signs of zeros and hold no NaN (`compares`).
-/

namespace WireTree

/-- The doubles of a part, given those of an expression. -/
def ExpressionPart.doubles {E S T : Type} (doubles : E → List Binary64) :
    ExpressionPart E S T → List Binary64
  | .expression e => doubles e
  | _ => []

namespace Wire

deriving instance ReflBEq, LawfulBEq for
  IdentifierPayload, StringPayload, NewArrayPayload, NamedItemPayload, TwoOperands, ThreeOperands

/-! ## Equality of slots -/

theorem allApplied_append {α : Type} {tests tests' : List (α → Bool)} {values values' : List α}
    (length : tests.length = values.length) :
    allApplied (tests ++ tests') (values ++ values') =
      (allApplied tests values && allApplied tests' values') := by
  induction tests generalizing values with
  | nil =>
    cases values with
    | nil => rfl
    | cons value values => cases length
  | cons test tests ih =>
    cases values with
    | nil => cases length
    | cons value values =>
      rw [List.cons_append, List.cons_append, allApplied, allApplied, ih (Nat.succ.inj length),
        Bool.and_assoc]

/-- A comparison comes apart into that of the shapes and that of the expressions, of which there
are as many if the shapes are the same. -/
structure ComesApart {E : Type} (same sameShape : Bool) (tests : List (E → Bool))
    (values : List E) : Prop where
  iff : same = true ↔ sameShape = true ∧ allApplied tests values = true
  length : sameShape = true → tests.length = values.length

namespace ComesApart

variable {E : Type} {same same' sameShape sameShape' : Bool} {tests tests' : List (E → Bool)}
  {values values' : List E}

theorem leaf (same : Bool) : ComesApart same same ([] : List (E → Bool)) [] :=
  ⟨by simp [allApplied], fun _ => rfl⟩

theorem and (first : ComesApart same sameShape tests values)
    (second : ComesApart same' sameShape' tests' values') :
    ComesApart (same && same') (sameShape && sameShape') (tests ++ tests') (values ++ values') where
  iff := by
    rw [Bool.and_eq_true, Bool.and_eq_true, first.iff, second.iff]
    constructor
    · rintro ⟨⟨shape, each⟩, shape', each'⟩
      refine ⟨⟨shape, shape'⟩, ?_⟩
      rw [allApplied_append (first.length shape), each, each']
      rfl
    · rintro ⟨⟨shape, shape'⟩, each⟩
      rw [allApplied_append (first.length shape), Bool.and_eq_true] at each
      exact ⟨⟨shape, each.1⟩, shape', each.2⟩
  length both := by
    rw [Bool.and_eq_true] at both
    rw [List.length_append, List.length_append, first.length both.1, second.length both.2]

/-- A slot comes apart if what it holds does. -/
theorem slot {X Y : Type} [BEq X] [BEq Y] [BEq E] {shape : X → Y} {contents : X → List E}
    (each : ∀ x y, ComesApart (x == y) (shape x == shape y) ((contents x).map (· == ·))
      (contents y)) (x y : Option X) :
    ComesApart (x == y) (x.map shape == y.map shape) ((x.elim [] contents).map (· == ·))
      (y.elim [] contents) := by
  cases x with
  | none =>
    cases y with
    | none => exact leaf true
    | some y => exact ⟨by simp, by simp⟩
  | some x =>
    cases y with
    | none => exact ⟨by simp, by simp⟩
    | some y => exact each x y

theorem one [BEq E] (x y : E) : ComesApart (x == y) (() == ()) ([x].map (· == ·)) [y] :=
  ⟨by simp [allApplied], fun _ => rfl⟩

theorem many [BEq E] (xs ys : List E) :
    ComesApart (xs == ys) (xs.map (fun _ => ()) == ys.map (fun _ => ())) (xs.map (· == ·)) ys := by
  induction xs generalizing ys with
  | nil =>
    cases ys with
    | nil => exact leaf true
    | cons y ys => exact ⟨by simp, by simp⟩
  | cons x xs ih =>
    cases ys with
    | nil => exact ⟨by simp, by simp⟩
    | cons y ys => exact (one x y).and (ih ys)

end ComesApart

namespace ExpressionSlots

open ComesApart Doubles

variable {E S T : Type}

theorem beq_comesApart [BEq E] [BEq S] [BEq T] (a b : ExpressionSlots E S T) :
    ComesApart (a == b) (a.shape == b.shape) (a.expressions.map (· == ·)) b.expressions := by
  have string : ∀ p q : StringPayload E, ComesApart (p == q)
      ((⟨p.text, p.expressions.map fun _ => ()⟩ : StringPayload Unit) ==
        ⟨q.text, q.expressions.map fun _ => ()⟩) (p.expressions.map (· == ·)) q.expressions :=
    fun p q => (leaf (p.text == q.text)).and (many p.expressions q.expressions)
  have array : ∀ p q : NewArrayPayload E T, ComesApart (p == q)
      ((⟨p.type, ()⟩ : NewArrayPayload Unit T) == ⟨q.type, ()⟩) ([p.length].map (· == ·))
      [q.length] :=
    fun p q => (leaf (p.type == q.type)).and (one p.length q.length)
  have item : ∀ p q : NamedItemPayload E S, ComesApart (p == q)
      ((⟨(), p.symbol⟩ : NamedItemPayload Unit S) == ⟨(), q.symbol⟩) ([p.accessed].map (· == ·))
      [q.accessed] :=
    fun p q => (one p.accessed q.accessed).and (leaf (p.symbol == q.symbol))
  have two : ∀ p q : TwoOperands E, ComesApart (p == q)
      ((⟨(), ()⟩ : TwoOperands Unit) == ⟨(), ()⟩) ([p.first, p.second].map (· == ·))
      [q.first, q.second] :=
    fun p q => (one p.first q.first).and (one p.second q.second)
  have three : ∀ p q : ThreeOperands E, ComesApart (p == q)
      ((⟨(), (), ()⟩ : ThreeOperands Unit) == ⟨(), (), ()⟩)
      ([p.first, p.second, p.third].map (· == ·)) [q.first, q.second, q.third] :=
    fun p q => (one p.first q.first).and ((one p.second q.second).and (one p.third q.third))
  -- slots without expressions in them are compared alike on both sides
  have whole :=
    (leaf (a.kind == b.kind)).and <|
    (leaf (a.identifier == b.identifier)).and <|
    (leaf (a.intLiteral == b.intLiteral)).and <|
    (leaf (a.bigIntLiteral == b.bigIntLiteral)).and <|
    (leaf (a.doubleLiteral == b.doubleLiteral)).and <|
    (leaf (a.boolLiteral == b.boolLiteral)).and <|
    (slot string a.stringLiteral b.stringLiteral).and <|
    (leaf (a.resultLiteral == b.resultLiteral)).and <|
    (leaf (a.pauliLiteral == b.pauliLiteral)).and <|
    (slot array a.newArray b.newArray).and <|
    (slot item a.namedItem b.namedItem).and <|
    (slot one a.expressionSingle b.expressionSingle).and <|
    (slot two a.expressionDouble b.expressionDouble).and <|
    (slot three a.expressionTriple b.expressionTriple).and <|
    slot many a.expressionArray b.expressionArray
  have single : ∀ x : Option E, x.toList = x.elim [] fun e => [e] := fun x => by cases x <;> rfl
  have items : ∀ x : Option (List E), x.getD [] = x.elim [] fun es => es :=
    fun x => by cases x <;> rfl
  simp only [List.nil_append, ← List.map_append] at whole
  simp only [expressions, List.append_assoc, single, items]
  exact whole

/-- The union with positive zero in the slot for a double if there is negative zero in it. -/
def unsignedLiteral (slots : ExpressionSlots E S T) : ExpressionSlots E S T :=
  { slots with doubleLiteral := slots.doubleLiteral.unsigned }

/-- Unions over parts with an equality of their own are compared up to the sign of zero. -/
theorem beq_iff [BEq E] [LawfulBEq E] [BEq S] [LawfulBEq S] [BEq T] [LawfulBEq T]
    {a b : ExpressionSlots E S T} :
    (a == b) = true ↔ a.unsignedLiteral = b.unsignedLiteral ∧ a.doubleLiteral.isNaN = false := by
  obtain ⟨kind, identifier, intLiteral, bigIntLiteral, doubleLiteral, boolLiteral, stringLiteral,
    resultLiteral, pauliLiteral, newArray, namedItem, single, double, triple, array⟩ := a
  obtain ⟨kind', identifier', intLiteral', bigIntLiteral', doubleLiteral', boolLiteral',
    stringLiteral', resultLiteral', pauliLiteral', newArray', namedItem', single', double',
    triple', array'⟩ := b
  show (_ && _) = true ↔ _
  simp only [Bool.and_eq_true, beq_iff_eq, Binary64.beq_iff, unsignedLiteral, mk.injEq]
  tauto

theorem eq_of_shape {a b : ExpressionSlots E S T} (sameShape : a.shape = b.shape)
    (sameExpressions : a.expressions = b.expressions) : a = b := by
  classical
  -- a NaN is not equal to itself, so the doubles are set aside
  let erased (slots : ExpressionSlots E S T) : ExpressionSlots E S T :=
    { slots with doubleLiteral := .zero }
  have shapes : (erased a).shape = (erased b).shape :=
    congrArg (fun shape => { shape with doubleLiteral := .zero }) sameShape
  have equal : (erased a == erased b) = true := by
    refine (beq_comesApart _ _).iff.mpr ⟨beq_iff.mpr ⟨congrArg _ shapes, rfl⟩, ?_⟩
    rw [allApplied_map_beq, beq_iff_eq]
    exact sameExpressions
  have sameErased : erased a = erased b := (beq_iff.mp equal).1
  have sameDouble : a.shape.doubleLiteral = b.shape.doubleLiteral := by rw [sameShape]
  calc a = { erased a with doubleLiteral := a.doubleLiteral } := rfl
    _ = { erased b with doubleLiteral := b.doubleLiteral } :=
      congrArg₂ (fun slots d => { slots with doubleLiteral := d }) sameErased sameDouble
    _ = b := rfl

/-- The double that the kind selects. -/
def literal? (slots : ExpressionSlots E S T) : Option Binary64 :=
  if slots.kind = .known .doubleLiteral then some slots.doubleLiteral else none

/-- The doubles that count, given those of the expressions. -/
def activeWith (doubles : E → List Binary64) (slots : ExpressionSlots E S T) : List Binary64 :=
  slots.literal?.toList ++ slots.children.flatMap (·.doubles doubles)

theorem activeWith_map {E' : Type} (f : E → E') (doubles : E' → List Binary64)
    (slots : ExpressionSlots E S T) :
    (slots.map f).activeWith doubles = slots.activeWith fun e => doubles (f e) := by
  have each : ∀ part : ExpressionPart E S T,
      (part.map f).doubles doubles = part.doubles fun e => doubles (f e) := by
    intro part
    cases part <;> rfl
  unfold activeWith
  rw [children_map, List.flatMap_map]
  simp only [each]
  rfl

instance [Doubles E] : Doubles (ExpressionSlots E S T) where
  unsigned slots := (slots.map unsigned).unsignedLiteral
  active slots := slots.activeWith active
  all slots := slots.doubleLiteral :: slots.expressions.flatMap all

theorem unsigned_eq_iff [Doubles E] {a b : ExpressionSlots E S T} :
    unsigned a = unsigned b ↔
      a.shape.unsignedLiteral = b.shape.unsignedLiteral ∧
        unsigned a.expressions = unsigned b.expressions := by
  have shape : ∀ slots : ExpressionSlots E S T,
      (unsigned slots).shape = slots.shape.unsignedLiteral := by
    intro slots
    rw [← shape_map unsigned slots]
    rfl
  have expressions : ∀ slots : ExpressionSlots E S T,
      (unsigned slots).expressions = unsigned slots.expressions :=
    fun slots => expressions_map unsigned slots
  rw [← shape, ← shape, ← expressions, ← expressions]
  constructor
  · rintro same
    rw [same]
    exact ⟨rfl, rfl⟩
  · rintro ⟨sameShape, sameExpressions⟩
    exact eq_of_shape sameShape sameExpressions

/-- Unions are compared like the expressions in them. -/
theorem compares [BEq E] [Doubles E] [BEq S] [LawfulBEq S] [BEq T] [LawfulBEq T]
    {slots : ExpressionSlots E S T} (each : ∀ e ∈ slots.expressions, ComparesNumbers (· == ·) e) :
    ComparesNumbers (· == ·) slots := by
  intro other
  show (slots == other) = true ↔ _ ∧ ∀ d ∈ slots.doubleLiteral :: all slots.expressions, _
  rw [(beq_comesApart slots other).iff, beq_iff, allApplied_compares each, unsigned_eq_iff,
    List.forall_mem_cons]
  show (_ ∧ slots.doubleLiteral.isNaN = false) ∧ _ ↔ _
  tauto

end ExpressionSlots

end Wire

end WireTree
