import WireTree.Named
import WireTree.Sequence

/-!
# Characteristics

They are expressions for the functors that an operation supports. The kind of an expression is a
functor of its operands; an expression is its least fixed point.
Main statements: a fold meets its equation (`fold_mk`), there is induction over the operands
(`induct`), and equality is decidable (`same_iff`).
-/

namespace WireTree

/-- A functor that an operation can support. -/
inductive OpProperty where
  | adjointable
  | controllable
deriving DecidableEq

instance : Named OpProperty where
  all := [.adjointable, .controllable]
  name
    | .adjointable => "Adjointable"
    | .controllable => "Controllable"

/-- A characteristics expression over operands `C`. -/
inductive CharacteristicsKind (C : Type) where
  /-- no functors -/
  | emptySet
  /-- one functor -/
  | simpleSet (property : OpProperty)
  /-- the functors of either operand -/
  | union (left right : C)
  /-- the functors of both operands -/
  | intersection (left right : C)
  /-- an expression that could not be resolved -/
  | invalidSetExpr
deriving DecidableEq

namespace CharacteristicsKind

variable {C D : Type}

/-- The operands, from left to right. -/
def operands : CharacteristicsKind C → List C
  | union left right => [left, right]
  | intersection left right => [left, right]
  | _ => []

/-- Replace each operand. -/
def map (f : C → D) : CharacteristicsKind C → CharacteristicsKind D
  | emptySet => emptySet
  | simpleSet property => simpleSet property
  | union left right => union (f left) (f right)
  | intersection left right => intersection (f left) (f right)
  | invalidSetExpr => invalidSetExpr

/-- The kind without its operands. -/
def shape (kind : CharacteristicsKind C) : CharacteristicsKind Unit :=
  kind.map fun _ => ()

theorem eq_of_shape {a b : CharacteristicsKind C} (sameShape : a.shape = b.shape)
    (sameOperands : a.operands = b.operands) : a = b := by
  cases a <;> cases b <;> cases sameShape <;> simp_all [operands]

theorem map_map {B : Type} (f : C → D) (g : D → B) (kind : CharacteristicsKind C) :
    (kind.map f).map g = kind.map fun c => g (f c) := by
  cases kind <;> rfl

theorem shape_map (f : C → D) (kind : CharacteristicsKind C) :
    (kind.map f).shape = kind.shape :=
  kind.map_map f fun _ => ()

theorem operands_map (f : C → D) (kind : CharacteristicsKind C) :
    (kind.map f).operands = kind.operands.map f := by
  cases kind <;> rfl

/-- Replace each operand by what an effectful function makes of it, from left to right. -/
def traverse {m : Type → Type} [Monad m] (f : C → m D) :
    CharacteristicsKind C → m (CharacteristicsKind D)
  | emptySet => pure emptySet
  | simpleSet property => pure (simpleSet property)
  | union left right => do return union (← f left) (← f right)
  | intersection left right => do return intersection (← f left) (← f right)
  | invalidSetExpr => pure invalidSetExpr

end CharacteristicsKind

/-- A resolved characteristics expression. -/
inductive ResolvedCharacteristics where
  | mk (kind : CharacteristicsKind ResolvedCharacteristics)

namespace ResolvedCharacteristics

/-- The outermost expression. -/
def kind : ResolvedCharacteristics → CharacteristicsKind ResolvedCharacteristics
  | mk kind => kind

/-- Evaluate an expression from the operands up. -/
def fold {X : Type} (evaluate : CharacteristicsKind X → X) : ResolvedCharacteristics → X
  | mk .emptySet => evaluate .emptySet
  | mk (.simpleSet property) => evaluate (.simpleSet property)
  | mk (.union left right) => evaluate (.union (left.fold evaluate) (right.fold evaluate))
  | mk (.intersection left right) =>
    evaluate (.intersection (left.fold evaluate) (right.fold evaluate))
  | mk .invalidSetExpr => evaluate .invalidSetExpr

theorem fold_mk {X : Type} (evaluate : CharacteristicsKind X → X)
    (kind : CharacteristicsKind ResolvedCharacteristics) :
    fold evaluate (mk kind) = evaluate (kind.map (fold evaluate)) := by
  cases kind <;> rfl

/-- What holds of an expression whenever it holds of its operands holds of every expression. -/
theorem induct {P : ResolvedCharacteristics → Prop}
    (step : ∀ kind, (∀ c ∈ kind.operands, P c) → P (mk kind)) : ∀ c, P c
  | mk .emptySet => step _ (by simp [CharacteristicsKind.operands])
  | mk (.simpleSet _) => step _ (by simp [CharacteristicsKind.operands])
  | mk (.union left right) => step _ (by
      simpa [CharacteristicsKind.operands] using ⟨induct step left, induct step right⟩)
  | mk (.intersection left right) => step _ (by
      simpa [CharacteristicsKind.operands] using ⟨induct step left, induct step right⟩)
  | mk .invalidSetExpr => step _ (by simp [CharacteristicsKind.operands])

/-- Whether two expressions are the same. -/
def same : ResolvedCharacteristics → ResolvedCharacteristics → Bool :=
  fold fun kind other =>
    decide (kind.shape = other.kind.shape) && allApplied kind.operands other.kind.operands

theorem same_mk (kind : CharacteristicsKind ResolvedCharacteristics)
    (other : ResolvedCharacteristics) :
    same (mk kind) other = (decide (kind.shape = other.kind.shape) &&
      allApplied (kind.operands.map same) other.kind.operands) := by
  rw [same, fold_mk, CharacteristicsKind.shape_map, CharacteristicsKind.operands_map]

theorem same_iff (a b : ResolvedCharacteristics) : same a b = true ↔ a = b := by
  induction a using induct generalizing b with
  | step kind ih =>
    obtain ⟨other⟩ := b
    have operands := allApplied_map_iff same kind.operands other.operands ih
    rw [same_mk, Bool.and_eq_true, decide_eq_true_eq, ResolvedCharacteristics.kind, operands,
      mk.injEq]
    constructor
    · exact fun parts => CharacteristicsKind.eq_of_shape parts.1 parts.2
    · rintro rfl
      exact ⟨rfl, rfl⟩

instance : DecidableEq ResolvedCharacteristics := fun a b =>
  decidable_of_iff (same a b = true) (same_iff a b)

end ResolvedCharacteristics

end WireTree
