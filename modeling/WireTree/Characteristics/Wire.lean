import WireTree.Characteristics.Basic
import WireTree.Discriminator

/-!
# Characteristics on the wire
-/

namespace WireTree.Wire

/-- The kinds of characteristics. -/
inductive CharacteristicsTag where
  | emptySet
  | simpleSet
  | union
  | intersection
  | invalidSetExpr
deriving DecidableEq

instance : UnionTag CharacteristicsTag where
  all := [.emptySet, .simpleSet, .union, .intersection, .invalidSetExpr]
  name
    | .emptySet => "EmptySet"
    | .simpleSet => "SimpleSet"
    | .union => "Union"
    | .intersection => "Intersection"
    | .invalidSetExpr => "InvalidSetExpr"
  union := "CharacteristicsKind"

/-- The operands of a union or an intersection. -/
structure SetOperation (C : Type) where
  left : C
  right : C
deriving DecidableEq

/-- A characteristics union, over operands `C`. -/
structure CharacteristicsSlots (C : Type) where
  kind : Discriminator CharacteristicsTag
  simpleSet : Option OpProperty
  setOperation : Option (SetOperation C)
deriving DecidableEq

namespace CharacteristicsSlots

variable {C D : Type}

/-- The operands in all slots, selected or not. -/
def operands (slots : CharacteristicsSlots C) : List C :=
  match slots.setOperation with
  | none => []
  | some operation => [operation.left, operation.right]

/-- Replace each operand. -/
def map (f : C → D) (slots : CharacteristicsSlots C) : CharacteristicsSlots D :=
  { kind := slots.kind
    simpleSet := slots.simpleSet
    setOperation := slots.setOperation.map fun operation =>
      ⟨f operation.left, f operation.right⟩ }

/-- The slots without their operands. -/
def shape (slots : CharacteristicsSlots C) : CharacteristicsSlots Unit :=
  slots.map fun _ => ()

theorem eq_of_shape {a b : CharacteristicsSlots C} (sameShape : a.shape = b.shape)
    (sameOperands : a.operands = b.operands) : a = b := by
  obtain ⟨kindA, simpleA, operationA⟩ := a
  obtain ⟨kindB, simpleB, operationB⟩ := b
  cases operationA <;> cases operationB <;> simp_all [shape, map, operands]
  rename_i left right
  cases left
  cases right
  simp_all

theorem map_map {B : Type} (f : C → D) (g : D → B) (slots : CharacteristicsSlots C) :
    (slots.map f).map g = slots.map fun c => g (f c) := by
  simp only [map, Option.map_map, Function.comp_def]

theorem shape_map (f : C → D) (slots : CharacteristicsSlots C) :
    (slots.map f).shape = slots.shape :=
  slots.map_map f fun _ => ()

theorem operands_map (f : C → D) (slots : CharacteristicsSlots C) :
    (slots.map f).operands = slots.operands.map f := by
  obtain ⟨kind, simple, operation⟩ := slots
  cases operation <;> rfl

end CharacteristicsSlots

/-- A resolved characteristics expression. -/
inductive ResolvedCharacteristics where
  | mk (expression : CharacteristicsSlots ResolvedCharacteristics)

namespace ResolvedCharacteristics

/-- The outermost expression. -/
def expression : ResolvedCharacteristics → CharacteristicsSlots ResolvedCharacteristics
  | mk slots => slots

/-- Evaluate an expression from the operands up, those in slots that are not selected
included. -/
def fold {X : Type} (evaluate : CharacteristicsSlots X → X) : ResolvedCharacteristics → X
  | mk ⟨kind, simpleSet, none⟩ => evaluate ⟨kind, simpleSet, none⟩
  | mk ⟨kind, simpleSet, some ⟨left, right⟩⟩ =>
    evaluate ⟨kind, simpleSet, some ⟨left.fold evaluate, right.fold evaluate⟩⟩

theorem fold_mk {X : Type} (evaluate : CharacteristicsSlots X → X)
    (slots : CharacteristicsSlots ResolvedCharacteristics) :
    fold evaluate (mk slots) = evaluate (slots.map (fold evaluate)) := by
  obtain ⟨kind, simpleSet, operation⟩ := slots
  cases operation <;> rfl

/-- What holds of an expression whenever it holds of all its operands holds of every
expression. -/
theorem induct {P : ResolvedCharacteristics → Prop}
    (step : ∀ slots, (∀ c ∈ slots.operands, P c) → P (mk slots)) : ∀ c, P c
  | mk ⟨_, _, none⟩ => step _ (by simp [CharacteristicsSlots.operands])
  | mk ⟨_, _, some ⟨left, right⟩⟩ => step _ (by
      simpa [CharacteristicsSlots.operands] using ⟨induct step left, induct step right⟩)

/-- Whether two expressions are the same, all slots included. -/
def same : ResolvedCharacteristics → ResolvedCharacteristics → Bool :=
  fold fun slots other =>
    decide (slots.shape = other.expression.shape) &&
      allApplied slots.operands other.expression.operands

theorem same_mk (slots : CharacteristicsSlots ResolvedCharacteristics)
    (other : ResolvedCharacteristics) :
    same (mk slots) other = (decide (slots.shape = other.expression.shape) &&
      allApplied (slots.operands.map same) other.expression.operands) := by
  rw [same, fold_mk, CharacteristicsSlots.shape_map, CharacteristicsSlots.operands_map]

theorem same_iff (a b : ResolvedCharacteristics) : same a b = true ↔ a = b := by
  induction a using induct generalizing b with
  | step slots ih =>
    obtain ⟨other⟩ := b
    have operands := allApplied_map_iff same slots.operands other.operands ih
    rw [same_mk, Bool.and_eq_true, decide_eq_true_eq, ResolvedCharacteristics.expression,
      operands, mk.injEq]
    constructor
    · exact fun parts => CharacteristicsSlots.eq_of_shape parts.1 parts.2
    · rintro rfl
      exact ⟨rfl, rfl⟩

instance : DecidableEq ResolvedCharacteristics := fun a b =>
  decidable_of_iff (same a b = true) (same_iff a b)

end ResolvedCharacteristics

end WireTree.Wire
