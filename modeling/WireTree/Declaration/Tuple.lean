import WireTree.Sequence

/-!
# Tuples of declared items

They are nested to any depth.
Main statement: equality is decidable (`same_iff`).
-/

namespace WireTree

/-- An item, or a tuple of such. -/
inductive Tuple (α : Type) where
  | item (value : α)
  | tuple (items : List (Tuple α))

namespace Tuple

variable {α X : Type}

mutual

/-- Evaluate a tuple from the items up. -/
def fold (onItem : α → X) (onTuple : List X → X) : Tuple α → X
  | item value => onItem value
  | tuple items => onTuple (foldAll onItem onTuple items)

/-- Evaluate each tuple in a list. -/
def foldAll (onItem : α → X) (onTuple : List X → X) : List (Tuple α) → List X
  | [] => []
  | t :: ts => t.fold onItem onTuple :: foldAll onItem onTuple ts

end

theorem foldAll_eq_map (onItem : α → X) (onTuple : List X → X) (ts : List (Tuple α)) :
    foldAll onItem onTuple ts = ts.map (fold onItem onTuple) := by
  induction ts with
  | nil => rfl
  | cons t ts ih => rw [foldAll, ih, List.map_cons]

theorem fold_tuple (onItem : α → X) (onTuple : List X → X) (items : List (Tuple α)) :
    fold onItem onTuple (tuple items) = onTuple (items.map (fold onItem onTuple)) := by
  rw [fold, foldAll_eq_map]

mutual

/-- What holds of items, and of a tuple whenever it holds of its parts, holds of every
tuple. -/
theorem induct {P : Tuple α → Prop} (onItem : ∀ value, P (item value))
    (onTuple : ∀ items, (∀ t ∈ items, P t) → P (tuple items)) : ∀ t, P t
  | item value => onItem value
  | tuple items => onTuple items (inductAll onItem onTuple items)

/-- The induction over the tuples in a list. -/
theorem inductAll {P : Tuple α → Prop} (onItem : ∀ value, P (item value))
    (onTuple : ∀ items, (∀ t ∈ items, P t) → P (tuple items)) :
    ∀ ts : List (Tuple α), ∀ t ∈ ts, P t
  | [] => by simp
  | t :: ts => by simpa using ⟨induct onItem onTuple t, inductAll onItem onTuple ts⟩

end

variable [DecidableEq α]

/-- Whether a tuple is this one item. -/
def isItem (value : α) : Tuple α → Bool
  | item other => decide (value = other)
  | tuple _ => false

/-- Whether a tuple has parts that pass these tests, each its own. -/
def hasParts (tests : List (Tuple α → Bool)) : Tuple α → Bool
  | item _ => false
  | tuple items => allApplied tests items

/-- Whether two tuples are the same. -/
def same : Tuple α → Tuple α → Bool :=
  fold isItem hasParts

theorem same_iff (a b : Tuple α) : same a b = true ↔ a = b := by
  induction a using induct generalizing b with
  | onItem value => cases b <;> simp [same, fold, isItem]
  | onTuple items ih =>
    rw [same, fold_tuple]
    cases b with
    | item other => simp [hasParts]
    | tuple others =>
      rw [hasParts, tuple.injEq]
      exact allApplied_map_iff same items others ih

instance : DecidableEq (Tuple α) := fun a b =>
  decidable_of_iff (same a b = true) (same_iff a b)

end Tuple

end WireTree
