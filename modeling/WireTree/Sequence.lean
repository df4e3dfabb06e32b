/-!
# Lists of values

Lists in ascending order, which values of a list are the same, and lists compared part by part.
Main statement: if each test tells whether its own value is given, then the tests together
tell whether two lists are equal (`allApplied_map_iff`).
-/

namespace WireTree

/-- The values in ascending order; those that compare equal keep their order. -/
def ascending {α : Type} [Ord α] (values : List α) : List α :=
  values.mergeSort fun a b => (compare a b).isLE

/-- For each value, the place of the first one that is equal to it. -/
def firstIndices {α : Type} [DecidableEq α] (values : List α) : List Nat :=
  values.map fun value => values.findIdx fun other => decide (other = value)

/-- Apply a list of tests to a list of values of the same length, each to its own. -/
def allApplied {α : Type} : List (α → Bool) → List α → Bool
  | [], [] => true
  | test :: tests, value :: values => test value && allApplied tests values
  | _, _ => false

theorem allApplied_map_iff {α : Type} (same : α → α → Bool) (xs ys : List α)
    (exact : ∀ x ∈ xs, ∀ y, same x y = true ↔ x = y) :
    allApplied (xs.map same) ys = true ↔ xs = ys := by
  induction xs generalizing ys with
  | nil => cases ys <;> simp [allApplied]
  | cons x xs ih =>
    cases ys with
    | nil => simp [allApplied]
    | cons y ys =>
      have head := exact x List.mem_cons_self y
      have tail := ih ys fun z member => exact z (List.mem_cons_of_mem _ member)
      simp [allApplied, head, tail]

end WireTree
