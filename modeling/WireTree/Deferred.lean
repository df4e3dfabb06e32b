/-!
# Parts that decoding leaves for later

A part that is pending is equal to no part that was decoded, an empty one included, so that "nothing
there" and "not yet looked at" stay apart.
-/

namespace WireTree

/-- A part of a tree that may be pending. -/
inductive Deferred (α : Type) where
  /-- not decoded yet -/
  | pending
  | decoded (value : α)
deriving DecidableEq

/-- A part is pending until it is decoded. -/
instance {α : Type} : Inhabited (Deferred α) := ⟨.pending⟩

namespace Deferred

variable {α β : Type}

/-- Whether the part is not decoded yet. -/
def isPending : Deferred α → Bool
  | pending => true
  | decoded _ => false

/-- The part, if it is decoded. -/
def decoded? : Deferred α → Option α
  | pending => none
  | decoded value => some value

/-- Convert a decoded part; a pending one stays pending. -/
def map (f : α → β) : Deferred α → Deferred β
  | pending => pending
  | decoded value => decoded (f value)

end Deferred

end WireTree
