import WireTree.Named

/-!
# Kinds of wire unions, and what can be wrong with a record

A union on the wire is a record with a `kind` and one slot for each payload; the kind selects the
slot that counts. A kind is any text: one that the schema does not know is kept as it is, so that
decoding can report it. A record that was read has no tree if it does not hold together, or if it
holds something that trees have no place for.
Main statement: a text is displayed as it was read (`display_ofText`).
-/

namespace WireTree

/-- A reason why a wire record has no tree. -/
inductive Fault where
  /-- the slot that the kind of a union selects is empty -/
  | inconsistent (union field kind : String)
  /-- the kind of a union has no counterpart in trees -/
  | unsupported (union kind : String)
  /-- a scalar has no value -/
  | malformed (scalar reason : String)
deriving DecidableEq

/-- The wording of a fault. -/
def Fault.message : Fault → String
  | .inconsistent union field kind =>
    union ++ " has kind `" ++ kind ++ "` but its `" ++ field ++ "` payload is missing"
  | .unsupported union kind => "unsupported " ++ union ++ " kind `" ++ kind ++ "`"
  | .malformed scalar reason => "malformed " ++ scalar ++ ": " ++ reason

/-- What decoding yields: a tree, or the first fault. -/
abbrev Decoded (α : Type) := Except Fault α

/-- The kinds of one union. -/
class UnionTag (κ : Type) extends Named κ where
  /-- the union's own name, which faults mention -/
  union : String

/-- The `kind` of a wire union. -/
inductive Discriminator (κ : Type) where
  | known (kind : κ)
  | unrecognized (text : String)
deriving DecidableEq

namespace Discriminator

variable {κ : Type} [UnionTag κ]

/-- The discriminator that a text spells. -/
def ofText (text : String) : Discriminator κ :=
  match Named.ofName? text with
  | some kind => known kind
  | none => unrecognized text

/-- The text of a discriminator. -/
def display : Discriminator κ → String
  | known kind => Named.name kind
  | unrecognized text => text

theorem display_ofText (text : String) : (ofText text : Discriminator κ).display = text := by
  unfold ofText Named.ofName?
  split
  · rename_i kind found
    simpa [display] using List.find?_some found
  · rfl

end Discriminator

namespace UnionTag

variable {κ : Type} [UnionTag κ] {α : Type}

/-- The fault of a kind that trees have no place for. -/
def unsupported (kind : Discriminator κ) : Fault :=
  .unsupported (union κ) kind.display

/-- The payload in the slot that a kind selects. -/
def payload (kind : κ) (field : String) (slot : Option α) : Decoded α :=
  match slot with
  | some value => .ok value
  | none => .error (.inconsistent (union κ) field (Named.name kind))

end UnionTag

end WireTree
