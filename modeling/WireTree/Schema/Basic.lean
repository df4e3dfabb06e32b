import WireTree.Json.Numeral
import WireTree.Table

/-!
# Schemas

They say which JSON values spell a value of a type, and which value each of them spells.

A schema is a deep embedding, so that one reader serves all types and what is proved of the
reader holds of all types. Recursive types are tied through nodes: a grammar gives each node
its shape, and a schema may mention a node wherever a value of the node's type is wanted.
Every shape is a container in JSON, which is why reading a node always gets one level deeper.

The shapes of values with parts take the schemas of the parts from any family `S`.
-/

namespace WireTree

/-- What an integer has to be like to spell a value, and the value that it spells. An integer
that does not fit is refused with a description of those that do. -/
structure IntegerRule (α : Type) where
  wanted : String
  accept : Int → Except String α

/-- What happens when a member of a record is absent. -/
inductive Presence (α : Type) where
  /-- the record is refused -/
  | required
  /-- an object may leave the member out; an array that ends before it is refused -/
  | absentAs (value : α)
  /-- an object may leave the member out and an array may end before it -/
  | defaultsTo (value : α)

/-- The members of a record, in order: their keys and the schemas of their values. While a
record is read, `σ` holds what has been found; `τ` holds the values in the end. -/
inductive Fields (S : Type → Type 1) : Type → Type → Type 1 where
  | nil : Fields S Unit Unit
  | cons {α σ τ : Type} (key : String) (presence : Presence α) (schema : S α)
      (rest : Fields S σ τ) : Fields S (Option α × σ) (α × τ)

/-- The parts of a tuple, in order. -/
inductive Items (S : Type → Type 1) : Type → Type 1 where
  | nil : Items S Unit
  | cons {α τ : Type} (schema : S α) (rest : Items S τ) : Items S (α × τ)

/-- The `n` alternatives of a union, each under its tag. -/
inductive Arms (S : Type → Type 1) : Nat → Type → Type 1 where
  | nil {α : Type} : Arms S 0 α
  /-- an alternative that has no payload -/
  | bare {n : Nat} {α : Type} (tag : String) (value : α) (rest : Arms S n α) :
      Arms S (n + 1) α
  | payload {n : Nat} {α β : Type} (tag : String) (schema : S β) (make : β → α)
      (rest : Arms S n α) : Arms S (n + 1) α

/-- How values with a fixed number of parts are spelled. -/
inductive Shape (S : Type → Type 1) : Type → Type 1 where
  /-- an object with named members, or the array of their values -/
  | record {σ τ α : Type} (name : String) (fields : Fields S σ τ) (make : τ → α) : Shape S α
  /-- an array; a shorter one is refused as not being what is `counted` -/
  | tuple {τ α : Type} (wanted counted : String) (items : Items S τ) (make : τ → α) : Shape S α
  /-- an object with the members `type` and `value`, or the array of both -/
  | union {n : Nat} {α : Type} (name : String) (arms : Arms S n α) : Shape S α

/-- How values of a type are spelled, over the nodes `K`. -/
inductive Schema {ι : Type} (K : ι → Type) : Type → Type 1 where
  | integer {α : Type} (rule : IntegerRule α) : Schema K α
  | double : Schema K Binary64
  | boolean : Schema K Bool
  | text {α : Type} (make : String → α) : Schema K α
  /-- one of a few names -/
  | choice {α : Type} (names : List (String × α)) : Schema K α
  /-- `null`, or a value -/
  | optional {α : Type} (inner : Schema K α) : Schema K (Option α)
  | list {α : Type} (wanted : String) (item : Schema K α) : Schema K (List α)
  /-- an object whose keys are free -/
  | table {α : Type} (item : Schema K α) : Schema K (Table α)
  | shape {α : Type} (inner : Shape (Schema K) α) : Schema K α
  | node (i : ι) : Schema K (K i)

/-- What comes of an object that has to name one of a few alternatives if a value other than a text
stands where its key has to begin. The JSON library below the program decides it, and the program
fixes no release of it: by the source of some the value is refused, while runs of the program, on
`{1: null}` and on `{true`, found the text malformed. -/
inductive KeyCheck where
  /-- no object begins so, and the text is malformed -/
  | syntactic
  /-- the value is refused by what it is, as no name -/
  | typed

/-- The nodes of a family of recursive types: the type that each node stands for, and its
shape; and how a key that names an alternative is checked. -/
structure Grammar (ι : Type) where
  Carrier : ι → Type
  shape : (i : ι) → Shape (Schema Carrier) (Carrier i)
  keyCheck : KeyCheck

variable {S : Type → Type 1}

namespace Fields

/-- The keys, in order. -/
def keys {σ τ : Type} : Fields S σ τ → List String
  | nil => []
  | cons key _ _ rest => key :: rest.keys

/-- Nothing found yet. -/
def blank {σ τ : Type} : Fields S σ τ → σ
  | nil => ()
  | cons _ _ _ rest => (none, rest.blank)

end Fields

/-- The number of parts. -/
def Items.size {τ : Type} : Items S τ → Nat
  | nil => 0
  | cons _ rest => rest.size + 1

end WireTree
