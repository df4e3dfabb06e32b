/-!
# Finite sets of named cases

The names are those of the wire, which begin with a capital; in the notation of trees the first
letter is lowered.
-/

namespace WireTree

/-- A type whose finitely many values have names. -/
class Named (α : Type) where
  /-- all values, in the order in which messages list them -/
  all : List α
  /-- the name of a value, as the wire spells it -/
  name : α → String

namespace Named

variable {α : Type} [Named α]

/-- The value with a name, character for character. -/
def ofName? (text : String) : Option α :=
  (all (α := α)).find? fun a => name a == text

/-- A text with its first letter lowered. -/
def lowerInitial (text : String) : String :=
  match text.toList with
  | [] => ""
  | c :: rest => String.ofList (c.toLower :: rest)

/-- A text with its first letter raised. -/
def raiseInitial (text : String) : String :=
  match text.toList with
  | [] => ""
  | c :: rest => String.ofList (c.toUpper :: rest)

/-- The name of a value in the notation of trees. -/
def treeName (a : α) : String :=
  lowerInitial (name a)

/-- The values by their names on the wire. -/
def wireNames : List (String × α) :=
  all.map fun a => (name a, a)

/-- The values by their names in the notation of trees. -/
def treeNames : List (String × α) :=
  all.map fun a => (treeName a, a)

end Named

end WireTree
