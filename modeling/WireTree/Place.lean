/-!
# Names and places

What a declaration is called, and where it stands in a source file.
-/

namespace WireTree

/-- A name and the namespace that it is declared in. -/
structure QualifiedName where
  scope : String
  name : String
deriving DecidableEq

namespace QualifiedName

/-- The name as it is shown: namespace, point, name. -/
def display (n : QualifiedName) : String :=
  n.scope ++ "." ++ n.name

/-- Names are ordered by namespace, then by the name itself; texts by code points, which is
the order of their UTF-8 bytes. -/
def compare (a b : QualifiedName) : Ordering :=
  (Ord.compare a.scope b.scope).then (Ord.compare a.name b.name)

instance : Ord QualifiedName := ⟨compare⟩

end QualifiedName

/-- A line and a column in a source file, both counted from zero. -/
structure Position where
  line : UInt32
  column : UInt32
deriving DecidableEq

/-- Positions are ordered by line, then by column. -/
def Position.compare (a b : Position) : Ordering :=
  (Ord.compare a.line b.line).then (Ord.compare a.column b.column)

instance : Ord Position := ⟨Position.compare⟩

/-- The text from one position up to another. -/
structure Range where
  start : Position
  finish : Position
deriving DecidableEq

/-- Where a declaration stands: its position in the file, and the range of its name relative
to that position. -/
structure Location where
  offset : Position
  range : Range
deriving DecidableEq

end WireTree
