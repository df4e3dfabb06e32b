import WireTree.Schema.Reading

/-!
# Files that hold a value

A file that cannot be opened is told apart from one whose text is not read.
-/

namespace WireTree

/-- Why a file holds no value. -/
inductive LoadError where
  /-- the file cannot be opened, for a reason that the system gives -/
  | cannotOpen (path reason : String)
  | unreadable (why : ReadError)
deriving DecidableEq

/-- The wording for a file that cannot be opened. -/
def LoadError.cannotOpenMessage (path reason : String) : String :=
  "failed to open " ++ path ++ ": " ++ reason

/-- What is in a file: its text, or the reason why it cannot be opened. -/
abbrev FileContent := Except String String

/-- The value in a file. -/
def Grammar.load {ι : Type} (g : Grammar ι) {α : Type} (schema : Schema g.Carrier α)
    (path : String) : FileContent → Except LoadError α
  | .error reason => .error (.cannotOpen path reason)
  | .ok text =>
    match g.readText schema text with
    | .ok value => .ok value
    | .error why => .error (.unreadable why)

end WireTree
