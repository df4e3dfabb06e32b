import WireTree.Schema.Union

/-!
# Reading a value by a schema

The text is taken from left to right and the first thing that cannot be used ends the reading; since
an outline holds what a text spells up to where it breaks off, reading works on outlines and never
looks at characters.

The depth of nesting is limited. A reader is given what reads the parts of a container, if a
container may still be opened; a value that is skipped, or refused because a container is not
wanted at all, is not entered and does not count.
-/

namespace WireTree

open Json (Outline)

variable {S : Type → Type 1}

/-- Enter a container, if there is room for one. -/
def enter {α : Type} (inside : Option (Inside S)) (use : Inside S → Reading α) : Reading α :=
  match inside with
  | none => malformed
  | some inside => use inside

/-- A value of a shape. -/
def Shape.read (inside : Option (Inside S)) (feed : Feed) {α : Type} :
    Shape S α → Outline → Reading α
  | record name fields make, o =>
    match o with
    | .object members closed =>
      enter inside fun inside => make <$> fields.readObject inside feed members closed
    | .array items closed =>
      enter inside fun inside => make <$> fields.readArray inside feed name items closed
    | _ => mismatch o ("struct " ++ name)
  | tuple wanted counted parts make, o =>
    match o with
    | .array items closed =>
      enter inside fun inside => do
        let (values, extra) ← parts.readElements inside feed counted closed 0 items
        finishArray feed parts.size extra closed (make values)
    | _ => mismatch o wanted
  | union name arms, o =>
    match o with
    | .object members closed =>
      enter inside fun inside => arms.readObject inside feed name members closed
    | .array items closed =>
      enter inside fun inside => arms.readArray inside feed name items closed
    | _ => mismatch o ("adjacently tagged enum " ++ name)

namespace Inside

/-- Every item of an array. -/
def readList (inside : Inside S) (feed : Feed) {α : Type} (item : S α)
    (items : List Outline) (closed : Bool) : Reading (List α) := do
  let values ← items.mapM (inside.read feed item)
  if closed then return values else malformed

/-- The entries of an object with free keys, put into those found before; of several values of
a key, the last one. -/
def readEntries (inside : Inside S) (feed : Feed) {α : Type} (item : S α) :
    Table α → List Outline.Member → Reading (Table α)
  | entries, [] => .ok entries
  | entries, (some key, value) :: rest => do
    let a ← inside.read feed item value
    inside.readEntries feed item (entries.put key a) rest
  | _, (none, _) :: _ => malformed

/-- The table of the members of an object. -/
def readTable (inside : Inside S) (feed : Feed) {α : Type} (item : S α)
    (members : List Outline.Member) (closed : Bool) : Reading (Table α) := do
  let entries ← inside.readEntries feed item .empty members
  if closed then return entries else malformed

end Inside

namespace Schema

/-- Read a value, given the shapes of nodes and how the parts of a container are read. -/
def layer {ι : Type} {K : ι → Type} (shape : (i : ι) → Shape (Schema K) (K i))
    (inside : Option (Inside (Schema K))) (feed : Feed) {α : Type} :
    Schema K α → Outline → Reading α
  | integer rule, o => readInteger rule o
  | double, o => readDouble o
  | boolean, o => readBoolean o
  | text make, o => readText make o
  | choice names, o => readChoice (inside.map Inside.keyCheck) feed names o
  | optional inner, o =>
    match o with
    | .null => .ok none
    | _ => some <$> layer shape inside feed inner o
  | list wanted item, o =>
    match o with
    | .array items closed => enter inside fun inside => inside.readList feed item items closed
    | _ => mismatch o wanted
  | table item, o =>
    match o with
    | .object members closed =>
      enter inside fun inside => inside.readTable feed item members closed
    | _ => mismatch o "a map"
  | .shape inner, o => inner.read inside feed o
  | node i, o => (shape i).read inside feed o

end Schema

namespace Grammar

variable {ι : Type} {α : Type}

/-- Read a value that may open `depth` containers inside each other. -/
def read (g : Grammar ι) (depth : Nat) {α : Type} (feed : Feed) (schema : Schema g.Carrier α)
    (o : Outline) : Reading α :=
  match depth with
  | 0 => schema.layer g.shape none feed o
  | depth + 1 => schema.layer g.shape (some ⟨depth, g.keyCheck, g.read depth⟩) feed o

/-- The greatest number of containers inside each other. -/
def maxDepth : Nat := 127

/-- Read a document: nothing but blanks may follow the value. -/
def readDocument (g : Grammar ι) (schema : Schema g.Carrier α) (document : Json.Document) :
    Reading α := do
  let value ← g.read maxDepth .text schema document.root
  if document.trailing then malformed else return value

/-- Read a text. -/
def readText (g : Grammar ι) (schema : Schema g.Carrier α) (text : String) : Reading α :=
  g.readDocument schema (.ofText text)

end Grammar

end WireTree
