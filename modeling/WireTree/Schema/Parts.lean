import WireTree.Schema.Scalar

/-!
# Reading values with a fixed number of parts

These are records, from objects or from arrays, and tuples. A record in the form of an object meets
its members in the order of the text; only when the object has ended are those that it lacks looked
for, in the order of the record.
-/

namespace WireTree

open Json (Outline)

/-- A number of elements in words. -/
def elements (n : Nat) : String :=
  toString n ++ (if n = 1 then " element" else " elements")

/-- An array with a fixed number of parts has to end after them. -/
def finishArray {α : Type} (feed : Feed) (taken : Nat) (extra : List Outline) (closed : Bool)
    (a : α) : Reading α :=
  if extra.isEmpty && closed then .ok a
  else
    match feed with
    | .text => malformed
    | .buffer =>
      refuse (.invalidLength (taken + extra.length) (elements taken ++ " in sequence"))

/-- How the parts of a container are read: the containers that may still be opened inside each
other, how a key that names an alternative is checked, and the reader. -/
structure Inside (S : Type → Type 1) where
  depth : Nat
  keyCheck : KeyCheck
  read : {α : Type} → Feed → S α → Outline → Reading α

variable {S : Type → Type 1}

/-- The room for a part that is a container, if it may be one. -/
def Inside.room (inside : Inside S) : Option KeyCheck :=
  if 0 < inside.depth then some inside.keyCheck else none

theorem Inside.room_eq_some {inside : Inside S} (deep : 0 < inside.depth) :
    inside.room = some inside.keyCheck :=
  if_pos deep

@[simp]
theorem Inside.isSome_room (inside : Inside S) :
    inside.room.isSome = decide (0 < inside.depth) := by
  unfold room
  split <;> simp [*]

namespace Fields

/-- Take one member of an object, or nothing if its key is not among the record's. A key that
comes again is refused, whatever its value is. -/
def readMember (inside : Inside S) (feed : Feed) (key : String) (value : Outline)
    {σ τ : Type} : Fields S σ τ → σ → Reading (Option σ)
  | nil, _ => .ok none
  | cons name _ schema rest, (slot, slots) =>
    if name = key then
      if slot.isSome then refuse (.duplicateField key)
      else do return some (some (← inside.read feed schema value), slots)
    else do
      match ← rest.readMember inside feed key value slots with
      | none => return none
      | some slots => return some (slot, slots)

/-- Take the members of an object, skipping those whose keys are not among the record's. -/
def readMembers (inside : Inside S) (feed : Feed) {σ τ : Type} (fields : Fields S σ τ) :
    σ → List Outline.Member → Reading σ
  | slots, [] => .ok slots
  | slots, (some key, value) :: rest => do
    match ← fields.readMember inside feed key value slots with
    | some slots => fields.readMembers inside feed slots rest
    | none => if value.intact then fields.readMembers inside feed slots rest else malformed
  | _, (none, _) :: _ => malformed

/-- The value of a member that may be absent. -/
def resolve {α : Type} (key : String) (presence : Presence α) : Option α → Reading α
  | some value => .ok value
  | none =>
    match presence with
    | .required => refuse (.missingField key)
    | .absentAs value => .ok value
    | .defaultsTo value => .ok value

/-- The values of all members, once the object has ended. -/
def complete {σ τ : Type} : Fields S σ τ → σ → Reading τ
  | nil, _ => .ok ()
  | cons key presence _ rest, (slot, slots) => do
    return (← resolve key presence slot, ← rest.complete slots)

/-- The values of all members from an array, and the elements left over. -/
def readElements (inside : Inside S) (feed : Feed) (wanted : String) (closed : Bool)
    {σ τ : Type} : Nat → Fields S σ τ → List Outline → Reading (τ × List Outline)
  | _, nil, items => .ok ((), items)
  | index, cons _ _ schema rest, item :: items => do
    let value ← inside.read feed schema item
    let (values, extra) ← rest.readElements inside feed wanted closed (index + 1) items
    return ((value, values), extra)
  | index, cons _ presence _ rest, [] =>
    if closed then
      match presence with
      | .defaultsTo value => do
        let (values, extra) ← rest.readElements inside feed wanted closed (index + 1) []
        return ((value, values), extra)
      | _ => refuse (.invalidLength index wanted)
    else malformed

/-- A record from the members of an object. -/
def readObject (inside : Inside S) (feed : Feed) {σ τ : Type} (fields : Fields S σ τ)
    (members : List Outline.Member) (closed : Bool) : Reading τ := do
  let slots ← fields.readMembers inside feed fields.blank members
  if closed then fields.complete slots else malformed

/-- A record from the elements of an array. -/
def readArray (inside : Inside S) (feed : Feed) (name : String) {σ τ : Type}
    (fields : Fields S σ τ) (items : List Outline) (closed : Bool) : Reading τ := do
  let size := fields.keys.length
  let wanted := "struct " ++ name ++ " with " ++ elements size
  let (values, extra) ← fields.readElements inside feed wanted closed 0 items
  finishArray feed size extra closed values

end Fields

namespace Items

/-- The parts of a tuple, and the elements left over. -/
def readElements (inside : Inside S) (feed : Feed) (counted : String) (closed : Bool)
    {τ : Type} : Nat → Items S τ → List Outline → Reading (τ × List Outline)
  | _, nil, items => .ok ((), items)
  | index, cons schema rest, item :: items => do
    let value ← inside.read feed schema item
    let (values, extra) ← rest.readElements inside feed counted closed (index + 1) items
    return ((value, values), extra)
  | index, cons _ _, [] =>
    if closed then refuse (.invalidLength index counted) else malformed

end Items

end WireTree
