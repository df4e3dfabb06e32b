import WireTree.Named
import WireTree.Schema.Parts

/-!
# Reading unions

An object names the alternative in its member `type` and gives the payload in its member `value`; an
array gives both in this order. If the payload comes first it is held back until the alternative is
known. Nothing in it was skipped then, so that it is known to be well formed and not too deep.
-/

namespace WireTree

open Json (Outline)

namespace Json.Outline

mutual

/-- Whether a value is well formed throughout and opens no more than so many containers inside
each other. -/
def soundWithin : Nat → Outline → Bool
  | _, .null => true
  | _, .boolean _ => true
  | _, .number n => n.toNumber?.isSome
  | _, .text content => content.isSome
  | 0, .array _ _ => false
  | depth + 1, .array items closed => allSoundWithin depth items && closed
  | 0, .object _ _ => false
  | depth + 1, .object members closed => membersSoundWithin depth members && closed
  | _, .misplaced _ => false
  | _, .broken => false

/-- Whether all items are. -/
def allSoundWithin : Nat → List Outline → Bool
  | _, [] => true
  | depth, item :: items => soundWithin depth item && allSoundWithin depth items

/-- Whether all members are. -/
def membersSoundWithin : Nat → List (Option String × Outline) → Bool
  | _, [] => true
  | depth, (key, value) :: members =>
    key.isSome && soundWithin depth value && membersSoundWithin depth members

end

end Json.Outline

/-- The members that belong to a union. -/
inductive UnionMember where
  | tag
  | payload

/-- The key of a member. -/
def UnionMember.key : UnionMember → String
  | tag => "type"
  | payload => "value"

variable {S : Type → Type 1}

namespace Arms

/-- The next member that belongs to a union, and those after it. -/
def nextMember : List Outline.Member → Bool →
    Reading (Option (UnionMember × Outline × List Outline.Member))
  | [], closed => if closed then .ok none else malformed
  | (some key, value) :: rest, closed =>
    if key = "type" then .ok (some (.tag, value, rest))
    else if key = "value" then .ok (some (.payload, value, rest))
    else if value.intact then nextMember rest closed
    else malformed
  | (none, _) :: _, _ => malformed

/-- No further member may belong to the union. -/
def finishObject {α : Type} (rest : List Outline.Member) (closed : Bool) (a : α) :
    Reading α := do
  match ← nextMember rest closed with
  | none => return a
  | some (member, _, _) => refuse (.duplicateField member.key)

end Arms

/-- How one alternative of a union is read: when nothing stands for its payload, and when
something does. -/
structure Alternative (α : Type) where
  absent : Reading α
  present : Feed → Outline → Reading α

namespace Alternative

variable {α : Type}

/-- An alternative without payload. Only `null` may stand for it. -/
def bare (inside : Inside S) (union tag : String) (value : α) : Alternative α where
  absent := .ok value
  present _ o :=
    match o, inside.room with
    | .null, _ => .ok value
    | .array _ _, none => malformed
    | .object _ _, none => malformed
    | _, _ => mismatch o ("unit variant " ++ union ++ "::" ++ Named.raiseInitial tag)

/-- An alternative with a payload. -/
def payload (inside : Inside S) {β : Type} (schema : S β) (make : β → α) :
    Alternative α where
  absent := refuse (.missingField UnionMember.payload.key)
  present feed o := make <$> inside.read feed schema o

end Alternative

namespace Arms

/-- The alternatives by their tags. -/
def alternatives (inside : Inside S) (union : String) {n : Nat} {α : Type} :
    Arms S n α → List (String × Alternative α)
  | nil => []
  | bare tag value rest => (tag, .bare inside union tag value) :: rest.alternatives inside union
  | payload tag schema make rest =>
    (tag, .payload inside schema make) :: rest.alternatives inside union

variable {n : Nat} {α : Type}

/-- A union from the members of an object. -/
def readObject (inside : Inside S) (feed : Feed) (union : String) (arms : Arms S n α)
    (members : List Outline.Member) (closed : Bool) : Reading α := do
  match ← nextMember members closed with
  | none => refuse (.missingField UnionMember.tag.key)
  | some (.tag, tag, rest) =>
    let chosen ← Schema.readChoice inside.room feed (arms.alternatives inside union) tag
    match ← nextMember rest closed with
    | none => chosen.absent
    | some (.tag, _, _) => refuse (.duplicateField UnionMember.tag.key)
    | some (.payload, value, rest) =>
      let a ← chosen.present feed value
      finishObject rest closed a
  | some (.payload, value, rest) =>
    if value.soundWithin inside.depth then
      match ← nextMember rest closed with
      | none => refuse (.missingField UnionMember.tag.key)
      | some (.payload, _, _) => refuse (.duplicateField UnionMember.payload.key)
      | some (.tag, tag, rest) =>
        let chosen ← Schema.readChoice inside.room feed (arms.alternatives inside union) tag
        let a ← chosen.present .buffer value
        finishObject rest closed a
    else malformed

/-- A union from the elements of an array. -/
def readArray (inside : Inside S) (feed : Feed) (union : String) (arms : Arms S n α)
    (items : List Outline) (closed : Bool) : Reading α :=
  let short (length : Nat) : Reading α :=
    if closed then refuse (.invalidLength length ("adjacently tagged enum " ++ union))
    else malformed
  match items with
  | [] => short 0
  | tag :: rest => do
    let chosen ← Schema.readIdentifier feed (arms.alternatives inside union) tag
    match rest with
    | [] => short 1
    | value :: extra =>
      let a ← chosen.present feed value
      finishArray feed 2 extra closed a

end Arms

end WireTree
