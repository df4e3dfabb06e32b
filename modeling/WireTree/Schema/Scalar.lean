import WireTree.Json.Outline
import WireTree.Refusal
import WireTree.Schema.Basic

/-!
# Reading values without parts

These are numbers, texts, truth values, and names out of a choice. A value of another kind is
refused by what it is; where the text breaks off there is nothing to name, and the text is
malformed.
-/

namespace WireTree

open Json (Outline)

/-- Where a value is read from. -/
inductive Feed where
  /-- straight from the text -/
  | text
  /-- from a payload that was held back -/
  | buffer
deriving DecidableEq

/-- What stands in the text, unless it is malformed. -/
def Json.Outline.found? : Outline → Option Found
  | .null => some .null
  | .boolean b => some (.boolean b)
  | .number n =>
    match n.toNumber? with
    | none => none
    | some (.integer value) => some (.integer value)
    | some (.double value) => some (.double value)
  | .text content => content.map .text
  | .array _ _ => some .sequence
  | .object _ _ => some .map
  | .misplaced _ => none
  | .broken => none

/-- Refuse a value that is not of the kind that is wanted. -/
def mismatch {α : Type} (o : Outline) (wanted : String) : Reading α :=
  match o.found? with
  | none => malformed
  | some found => refuse (.invalidType found wanted)

namespace Schema

variable {α β : Type}

/-- An integer that fits a rule. -/
def readInteger (rule : IntegerRule α) (o : Outline) : Reading α :=
  match o with
  | .number n =>
    match n.toInteger? with
    | none => mismatch o rule.wanted
    | some value =>
      match rule.accept value with
      | .ok a => .ok a
      | .error wanted => refuse (.invalidValue (.integer value) wanted)
  | _ => mismatch o rule.wanted

/-- A number. An integer stands for the double nearest to it. -/
def readDouble : Outline → Reading Binary64
  | .number n =>
    match n.toDouble? with
    | none => malformed
    | some d => .ok d
  | o => mismatch o "f64"

/-- A truth value. -/
def readBoolean : Outline → Reading Bool
  | .boolean b => .ok b
  | o => mismatch o "a boolean"

/-- A text. -/
def readText (make : String → α) : Outline → Reading α
  | .text (some content) => .ok (make content)
  | o => mismatch o "a string"

/-- What a name stands for. -/
def resolveName (names : List (String × α)) (name : String) : Reading α :=
  match names.lookup name with
  | some a => .ok a
  | none => refuse (.unknownVariant name (names.map (·.1)))

/-- Another value in the place of a name. -/
def misnamed (check : KeyCheck) : Outline → Reading α
  | .misplaced value =>
    match check with
    | .syntactic => malformed
    | .typed => mismatch value "variant identifier"
  | _ => malformed

/-- A choice in the form of an object: its name is the only key, and the value is `null`. -/
def readChoiceObject (check : KeyCheck) (names : List (String × α)) :
    List Outline.Member → Bool → Reading α
  | (some name, value) :: rest, closed => do
    let a ← resolveName names name
    match value with
    | .null => if rest.isEmpty && closed then .ok a else malformed
    | _ => mismatch value "unit"
  | (none, value) :: _, _ => misnamed check value
  | [], _ => malformed

/-- A choice in the form of an object that was held back. -/
def readHeldChoice (names : List (String × α)) : List Outline.Member → Reading α
  | [(some name, value)] => do
    let a ← resolveName names name
    match value with
    | .null => .ok a
    | .object [] _ => .ok a
    | _ => mismatch value "unit"
  | _ => refuse (.invalidValue .map "map with a single key")

/-- One of a few names: a text, or an object, which needs room for a container. -/
def readChoice (room : Option KeyCheck) (feed : Feed) (names : List (String × α)) :
    Outline → Reading α
  | .text (some name) => resolveName names name
  | .object members closed =>
    match feed with
    | .text =>
      match room with
      | none => malformed
      | some check => readChoiceObject check names members closed
    | .buffer => readHeldChoice names members
  | o =>
    match feed with
    | .text => malformed
    | .buffer => mismatch o "string or map"

/-- One of a few names where only a text will do; a payload that was held back may also give
the number of the name. -/
def readIdentifier (feed : Feed) (names : List (String × α)) (o : Outline) : Reading α :=
  match o with
  | .text (some name) => resolveName names name
  | _ =>
    match feed, o.found? with
    | .buffer, some (.integer (.ofNat index)) =>
      match names[index]? with
      | some (_, a) => .ok a
      | none =>
        refuse (.invalidValue (.integer index)
          ("variant index 0 <= i < " ++ toString names.length))
    | _, _ => mismatch o "variant identifier"

end Schema

end WireTree
