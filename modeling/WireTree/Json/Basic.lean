import WireTree.Json.Outline

/-!
# JSON values

This is what trees are written as, and what a well-formed text spells. Members keep their order and
may repeat a key; a number is held as its literal.
-/

namespace WireTree

/-- A JSON value. -/
inductive Json where
  | null
  | boolean (value : Bool)
  | number (numeral : Json.Numeral)
  | text (content : String)
  | array (items : List Json)
  | object (members : List (String × Json))

namespace Json

/-- The literal of an integer. -/
def Numeral.ofInt (n : Int) : Numeral :=
  { negative := decide (n < 0)
    whole := n.natAbs
    places := none
    exponent := none }

/-- An integer as a JSON number. -/
def ofInt (n : Int) : Json := .number (.ofInt n)

/-- A value or `null`. -/
def ofOption {α : Type} (write : α → Json) : Option α → Json
  | none => .null
  | some value => write value

/-- A list as an array. -/
def ofList {α : Type} (write : α → Json) (values : List α) : Json :=
  .array (values.map write)

mutual

/-- The outline of a text that spells the value. -/
def outline : Json → Outline
  | null => .null
  | boolean b => .boolean b
  | number n => .number n
  | text s => .text (some s)
  | array items => .array (outlineItems items) true
  | object members => .object (outlineMembers members) true

/-- The outlines of the items of an array. -/
def outlineItems : List Json → List Outline
  | [] => []
  | item :: items => item.outline :: outlineItems items

/-- The outlines of the members of an object. -/
def outlineMembers : List (String × Json) → List Outline.Member
  | [] => []
  | (key, value) :: members => (some key, value.outline) :: outlineMembers members

end

end Json

end WireTree
