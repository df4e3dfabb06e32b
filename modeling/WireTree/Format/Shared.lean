import WireTree.BigInteger
import WireTree.Discriminator
import WireTree.ResolvedType.Basic
import WireTree.Schema.Reading

/-!
# Schemas that wire records and trees have in common

These are the schemas of scalars, places and names.
-/

namespace WireTree.Format

variable {ι : Type} {K : ι → Type} {α β σ τ : Type}

/-- A member that has to be there. -/
def required (key : String) (schema : Schema K α) (rest : Fields (Schema K) σ τ) :
    Fields (Schema K) (Option α × σ) (α × τ) :=
  .cons key .required schema rest

/-- A member that may be absent from an object or `null`. -/
def optional (key : String) (schema : Schema K α) (rest : Fields (Schema K) σ τ) :
    Fields (Schema K) (Option (Option α) × σ) (Option α × τ) :=
  .cons key (.absentAs none) (.optional schema) rest

/-- A member with a value for when it is absent. -/
def defaulted (key : String) (value : α) (schema : Schema K α) (rest : Fields (Schema K) σ τ) :
    Fields (Schema K) (Option α × σ) (α × τ) :=
  .cons key (.defaultsTo value) schema rest

/-- A record. -/
def record (name : String) (fields : Fields (Schema K) σ τ) (make : τ → α) : Schema K α :=
  .shape (.record name fields make)

/-- Integers from `least` to `greatest`. -/
def bounded (wanted : String) (least greatest : Int) (make : Int → α) : IntegerRule α where
  wanted := wanted
  accept n := if least ≤ n ∧ n ≤ greatest then .ok (make n) else .error wanted

/-- Unsigned integers of 8 bits. -/
def byte : Schema K UInt8 :=
  .integer (bounded "u8" 0 (UInt8.size - 1) fun n => UInt8.ofNat n.toNat)

/-- Unsigned integers of 32 bits. -/
def word : Schema K UInt32 :=
  .integer (bounded "u32" 0 (UInt32.size - 1) fun n => UInt32.ofNat n.toNat)

/-- Signed integers of 64 bits. -/
def int64 : Schema K Int64 :=
  .integer (bounded "i64" Int64.minValue.toInt Int64.maxValue.toInt Int64.ofInt)

/-- A text as it is. -/
def string : Schema K String := .text id

/-- A list. -/
def list (item : Schema K α) : Schema K (List α) := .list "a sequence" item

/-- The kind of a wire union: any text. -/
def discriminator (κ : Type) [UnionTag κ] : Schema K (Discriminator κ) :=
  .text Discriminator.ofText

/-- Two values in an array. -/
def pair (first : Schema K α) (second : Schema K β) : Schema K (α × β) :=
  .shape (.tuple "a tuple of size 2" "a tuple of size 2" (.cons first (.cons second .nil))
    fun (a, b, ()) => (a, b))

/-- A sign. It is read as an integer of 8 bits first, which shows in what refuses it. -/
def sign : Schema K BigInteger.Sign :=
  .integer {
    wanted := "i8"
    accept := fun n =>
      if -128 ≤ n ∧ n < 128 then
        match BigInteger.Sign.ofInt? n with
        | some s => .ok s
        | none => .error "a sign of -1, 0, or 1"
      else .error "i8" }

/-- An integer of any size: its sign and the digits of its magnitude. -/
def bigInteger : Schema K Int :=
  .shape (.tuple "a tuple of size 2" "a tuple of size 2"
    (.cons sign (.cons (.list "a sequence of unsigned 32-bit numbers" word) .nil))
    fun (sign, digits, ()) => BigInteger.ofSignDigits sign digits)

/-- A position. -/
def position : Schema K Position :=
  record "Position" (required "line" word <| required "column" word <| .nil)
    fun (line, column, ()) => ⟨line, column⟩

/-- A range. -/
def range : Schema K Range :=
  record "Range" (required "start" position <| required "end" position <| .nil)
    fun (start, finish, ()) => ⟨start, finish⟩

/-- A location. -/
def location : Schema K Location :=
  record "Location" (required "offset" position <| required "range" range <| .nil)
    fun (offset, range, ()) => ⟨offset, range⟩

/-- A qualified name. -/
def qualifiedName : Schema K QualifiedName :=
  record "QualifiedName" (required "namespace" string <| required "name" string <| .nil)
    fun (scope, name, ()) => ⟨scope, name⟩

/-- A reference to a user-defined type. -/
def userDefinedType : Schema K UserDefinedType :=
  record "UserDefinedType"
    (required "namespace" string <| required "name" string <| optional "range" range <| .nil)
    fun (scope, name, range, ()) => ⟨scope, name, range⟩

/-- A type parameter. -/
def typeParameter : Schema K TypeParameter :=
  record "TypeParameter"
    (required "origin" qualifiedName <| required "typeName" string <|
      optional "range" range <| .nil)
    fun (origin, typeName, range, ()) => ⟨origin, typeName, range⟩

end WireTree.Format
