import WireTree.Characteristics.Basic
import WireTree.Place

/-!
# Types

The kind of a type is a functor of the types in it, of references to user-defined types, of type
parameters and of what is known of an operation; a resolved type is the least fixed point in the
first of these.
Main statements: a fold meets its equation (`fold_mk`), there is induction over the types in a type
(`induct`), and equality is decidable (`same_iff`).
-/

namespace WireTree

/-- The kind of a type, over nested types `T`, user-defined types `U`, type parameters `P`
and what is known of operations `C`. -/
inductive TypeKind (T U P C : Type) where
  | unitType
  | int
  | bigInt
  | double
  | bool
  | string
  | qubit
  | result
  | pauli
  | range
  | arrayType (item : T)
  | tupleType (items : List T)
  | userDefinedType (reference : U)
  | typeParameter (parameter : P)
  | operation (domain codomain : T) (characteristics : C)
  | function (domain codomain : T)
  /-- a type that was not written -/
  | missingType
  /-- a type that could not be resolved -/
  | invalidType
deriving DecidableEq

namespace TypeKind

variable {T T' U U' P P' C C' : Type}

/-- The types in a type, in the order in which they are written. -/
def types : TypeKind T U P C → List T
  | arrayType item => [item]
  | tupleType items => items
  | operation domain codomain _ => [domain, codomain]
  | function domain codomain => [domain, codomain]
  | _ => []

/-- Replace each nested type. -/
def map (f : T → T') : TypeKind T U P C → TypeKind T' U P C
  | unitType => unitType
  | int => int
  | bigInt => bigInt
  | double => double
  | bool => bool
  | string => string
  | qubit => qubit
  | result => result
  | pauli => pauli
  | range => range
  | arrayType item => arrayType (f item)
  | tupleType items => tupleType (items.map f)
  | userDefinedType reference => userDefinedType reference
  | typeParameter parameter => typeParameter parameter
  | operation domain codomain characteristics =>
    operation (f domain) (f codomain) characteristics
  | function domain codomain => function (f domain) (f codomain)
  | missingType => missingType
  | invalidType => invalidType

/-- The kind without the types in it. -/
def shape (kind : TypeKind T U P C) : TypeKind Unit U P C :=
  kind.map fun _ => ()

theorem eq_of_shape {a b : TypeKind T U P C} (sameShape : a.shape = b.shape)
    (sameTypes : a.types = b.types) : a = b := by
  cases a <;> cases b <;> simp_all [shape, map, types]

theorem map_map {R : Type} (f : T → T') (g : T' → R) (kind : TypeKind T U P C) :
    (kind.map f).map g = kind.map fun t => g (f t) := by
  cases kind <;> simp only [map, List.map_map, Function.comp_def]

theorem shape_map (f : T → T') (kind : TypeKind T U P C) : (kind.map f).shape = kind.shape :=
  kind.map_map f fun _ => ()

theorem types_map (f : T → T') (kind : TypeKind T U P C) :
    (kind.map f).types = kind.types.map f := by
  cases kind <;> rfl

/-- Replace each part by what an effectful function makes of it, in the order in which the
parts are written. -/
def traverse {m : Type → Type} [Monad m] (type : T → m T') (reference : U → m U')
    (parameter : P → m P') (characteristics : C → m C') :
    TypeKind T U P C → m (TypeKind T' U' P' C')
  | .unitType => pure .unitType
  | .int => pure .int
  | .bigInt => pure .bigInt
  | .double => pure .double
  | .bool => pure .bool
  | .string => pure .string
  | .qubit => pure .qubit
  | .result => pure .result
  | .pauli => pure .pauli
  | .range => pure .range
  | .arrayType item => do return .arrayType (← type item)
  | .tupleType items => do return .tupleType (← items.mapM type)
  | .userDefinedType r => do return .userDefinedType (← reference r)
  | .typeParameter p => do return .typeParameter (← parameter p)
  | .operation domain codomain c => do
    return .operation (← type domain) (← type codomain) (← characteristics c)
  | .function domain codomain => do return .function (← type domain) (← type codomain)
  | .missingType => pure .missingType
  | .invalidType => pure .invalidType

end TypeKind

/-- A reference to a user-defined type, and where it was written, if that is known. -/
structure UserDefinedType where
  scope : String
  name : String
  range : Option Range
deriving DecidableEq

/-- The qualified name of the type referred to. -/
def UserDefinedType.fullName (t : UserDefinedType) : QualifiedName :=
  ⟨t.scope, t.name⟩

/-- A type parameter of a callable, and where it was written, if that is known. -/
structure TypeParameter where
  origin : QualifiedName
  typeName : String
  range : Option Range
deriving DecidableEq

/-- What the compiler inferred of a callable. -/
structure InferredCallableInformation where
  isSelfAdjoint : Bool
  isIntrinsic : Bool
deriving DecidableEq

/-- Nothing was inferred. -/
def InferredCallableInformation.nothing : InferredCallableInformation := ⟨false, false⟩

/-- What is known of a callable. -/
structure CallableInformation where
  characteristics : ResolvedCharacteristics
  inferredInformation : InferredCallableInformation
deriving DecidableEq

/-- A resolved type. -/
inductive ResolvedType where
  | mk (kind : TypeKind ResolvedType UserDefinedType TypeParameter CallableInformation)

namespace ResolvedType

/-- The kind of a resolved type. -/
abbrev Kind (X : Type) := TypeKind X UserDefinedType TypeParameter CallableInformation

/-- The outermost kind. -/
def kind : ResolvedType → Kind ResolvedType
  | mk kind => kind

mutual

/-- Evaluate a type from the types in it up. -/
def fold {X : Type} (evaluate : Kind X → X) : ResolvedType → X
  | mk .unitType => evaluate .unitType
  | mk .int => evaluate .int
  | mk .bigInt => evaluate .bigInt
  | mk .double => evaluate .double
  | mk .bool => evaluate .bool
  | mk .string => evaluate .string
  | mk .qubit => evaluate .qubit
  | mk .result => evaluate .result
  | mk .pauli => evaluate .pauli
  | mk .range => evaluate .range
  | mk (.arrayType item) => evaluate (.arrayType (item.fold evaluate))
  | mk (.tupleType items) => evaluate (.tupleType (foldAll evaluate items))
  | mk (.userDefinedType reference) => evaluate (.userDefinedType reference)
  | mk (.typeParameter parameter) => evaluate (.typeParameter parameter)
  | mk (.operation domain codomain characteristics) =>
    evaluate (.operation (domain.fold evaluate) (codomain.fold evaluate) characteristics)
  | mk (.function domain codomain) =>
    evaluate (.function (domain.fold evaluate) (codomain.fold evaluate))
  | mk .missingType => evaluate .missingType
  | mk .invalidType => evaluate .invalidType

/-- Evaluate each type in a list. -/
def foldAll {X : Type} (evaluate : Kind X → X) : List ResolvedType → List X
  | [] => []
  | t :: ts => t.fold evaluate :: foldAll evaluate ts

end

theorem foldAll_eq_map {X : Type} (evaluate : Kind X → X) (ts : List ResolvedType) :
    foldAll evaluate ts = ts.map (fold evaluate) := by
  induction ts with
  | nil => rfl
  | cons t ts ih => rw [foldAll, ih, List.map_cons]

theorem fold_mk {X : Type} (evaluate : Kind X → X) (kind : Kind ResolvedType) :
    fold evaluate (mk kind) = evaluate (kind.map (fold evaluate)) := by
  cases kind
  case tupleType items => rw [fold, TypeKind.map, foldAll_eq_map]
  all_goals rfl

mutual

/-- What holds of a type whenever it holds of the types in it holds of every type. -/
theorem induct {P : ResolvedType → Prop} (step : ∀ kind, (∀ t ∈ kind.types, P t) → P (mk kind)) :
    ∀ t, P t
  | mk (.arrayType item) => step _ (by simpa [TypeKind.types] using induct step item)
  | mk (.tupleType items) => step _ (inductAll step items)
  | mk (.operation domain codomain _) => step _ (by
      simpa [TypeKind.types] using ⟨induct step domain, induct step codomain⟩)
  | mk (.function domain codomain) => step _ (by
      simpa [TypeKind.types] using ⟨induct step domain, induct step codomain⟩)
  | mk .unitType | mk .int | mk .bigInt | mk .double | mk .bool | mk .string | mk .qubit
  | mk .result | mk .pauli | mk .range | mk (.userDefinedType _) | mk (.typeParameter _)
  | mk .missingType | mk .invalidType => step _ (by simp [TypeKind.types])

/-- The induction over the types in a list. -/
theorem inductAll {P : ResolvedType → Prop}
    (step : ∀ kind, (∀ t ∈ kind.types, P t) → P (mk kind)) :
    ∀ ts : List ResolvedType, ∀ t ∈ ts, P t
  | [] => by simp
  | t :: ts => by simpa using ⟨induct step t, inductAll step ts⟩

end

/-- Whether two types are the same. -/
def same : ResolvedType → ResolvedType → Bool :=
  fold fun kind other =>
    decide (kind.shape = other.kind.shape) && allApplied kind.types other.kind.types

theorem same_mk (kind : Kind ResolvedType) (other : ResolvedType) :
    same (mk kind) other = (decide (kind.shape = other.kind.shape) &&
      allApplied (kind.types.map same) other.kind.types) := by
  rw [same, fold_mk, TypeKind.shape_map, TypeKind.types_map]

theorem same_iff (a b : ResolvedType) : same a b = true ↔ a = b := by
  induction a using induct generalizing b with
  | step kind ih =>
    obtain ⟨other⟩ := b
    have types := allApplied_map_iff same kind.types other.types ih
    rw [same_mk, Bool.and_eq_true, decide_eq_true_eq, ResolvedType.kind, types, mk.injEq]
    constructor
    · exact fun parts => TypeKind.eq_of_shape parts.1 parts.2
    · rintro rfl
      exact ⟨rfl, rfl⟩

instance : DecidableEq ResolvedType := fun a b =>
  decidable_of_iff (same a b = true) (same_iff a b)

end ResolvedType

end WireTree
