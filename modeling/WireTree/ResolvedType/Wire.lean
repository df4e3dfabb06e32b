import WireTree.Characteristics.Decode
import WireTree.ResolvedType.Basic

/-!
# Types on the wire
-/

namespace WireTree.Wire

/-- The kinds of types. -/
inductive TypeTag where
  | unitType
  | int
  | bigInt
  | double
  | bool
  | string
  | qubit
  | result
  | pauli
  | range
  | arrayType
  | tupleType
  | userDefinedType
  | typeParameter
  | operation
  | function
  | missingType
  | invalidType
deriving DecidableEq

instance : UnionTag TypeTag where
  all := [.unitType, .int, .bigInt, .double, .bool, .string, .qubit, .result, .pauli, .range,
    .arrayType, .tupleType, .userDefinedType, .typeParameter, .operation, .function,
    .missingType, .invalidType]
  name
    | .unitType => "UnitType"
    | .int => "Int"
    | .bigInt => "BigInt"
    | .double => "Double"
    | .bool => "Bool"
    | .string => "String"
    | .qubit => "Qubit"
    | .result => "Result"
    | .pauli => "Pauli"
    | .range => "Range"
    | .arrayType => "ArrayType"
    | .tupleType => "TupleType"
    | .userDefinedType => "UserDefinedType"
    | .typeParameter => "TypeParameter"
    | .operation => "Operation"
    | .function => "Function"
    | .missingType => "MissingType"
    | .invalidType => "InvalidType"
  union := "TypeKind"

/-- The payload of an operation type. -/
structure OperationType (T C : Type) where
  domain : T
  codomain : T
  characteristics : C
deriving DecidableEq

/-- The payload of a function type. -/
structure FunctionType (T : Type) where
  domain : T
  codomain : T
deriving DecidableEq

/-- A type union, over nested types `T`, user-defined types `U`, type parameters `P` and what
is known of operations `C`. -/
structure TypeSlots (T U P C : Type) where
  kind : Discriminator TypeTag
  arrayType : Option T
  tupleType : Option (List T)
  userDefinedType : Option U
  typeParameter : Option P
  operation : Option (OperationType T C)
  function : Option (FunctionType T)
deriving DecidableEq

namespace TypeSlots

variable {T T' U P C : Type}

/-- The types in all slots, selected or not. -/
def types (slots : TypeSlots T U P C) : List T :=
  slots.arrayType.toList ++ slots.tupleType.getD [] ++
    (slots.operation.elim [] fun o => [o.domain, o.codomain]) ++
    (slots.function.elim [] fun f => [f.domain, f.codomain])

/-- Replace each type. -/
def map (f : T → T') (slots : TypeSlots T U P C) : TypeSlots T' U P C :=
  { kind := slots.kind
    arrayType := slots.arrayType.map f
    tupleType := slots.tupleType.map (List.map f)
    userDefinedType := slots.userDefinedType
    typeParameter := slots.typeParameter
    operation := slots.operation.map fun o => ⟨f o.domain, f o.codomain, o.characteristics⟩
    function := slots.function.map fun g => ⟨f g.domain, f g.codomain⟩ }

/-- The slots without the types in them. -/
def shape (slots : TypeSlots T U P C) : TypeSlots Unit U P C :=
  slots.map fun _ => ()

theorem map_map {R : Type} (f : T → T') (g : T' → R) (slots : TypeSlots T U P C) :
    (slots.map f).map g = slots.map fun t => g (f t) := by
  simp only [map, Option.map_map, List.map_map, Function.comp_def]

theorem shape_map (f : T → T') (slots : TypeSlots T U P C) :
    (slots.map f).shape = slots.shape :=
  slots.map_map f fun _ => ()

theorem types_map (f : T → T') (slots : TypeSlots T U P C) :
    (slots.map f).types = slots.types.map f := by
  obtain ⟨kind, array, tuple, reference, parameter, operation, function⟩ := slots
  cases array <;> cases tuple <;> cases operation <;> cases function <;> simp [types, map]

theorem eq_of_shape {a b : TypeSlots T U P C} (sameShape : a.shape = b.shape)
    (sameTypes : a.types = b.types) : a = b := by
  obtain ⟨kindA, arrayA, tupleA, referenceA, parameterA, operationA, functionA⟩ := a
  obtain ⟨kindB, arrayB, tupleB, referenceB, parameterB, operationB, functionB⟩ := b
  simp only [shape, map, mk.injEq] at sameShape
  obtain ⟨rfl, array, tuple, rfl, rfl, operation, function⟩ := sameShape
  simp only [types] at sameTypes
  obtain ⟨sameTypes, sameFunction⟩ := List.append_inj' sameTypes (by
    cases functionA <;> cases functionB <;> simp_all)
  obtain ⟨sameTypes, sameOperation⟩ := List.append_inj' sameTypes (by
    cases operationA <;> cases operationB <;> simp_all)
  obtain ⟨sameArray, sameTuple⟩ := List.append_inj sameTypes (by
    cases arrayA <;> cases arrayB <;> simp_all)
  have equalArray : arrayA = arrayB := by
    cases arrayA <;> cases arrayB <;> simp_all
  have equalTuple : tupleA = tupleB := by
    cases tupleA <;> cases tupleB <;> simp_all
  have equalOperation : operationA = operationB := by
    cases operationA with
    | none => cases operationB <;> simp_all
    | some o =>
      cases operationB with
      | none => simp_all
      | some o' =>
        cases o
        cases o'
        simp_all
  have equalFunction : functionA = functionB := by
    cases functionA with
    | none => cases functionB <;> simp_all
    | some g =>
      cases functionB with
      | none => simp_all
      | some g' =>
        cases g
        cases g'
        simp_all
  rw [equalArray, equalTuple, equalOperation, equalFunction]

end TypeSlots

/-- What is known of a callable. -/
structure CallableInformation where
  characteristics : ResolvedCharacteristics
  inferredInformation : InferredCallableInformation
deriving DecidableEq

/-- A resolved type. -/
inductive ResolvedType where
  | mk (typeKind : TypeSlots ResolvedType UserDefinedType TypeParameter CallableInformation)

namespace ResolvedType

/-- The slots of a resolved type, over the types in it. -/
abbrev Slots (X : Type) := TypeSlots X UserDefinedType TypeParameter CallableInformation

/-- The outermost slots. -/
def typeKind : ResolvedType → Slots ResolvedType
  | mk slots => slots

mutual

/-- Evaluate a type from the types in it up, those in slots that are not selected included. -/
def fold {X : Type} (evaluate : Slots X → X) : ResolvedType → X
  | mk ⟨kind, arrayType, tupleType, userDefinedType, typeParameter, operation, function⟩ =>
    evaluate
      { kind, userDefinedType, typeParameter
        arrayType := match arrayType with
          | none => none
          | some item => some (item.fold evaluate)
        tupleType := match tupleType with
          | none => none
          | some items => some (foldAll evaluate items)
        operation := match operation with
          | none => none
          | some ⟨domain, codomain, characteristics⟩ =>
            some ⟨domain.fold evaluate, codomain.fold evaluate, characteristics⟩
        function := match function with
          | none => none
          | some ⟨domain, codomain⟩ => some ⟨domain.fold evaluate, codomain.fold evaluate⟩ }

/-- Evaluate each type in a list. -/
def foldAll {X : Type} (evaluate : Slots X → X) : List ResolvedType → List X
  | [] => []
  | t :: ts => t.fold evaluate :: foldAll evaluate ts

end

theorem foldAll_eq_map {X : Type} (evaluate : Slots X → X) (ts : List ResolvedType) :
    foldAll evaluate ts = ts.map (fold evaluate) := by
  induction ts with
  | nil => rfl
  | cons t ts ih => rw [foldAll, ih, List.map_cons]

theorem fold_mk {X : Type} (evaluate : Slots X → X) (slots : Slots ResolvedType) :
    fold evaluate (mk slots) = evaluate (slots.map (fold evaluate)) := by
  obtain ⟨kind, array, tuple, reference, parameter, operation, function⟩ := slots
  cases array <;> cases tuple <;> cases operation <;> cases function <;>
    simp [fold, TypeSlots.map, foldAll_eq_map]

theorem sizeOf_lt_of_mem {slots : Slots ResolvedType} {t : ResolvedType}
    (member : t ∈ slots.types) : sizeOf t < sizeOf (mk slots) := by
  obtain ⟨kind, array, tuple, reference, parameter, operation, function⟩ := slots
  simp only [TypeSlots.types, List.mem_append, Option.mem_toList] at member
  rcases member with ((member | member) | member) | member
  · cases array <;> simp_all
    omega
  · cases tuple with
    | none => simp at member
    | some items =>
      have : sizeOf t < sizeOf items := List.sizeOf_lt_of_mem (by simpa using member)
      simp
      omega
  · cases operation with
    | none => simp at member
    | some o =>
      obtain ⟨domain, codomain, characteristics⟩ := o
      simp at member
      rcases member with rfl | rfl <;> simp <;> omega
  · cases function with
    | none => simp at member
    | some g =>
      obtain ⟨domain, codomain⟩ := g
      simp at member
      rcases member with rfl | rfl <;> simp <;> omega

/-- What holds of a type whenever it holds of all the types in it holds of every type. -/
theorem induct {P : ResolvedType → Prop}
    (step : ∀ slots, (∀ t ∈ slots.types, P t) → P (mk slots)) (t : ResolvedType) : P t :=
  match t with
  | mk slots => step slots fun inner member =>
    have := sizeOf_lt_of_mem member
    induct step inner
termination_by sizeOf t
decreasing_by assumption

/-- Whether two types are the same, all slots included. -/
def same : ResolvedType → ResolvedType → Bool :=
  fold fun slots other =>
    decide (slots.shape = other.typeKind.shape) && allApplied slots.types other.typeKind.types

theorem same_mk (slots : Slots ResolvedType) (other : ResolvedType) :
    same (mk slots) other = (decide (slots.shape = other.typeKind.shape) &&
      allApplied (slots.types.map same) other.typeKind.types) := by
  rw [same, fold_mk, TypeSlots.shape_map, TypeSlots.types_map]

theorem same_iff (a b : ResolvedType) : same a b = true ↔ a = b := by
  induction a using induct generalizing b with
  | step slots ih =>
    obtain ⟨other⟩ := b
    have types := allApplied_map_iff same slots.types other.types ih
    rw [same_mk, Bool.and_eq_true, decide_eq_true_eq, ResolvedType.typeKind, types, mk.injEq]
    constructor
    · exact fun parts => TypeSlots.eq_of_shape parts.1 parts.2
    · rintro rfl
      exact ⟨rfl, rfl⟩

instance : DecidableEq ResolvedType := fun a b =>
  decidable_of_iff (same a b = true) (same_iff a b)

end ResolvedType

end WireTree.Wire
