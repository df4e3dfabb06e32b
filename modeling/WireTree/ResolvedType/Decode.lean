import WireTree.ResolvedType.Wire

/-!
# From types on the wire to types in trees
-/

namespace WireTree.Wire

namespace TypeSlots

/-- The type whose parts are those of the selected payload. -/
def select {T U P C : Type} (slots : TypeSlots T U P C) : Decoded (TypeKind T U P C) :=
  match slots.kind with
  | .unrecognized _ => .error (UnionTag.unsupported slots.kind)
  | .known kind =>
    match kind with
    | .unitType => .ok .unitType
    | .int => .ok .int
    | .bigInt => .ok .bigInt
    | .double => .ok .double
    | .bool => .ok .bool
    | .string => .ok .string
    | .qubit => .ok .qubit
    | .result => .ok .result
    | .pauli => .ok .pauli
    | .range => .ok .range
    | .arrayType => (UnionTag.payload kind "arrayType" slots.arrayType).map .arrayType
    | .tupleType => (UnionTag.payload kind "tupleType" slots.tupleType).map .tupleType
    | .userDefinedType =>
      (UnionTag.payload kind "userDefinedType" slots.userDefinedType).map .userDefinedType
    | .typeParameter =>
      (UnionTag.payload kind "typeParameter" slots.typeParameter).map .typeParameter
    | .operation =>
      (UnionTag.payload kind "operation" slots.operation).map fun operation =>
        .operation operation.domain operation.codomain operation.characteristics
    | .function =>
      (UnionTag.payload kind "function" slots.function).map fun function =>
        .function function.domain function.codomain
    | .missingType => .ok .missingType
    | .invalidType => .ok .invalidType

/-- Decode a type union, given how its parts are decoded. -/
def decodeWith {m : Type → Type} [Monad m] [MonadExcept Fault m] {T T' U U' P P' C C' : Type}
    (type : T → m T') (reference : U → m U') (parameter : P → m P') (characteristics : C → m C')
    (slots : TypeSlots T U P C) : m (TypeKind T' U' P' C') :=
  match slots.select with
  | .error fault => throw fault
  | .ok kind => kind.traverse type reference parameter characteristics

end TypeSlots

/-- The tree of what is known of a callable. -/
def CallableInformation.decode (information : CallableInformation) :
    Decoded WireTree.CallableInformation := do
  return ⟨← information.characteristics.decode, information.inferredInformation⟩

/-- The tree of a type. -/
def ResolvedType.decode : ResolvedType → Decoded WireTree.ResolvedType :=
  fold fun slots => do
    return .mk (← slots.decodeWith id pure pure CallableInformation.decode)

end WireTree.Wire
