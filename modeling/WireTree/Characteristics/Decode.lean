import WireTree.Characteristics.Wire

/-!
# From characteristics on the wire to characteristics in trees

Decoding a union has two steps: to select the payload that the kind names, which finds the union's
own fault, and to decode what the payload holds, from left to right.
-/

namespace WireTree.Wire

namespace CharacteristicsSlots

/-- The expression whose operands are those of the selected payload. -/
def select {C : Type} (slots : CharacteristicsSlots C) : Decoded (CharacteristicsKind C) :=
  match slots.kind with
  | .unrecognized _ => .error (UnionTag.unsupported slots.kind)
  | .known kind =>
    match kind with
    | .emptySet => .ok .emptySet
    | .simpleSet => (UnionTag.payload kind "simpleSet" slots.simpleSet).map .simpleSet
    | .union =>
      (UnionTag.payload kind "setOperation" slots.setOperation).map fun operation =>
        .union operation.left operation.right
    | .intersection =>
      (UnionTag.payload kind "setOperation" slots.setOperation).map fun operation =>
        .intersection operation.left operation.right
    | .invalidSetExpr => .ok .invalidSetExpr

/-- Decode a characteristics union, given how its operands are decoded. -/
def decodeWith {m : Type → Type} [Monad m] [MonadExcept Fault m] {C D : Type}
    (characteristics : C → m D) (slots : CharacteristicsSlots C) :
    m (CharacteristicsKind D) :=
  match slots.select with
  | .error fault => throw fault
  | .ok kind => kind.traverse characteristics

end CharacteristicsSlots

/-- The tree of a characteristics expression. -/
def ResolvedCharacteristics.decode :
    ResolvedCharacteristics → Decoded WireTree.ResolvedCharacteristics :=
  fold fun slots => do return .mk (← slots.decodeWith id)

end WireTree.Wire
