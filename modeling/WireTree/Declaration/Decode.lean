import WireTree.Declaration.Wire
import WireTree.Expression.Decode

/-!
# From declarations on the wire to declarations in trees

What the wire records do not hold is left pending.
-/

namespace WireTree.Wire

namespace LocalSymbol

/-- The tree of a local symbol. -/
def decode (symbol : LocalSymbol) : Decoded WireTree.LocalSymbol :=
  match symbol.kind with
  | .unrecognized _ => .error (UnionTag.unsupported symbol.kind)
  | .known kind =>
    match kind with
    | .validName => (UnionTag.payload kind "name" symbol.name).map .validName
    | .invalidName => .ok .invalidName

end LocalSymbol

namespace DeclarationAttribute

/-- The tree of an attribute. -/
def decode (declared : DeclarationAttribute) : Decoded WireTree.DeclarationAttribute := do
  return {
    typeId := declared.typeId
    typeIdRange := declared.typeIdRange
    argument := ← declared.argument.decode
    offset := declared.offset
    comments := declared.comments }

end DeclarationAttribute

namespace ResolvedSignature

/-- The tree of a signature. -/
def decode (signature : ResolvedSignature) : Decoded WireTree.ResolvedSignature := do
  return {
    typeParameters := ← signature.typeParameters.mapM LocalSymbol.decode
    argumentType := ← signature.argumentType.decode
    returnType := ← signature.returnType.decode
    information := ← signature.information.decode }

end ResolvedSignature

/-- The trees of type arguments, if any were given. -/
def decodeTypeArguments :
    Option (List ResolvedType) → Decoded (Option (List WireTree.ResolvedType))
  | none => .ok none
  | some types => do return some (← types.mapM ResolvedType.decode)

namespace Specialization

/-- The tree of a specialization. -/
def decode (specialization : Specialization) : Decoded WireTree.Specialization := do
  return {
    kind := specialization.kind
    parent := specialization.parent
    attributes := ← specialization.attributes.mapM DeclarationAttribute.decode
    source := specialization.source
    location := specialization.location
    typeArguments := ← decodeTypeArguments specialization.typeArguments
    signature := .pending
    implementation := .pending
    documentation := .pending
    comments := .pending }

end Specialization

namespace Callable

/-- The tree of a callable. -/
def decode (callable : Callable) : Decoded WireTree.Callable := do
  return {
    kind := callable.kind
    fullName := callable.fullName
    attributes := ← callable.attributes.mapM DeclarationAttribute.decode
    modifiers := callable.modifiers
    source := callable.source
    location := callable.location
    signature := ← callable.signature.decode
    argumentTuple := .pending
    specializations := ← callable.specializations.mapM Specialization.decode
    documentation := callable.documentation
    comments := callable.comments }

end Callable

namespace CustomType

/-- The tree of a user-defined type. -/
def decode (customType : CustomType) : Decoded WireTree.CustomType := do
  return {
    fullName := customType.fullName
    attributes := ← customType.attributes.mapM DeclarationAttribute.decode
    modifiers := customType.modifiers
    source := customType.source
    location := customType.location
    type := ← customType.type.decode
    typeItems := .pending
    documentation := customType.documentation
    comments := customType.comments }

end CustomType

namespace NamespaceElement

/-- The tree of a declaration. -/
def decode (element : NamespaceElement) : Decoded WireTree.NamespaceElement :=
  match element.kind with
  | .unrecognized _ => .error (UnionTag.unsupported element.kind)
  | .known kind =>
    match kind with
    | .callable => do
      let callable ← UnionTag.payload kind "callable" element.callable
      return .callable (← callable.decode)
    | .customType => do
      let customType ← UnionTag.payload kind "customType" element.customType
      return .customType (← customType.decode)

end NamespaceElement

end WireTree.Wire
