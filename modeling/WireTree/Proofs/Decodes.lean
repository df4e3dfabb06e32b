import WireTree.Proofs.Selection.Characteristics
import WireTree.Proofs.Selection.Expression
import WireTree.Proofs.Selection.ResolvedType
import WireTree.Proofs.Selection.Simple
import WireTree.Proofs.Trace

/-!
# What a tree says of its wire record

A record decodes to a tree exactly if its parts decode to the parts of the tree, what is not decoded
is the same in both, and the parts that the wire does not hold are pending in the tree; there is one
statement of this for each record (`decode_eq_ok_iff`).
-/

namespace WireTree.Wire

/-! ## Characteristics, types and expressions -/

theorem ResolvedCharacteristics.decode_mk_eq_ok_iff
    {slots : CharacteristicsSlots ResolvedCharacteristics}
    {tree : WireTree.ResolvedCharacteristics} :
    decode (mk slots) = .ok tree ↔ slots.decodeWith decode = .ok tree.kind := by
  obtain ⟨kind⟩ := tree
  rw [decode_mk, bind_eq_ok_iff]
  constructor
  · rintro ⟨kind', decoded, same⟩
    cases same
    exact decoded
  · intro decoded
    exact ⟨kind, decoded, rfl⟩

theorem CallableInformation.decode_eq_ok_iff {information : CallableInformation}
    {tree : WireTree.CallableInformation} :
    information.decode = .ok tree ↔
      information.characteristics.decode = .ok tree.characteristics ∧
        information.inferredInformation = tree.inferredInformation := by
  unfold decode
  rw [bind_eq_ok_iff]
  constructor
  · rintro ⟨c, decoded, same⟩
    cases same
    exact ⟨decoded, rfl⟩
  · rintro ⟨decoded, same⟩
    exact ⟨_, decoded, by rw [same]; rfl⟩

theorem ResolvedType.decode_mk_eq_ok_iff {slots : Slots ResolvedType}
    {tree : WireTree.ResolvedType} :
    decode (mk slots) = .ok tree ↔
      slots.decodeWith decode pure pure CallableInformation.decode = .ok tree.kind := by
  obtain ⟨kind⟩ := tree
  rw [decode_mk, bind_eq_ok_iff]
  constructor
  · rintro ⟨kind', decoded, same⟩
    cases same
    exact decoded
  · intro decoded
    exact ⟨kind, decoded, rfl⟩

/-- A type argument and the tree that it is decoded to. -/
structure TypeArgumentDecodes (argument : TypeArgument ResolvedType)
    (tree : TypeArgument WireTree.ResolvedType) : Prop where
  callable : argument.callable = tree.callable
  name : argument.name = tree.name
  type : argument.type.decode = .ok tree.type

theorem decodeTypeArgument_eq_ok_iff {argument : TypeArgument ResolvedType}
    {tree : TypeArgument WireTree.ResolvedType} :
    decodeTypeArgument argument = .ok tree ↔ TypeArgumentDecodes argument tree := by
  unfold decodeTypeArgument
  rw [bind_eq_ok_iff]
  constructor
  · rintro ⟨type, decoded, same⟩
    cases same
    exact ⟨rfl, rfl, decoded⟩
  · rintro ⟨callable, name, decoded⟩
    exact ⟨_, decoded, by rw [callable, name]; rfl⟩

namespace TypedExpression

/-- A node of an expression and the tree that it is decoded to. -/
structure NodeDecodes (node : Node TypedExpression) (tree : WireTree.TypedExpression) : Prop where
  expression : node.expression.decodeWith decode Identifier.decode ResolvedType.decode =
    .ok tree.node.expression
  typeArguments : node.typeArguments.mapM decodeTypeArgument = .ok tree.node.typeArguments
  resolvedType : node.resolvedType.decode = .ok tree.node.resolvedType
  inferredInformation : node.inferredInformation = tree.node.inferredInformation
  range : node.range = tree.node.range

theorem decode_mk_eq_ok_iff {node : Node TypedExpression} {tree : WireTree.TypedExpression} :
    decode (mk node) = .ok tree ↔ NodeDecodes node tree := by
  obtain ⟨_, _, _, _, _⟩ := tree
  rw [decode_mk, bind_eq_ok_iff]
  constructor
  · rintro ⟨kind, expression, rest⟩
    obtain ⟨arguments, typeArguments, rest⟩ := bind_eq_ok_iff.mp rest
    obtain ⟨type, resolvedType, same⟩ := bind_eq_ok_iff.mp rest
    cases same
    exact ⟨expression, typeArguments, resolvedType, rfl, rfl⟩
  · intro decodes
    refine ⟨_, decodes.expression, bind_eq_ok_iff.mpr ⟨_, decodes.typeArguments, ?_⟩⟩
    refine bind_eq_ok_iff.mpr ⟨_, decodes.resolvedType, ?_⟩
    rw [decodes.inferredInformation, decodes.range]
    rfl

end TypedExpression

/-! ## Declarations -/

namespace DeclarationAttribute

/-- An attribute and the tree that it is decoded to. -/
structure Decodes (declared : DeclarationAttribute) (tree : WireTree.DeclarationAttribute) :
    Prop where
  typeId : declared.typeId = tree.typeId
  typeIdRange : declared.typeIdRange = tree.typeIdRange
  argument : declared.argument.decode = .ok tree.argument
  offset : declared.offset = tree.offset
  comments : declared.comments = tree.comments

theorem decode_eq_ok_iff {declared : DeclarationAttribute}
    {tree : WireTree.DeclarationAttribute} :
    declared.decode = .ok tree ↔ declared.Decodes tree := by
  unfold decode
  rw [bind_eq_ok_iff]
  constructor
  · rintro ⟨argument, decoded, same⟩
    cases same
    exact ⟨rfl, rfl, decoded, rfl, rfl⟩
  · rintro ⟨typeId, typeIdRange, argument, offset, comments⟩
    exact ⟨_, argument, by rw [typeId, typeIdRange, offset, comments]; rfl⟩

end DeclarationAttribute

namespace ResolvedSignature

/-- A signature and the tree that it is decoded to. -/
structure Decodes (signature : ResolvedSignature) (tree : WireTree.ResolvedSignature) :
    Prop where
  typeParameters : signature.typeParameters.mapM LocalSymbol.decode = .ok tree.typeParameters
  argumentType : signature.argumentType.decode = .ok tree.argumentType
  returnType : signature.returnType.decode = .ok tree.returnType
  information : signature.information.decode = .ok tree.information

theorem decode_eq_ok_iff {signature : ResolvedSignature} {tree : WireTree.ResolvedSignature} :
    signature.decode = .ok tree ↔ signature.Decodes tree := by
  unfold decode
  rw [bind_eq_ok_iff]
  constructor
  · rintro ⟨symbols, typeParameters, rest⟩
    obtain ⟨argument, argumentType, rest⟩ := bind_eq_ok_iff.mp rest
    obtain ⟨result, returnType, rest⟩ := bind_eq_ok_iff.mp rest
    obtain ⟨known, information, same⟩ := bind_eq_ok_iff.mp rest
    cases same
    exact ⟨typeParameters, argumentType, returnType, information⟩
  · intro decodes
    refine ⟨_, decodes.typeParameters, bind_eq_ok_iff.mpr ⟨_, decodes.argumentType, ?_⟩⟩
    refine bind_eq_ok_iff.mpr ⟨_, decodes.returnType, ?_⟩
    exact bind_eq_ok_iff.mpr ⟨_, decodes.information, rfl⟩

end ResolvedSignature

theorem decodeTypeArguments_eq_ok_iff {types : Option (List ResolvedType)}
    {trees : Option (List WireTree.ResolvedType)} :
    decodeTypeArguments types = .ok trees ↔
      Option.Rel (List.Forall₂ fun t tree => t.decode = .ok tree) types trees := by
  cases types with
  | none => cases trees <;> simp [decodeTypeArguments]
  | some types =>
    unfold decodeTypeArguments
    rw [bind_eq_ok_iff]
    constructor
    · rintro ⟨decoded, each, same⟩
      cases same
      exact .some (mapM_eq_ok_iff.mp each)
    · intro related
      cases related with
      | some each => exact ⟨_, mapM_eq_ok_iff.mpr each, rfl⟩

namespace Specialization

/-- A specialization and the tree that it is decoded to. -/
structure Decodes (specialization : Specialization) (tree : WireTree.Specialization) :
    Prop where
  kind : specialization.kind = tree.kind
  parent : specialization.parent = tree.parent
  attributes : specialization.attributes.mapM DeclarationAttribute.decode = .ok tree.attributes
  source : specialization.source = tree.source
  location : specialization.location = tree.location
  typeArguments : decodeTypeArguments specialization.typeArguments = .ok tree.typeArguments
  signature : tree.signature = .pending
  implementation : tree.implementation = .pending
  documentation : tree.documentation = .pending
  comments : tree.comments = .pending

theorem decode_eq_ok_iff {specialization : Specialization} {tree : WireTree.Specialization} :
    specialization.decode = .ok tree ↔ specialization.Decodes tree := by
  obtain ⟨_, _, _, _, _, _, _, _, _, _⟩ := tree
  unfold decode
  rw [bind_eq_ok_iff]
  constructor
  · rintro ⟨declared, attributes, rest⟩
    obtain ⟨types, typeArguments, same⟩ := bind_eq_ok_iff.mp rest
    cases same
    exact ⟨rfl, rfl, attributes, rfl, rfl, typeArguments, rfl, rfl, rfl, rfl⟩
  · rintro ⟨kind, parent, attributes, source, location, typeArguments, signature,
      implementation, documentation, comments⟩
    refine ⟨_, attributes, bind_eq_ok_iff.mpr ⟨_, typeArguments, ?_⟩⟩
    cases signature
    cases implementation
    cases documentation
    cases comments
    rw [kind, parent, source, location]
    rfl

end Specialization

namespace Callable

/-- A callable and the tree that it is decoded to. -/
structure Decodes (callable : Callable) (tree : WireTree.Callable) : Prop where
  kind : callable.kind = tree.kind
  fullName : callable.fullName = tree.fullName
  attributes : callable.attributes.mapM DeclarationAttribute.decode = .ok tree.attributes
  modifiers : callable.modifiers = tree.modifiers
  source : callable.source = tree.source
  location : callable.location = tree.location
  signature : callable.signature.decode = .ok tree.signature
  argumentTuple : tree.argumentTuple = .pending
  specializations : callable.specializations.mapM Specialization.decode = .ok tree.specializations
  documentation : callable.documentation = tree.documentation
  comments : callable.comments = tree.comments

theorem decode_eq_ok_iff {callable : Callable} {tree : WireTree.Callable} :
    callable.decode = .ok tree ↔ callable.Decodes tree := by
  obtain ⟨_, _, _, _, _, _, _, _, _, _, _⟩ := tree
  unfold decode
  rw [bind_eq_ok_iff]
  constructor
  · rintro ⟨declared, attributes, rest⟩
    obtain ⟨resolved, signature, rest⟩ := bind_eq_ok_iff.mp rest
    obtain ⟨bodies, specializations, same⟩ := bind_eq_ok_iff.mp rest
    cases same
    exact ⟨rfl, rfl, attributes, rfl, rfl, rfl, signature, rfl, specializations, rfl, rfl⟩
  · rintro ⟨kind, fullName, attributes, modifiers, source, location, signature, argumentTuple,
      specializations, documentation, comments⟩
    refine ⟨_, attributes, bind_eq_ok_iff.mpr ⟨_, signature, ?_⟩⟩
    refine bind_eq_ok_iff.mpr ⟨_, specializations, ?_⟩
    cases argumentTuple
    rw [kind, fullName, modifiers, source, location, documentation, comments]
    rfl

end Callable

namespace CustomType

/-- A user-defined type and the tree that it is decoded to. -/
structure Decodes (customType : CustomType) (tree : WireTree.CustomType) : Prop where
  fullName : customType.fullName = tree.fullName
  attributes : customType.attributes.mapM DeclarationAttribute.decode = .ok tree.attributes
  modifiers : customType.modifiers = tree.modifiers
  source : customType.source = tree.source
  location : customType.location = tree.location
  type : customType.type.decode = .ok tree.type
  typeItems : tree.typeItems = .pending
  documentation : customType.documentation = tree.documentation
  comments : customType.comments = tree.comments

theorem decode_eq_ok_iff {customType : CustomType} {tree : WireTree.CustomType} :
    customType.decode = .ok tree ↔ customType.Decodes tree := by
  obtain ⟨_, _, _, _, _, _, _, _, _⟩ := tree
  unfold decode
  rw [bind_eq_ok_iff]
  constructor
  · rintro ⟨declared, attributes, rest⟩
    obtain ⟨underlying, type, same⟩ := bind_eq_ok_iff.mp rest
    cases same
    exact ⟨rfl, attributes, rfl, rfl, rfl, type, rfl, rfl, rfl⟩
  · rintro ⟨fullName, attributes, modifiers, source, location, type, typeItems, documentation,
      comments⟩
    refine ⟨_, attributes, bind_eq_ok_iff.mpr ⟨_, type, ?_⟩⟩
    cases typeItems
    rw [fullName, modifiers, source, location, documentation, comments]
    rfl

end CustomType

namespace Declared

theorem decode_eq_callable_iff {declared : Declared} {tree : WireTree.Callable} :
    declared.decode = .ok (.callable tree) ↔
      ∃ c, declared = .callable c ∧ c.decode = .ok tree := by
  cases declared with
  | callable c =>
    rw [decode, bind_eq_ok_iff]
    constructor
    · rintro ⟨decoded, outcome, same⟩
      cases same
      exact ⟨c, rfl, outcome⟩
    · rintro ⟨_, same, outcome⟩
      cases same
      exact ⟨tree, outcome, rfl⟩
  | customType t =>
    refine iff_of_false ?_ nofun
    intro decoded
    obtain ⟨_, _, different⟩ := bind_eq_ok_iff.mp decoded
    cases different

theorem decode_eq_customType_iff {declared : Declared} {tree : WireTree.CustomType} :
    declared.decode = .ok (.customType tree) ↔
      ∃ t, declared = .customType t ∧ t.decode = .ok tree := by
  cases declared with
  | customType t =>
    rw [decode, bind_eq_ok_iff]
    constructor
    · rintro ⟨decoded, outcome, same⟩
      cases same
      exact ⟨t, rfl, outcome⟩
    · rintro ⟨_, same, outcome⟩
      cases same
      exact ⟨tree, outcome, rfl⟩
  | callable c =>
    refine iff_of_false ?_ nofun
    intro decoded
    obtain ⟨_, _, different⟩ := bind_eq_ok_iff.mp decoded
    cases different

end Declared

/-! ## Compilations -/

namespace Namespace

/-- A namespace and the tree that it is decoded to. -/
structure Decodes (ns : Namespace) (tree : WireTree.Namespace) : Prop where
  name : ns.name = tree.name
  elements : ns.elements.mapM NamespaceElement.decode = .ok tree.elements
  documentation : decodeDocumentation ns.documentation = tree.documentation

theorem decode_eq_ok_iff {ns : Namespace} {tree : WireTree.Namespace} :
    ns.decode = .ok tree ↔ ns.Decodes tree := by
  rw [decode_eq, bind_eq_ok_iff]
  constructor
  · rintro ⟨declared, elements, same⟩
    cases same
    exact ⟨rfl, elements, rfl⟩
  · rintro ⟨name, elements, documentation⟩
    exact ⟨_, elements, by rw [name, documentation]; rfl⟩

end Namespace

theorem Compilation.decode_eq_ok_iff {compilation : Compilation} {tree : WireTree.Compilation} :
    compilation.decode = .ok tree ↔
      compilation.namespaces.mapM Namespace.decode = .ok tree.namespaces ∧
        tree.entryPoints = [] := by
  obtain ⟨trees, entryPoints⟩ := tree
  rw [decode, decodeWith_eq, bind_eq_ok_iff]
  constructor
  · rintro ⟨decoded, namespaces, same⟩
    cases same
    exact ⟨namespaces, rfl⟩
  · rintro ⟨namespaces, rfl⟩
    exact ⟨_, namespaces, rfl⟩

end WireTree.Wire
