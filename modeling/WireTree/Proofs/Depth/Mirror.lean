import WireTree.Proofs.Depth.Chains
import WireTree.Proofs.Depth.Contents

/-!
# Every node of a tree mirrors one on the wire

What is nested in a node of a decoded tree is what a node nested in the one on the wire was decoded
to; decoding adds none, and passes over those in slots that are not selected.
Main statements: `NodeDecodes.exists_directly`, and one for each record that holds nodes.
-/

namespace WireTree

/-- A node of the wire. -/
abbrev Wire.Format.AnyNode := (node : Wire.Format.Node) × node.Carrier

/-- A node of a tree. -/
abbrev TreeFormat.AnyNode := (node : TreeFormat.Node) × node.Carrier

/-- A node on the wire and the node of a tree that it is decoded to. -/
inductive NodeDecodes : Wire.Format.AnyNode → TreeFormat.AnyNode → Prop where
  | characteristics {c : Wire.ResolvedCharacteristics} {tree : ResolvedCharacteristics}
      (decoded : c.decode = .ok tree) :
      NodeDecodes ⟨.characteristics, c⟩ ⟨.characteristics, tree⟩
  | resolvedType {t : Wire.ResolvedType} {tree : ResolvedType} (decoded : t.decode = .ok tree) :
      NodeDecodes ⟨.resolvedType, t⟩ ⟨.resolvedType, tree⟩
  | typedExpression {e : Wire.TypedExpression} {tree : TypedExpression}
      (decoded : e.decode = .ok tree) :
      NodeDecodes ⟨.typedExpression, e⟩ ⟨.typedExpression, tree⟩

/-- Each node in one part of a tree is what a node in one part of the wire was decoded to. -/
def Mirrors (wire : Wire.Format.AnyNode → Prop) (tree : TreeFormat.AnyNode → Prop) : Prop :=
  ∀ y, tree y → ∃ x, wire x ∧ NodeDecodes x y

namespace Mirrors

variable {wire wire' : Wire.Format.AnyNode → Prop} {tree tree' : TreeFormat.AnyNode → Prop}
  {α β : Type}

theorem or (first : Mirrors wire tree) (second : Mirrors wire' tree') :
    Mirrors (fun x => wire x ∨ wire' x) (fun y => tree y ∨ tree' y) := by
  rintro y (found | found)
  · obtain ⟨x, found, decodes⟩ := first y found
    exact ⟨x, .inl found, decodes⟩
  · obtain ⟨x, found, decodes⟩ := second y found
    exact ⟨x, .inr found, decodes⟩

theorem list {R : α → β → Prop} {wire : α → Wire.Format.AnyNode → Prop}
    {tree : β → TreeFormat.AnyNode → Prop} {as : List α} {bs : List β}
    (related : List.Forall₂ R as bs) (each : ∀ {a b}, R a b → Mirrors (wire a) (tree b)) :
    Mirrors (fun x => ∃ a ∈ as, wire a x) (fun y => ∃ b ∈ bs, tree b y) := by
  rintro y ⟨b, member, found⟩
  obtain ⟨a, member, related⟩ := forall₂_exists_of_mem related.flip member
  obtain ⟨x, found, decodes⟩ := each related y found
  exact ⟨x, ⟨a, member, found⟩, decodes⟩

theorem mapM {decode : α → Decoded β} {wire : α → Wire.Format.AnyNode → Prop}
    {tree : β → TreeFormat.AnyNode → Prop} {as : List α} {bs : List β}
    (decoded : as.mapM decode = .ok bs)
    (each : ∀ {a b}, decode a = .ok b → Mirrors (wire a) (tree b)) :
    Mirrors (fun x => ∃ a ∈ as, wire a x) (fun y => ∃ b ∈ bs, tree b y) :=
  list (mapM_eq_ok_iff.mp decoded) each

theorem node {x : Wire.Format.AnyNode} {y : TreeFormat.AnyNode} (decodes : NodeDecodes x y) :
    Mirrors (· = x) (· = y) := by
  rintro _ rfl
  exact ⟨x, rfl, decodes⟩

end Mirrors

/-! ## The parts of an expression or a type -/

/-- Two lists of operands are related one by one. -/
theorem CharacteristicsKind.Related.operands {C D : Type} {R : C → D → Prop}
    {kind : CharacteristicsKind C} {kind' : CharacteristicsKind D}
    (related : kind.Related R kind') : List.Forall₂ R kind.operands kind'.operands := by
  cases related with
  | union first second | intersection first second => exact .cons first (.cons second .nil)
  | _ => exact .nil

/-- Parts of types in the same role that are related. -/
inductive TypePart.Related {T T' U U' P P' C C' : Type} (RT : T → T' → Prop) (RU : U → U' → Prop)
    (RP : P → P' → Prop) (RC : C → C' → Prop) : TypePart T U P C → TypePart T' U' P' C' → Prop where
  | type {t : T} {t' : T'} (related : RT t t') : Related RT RU RP RC (.type t) (.type t')
  | userDefinedType {u : U} {u' : U'} (related : RU u u') :
      Related RT RU RP RC (.userDefinedType u) (.userDefinedType u')
  | typeParameter {p : P} {p' : P'} (related : RP p p') :
      Related RT RU RP RC (.typeParameter p) (.typeParameter p')
  | characteristics {c : C} {c' : C'} (related : RC c c') :
      Related RT RU RP RC (.characteristics c) (.characteristics c')

theorem TypeKind.Related.parts {T T' U U' P P' C C' : Type} {RT : T → T' → Prop}
    {RU : U → U' → Prop} {RP : P → P' → Prop} {RC : C → C' → Prop} {kind : TypeKind T U P C}
    {kind' : TypeKind T' U' P' C'} (related : kind.Related RT RU RP RC kind') :
    List.Forall₂ (TypePart.Related RT RU RP RC) kind.parts kind'.parts := by
  cases related with
  | arrayType item => exact .cons (.type item) .nil
  | tupleType items =>
    refine List.forall₂_map_left_iff.mpr (List.forall₂_map_right_iff.mpr ?_)
    exact items.imp fun _ _ => .type
  | userDefinedType reference => exact .cons (.userDefinedType reference) .nil
  | typeParameter parameter => exact .cons (.typeParameter parameter) .nil
  | operation first second third =>
    exact .cons (.type first) <| .cons (.type second) <| .cons (.characteristics third) .nil
  | function first second => exact .cons (.type first) <| .cons (.type second) .nil
  | _ => exact .nil

/-- Parts of expressions in the same role that are related. -/
inductive ExpressionPart.Related {E E' S S' T T' : Type} (RE : E → E' → Prop) (RS : S → S' → Prop)
    (RT : T → T' → Prop) : ExpressionPart E S T → ExpressionPart E' S' T' → Prop where
  | expression {e : E} {e' : E'} (related : RE e e') :
      Related RE RS RT (.expression e) (.expression e')
  | symbol {s : S} {s' : S'} (related : RS s s') : Related RE RS RT (.symbol s) (.symbol s')
  | type {t : T} {t' : T'} (related : RT t t') : Related RE RS RT (.type t) (.type t')

theorem ExpressionKind.Related.parts {E E' S S' T T' : Type} {RE : E → E' → Prop}
    {RS : S → S' → Prop} {RT : T → T' → Prop} {kind : ExpressionKind E S T}
    {kind' : ExpressionKind E' S' T'} (related : kind.Related RE RS RT kind') :
    List.Forall₂ (ExpressionPart.Related RE RS RT) kind.parts kind'.parts := by
  cases related with
  | identifier symbol types =>
    refine .cons (.symbol symbol) ?_
    cases types with
    | none => exact .nil
    | some types =>
      refine List.forall₂_map_left_iff.mpr (List.forall₂_map_right_iff.mpr ?_)
      exact types.imp fun _ _ => .type
  | valueTuple items | valueArray items | stringLiteral _ items =>
    refine List.forall₂_map_left_iff.mpr (List.forall₂_map_right_iff.mpr ?_)
    exact items.imp fun _ _ => .expression
  | newArray type length => exact .cons (.type type) <| .cons (.expression length) .nil
  | namedItem accessed item => exact .cons (.expression accessed) <| .cons (.symbol item) .nil
  | unaryOperation _ first | unwrapApplication first | adjointApplication first
  | controlledApplication first => exact .cons (.expression first) .nil
  | rangeLiteral first second | arrayItem first second | binaryOperation _ first second
  | callLikeExpression first second =>
    exact .cons (.expression first) <| .cons (.expression second) .nil
  | conditional first second third | copyAndUpdate first second third =>
    exact .cons (.expression first) <| .cons (.expression second) <|
      .cons (.expression third) .nil
  | _ => exact .nil

/-! ## What is nested in a node -/

/-- What was selected has the parts of the payload that counts. -/
theorem Selects.parts_eq {κ K P : Type} {tag : K → κ} {parts : K → List P}
    {kind : Discriminator κ} {own : Option Fault} {children : List P} {selection : Decoded K}
    {tree : K} (selects : Selects tag parts kind own children selection)
    (selected : selection = .ok tree) : parts tree = children := by
  subst selected
  exact selects.2.1

theorem mirrors_characteristics {slots : Wire.CharacteristicsSlots Wire.ResolvedCharacteristics}
    {tree : ResolvedCharacteristics}
    (decoded : Wire.ResolvedCharacteristics.decode (.mk slots) = .ok tree) :
    Mirrors (fun x => (Wire.Format.shape .characteristics).Contains x (.mk slots))
      (fun y => (TreeFormat.shape .characteristics).Contains y tree) := by
  intro y contains
  obtain ⟨d, member, rfl⟩ := TreeFormat.contains_characteristicsArms.mp contains
  rw [Wire.ResolvedCharacteristics.decode_mk_eq_ok_iff,
    Wire.CharacteristicsSlots.decodeWith_eq_bind] at decoded
  obtain ⟨kind, selected, decoded⟩ := bind_eq_ok_iff.mp decoded
  have related := (CharacteristicsKind.traverse_eq_ok_iff.mp decoded).operands
  obtain ⟨c, member, decoded⟩ := forall₂_exists_of_mem related.flip member
  rw [slots.select_selects.parts_eq selected] at member
  obtain ⟨slot, -, member⟩ := exists_of_mem_elim member
  have inside := Wire.Format.contains_of_mem_operands ⟨c, member, rfl⟩
  exact ⟨_, ⟨(slots, ()), rfl, .inl inside⟩, .characteristics decoded⟩

theorem mirrors_callableInformation {i : Wire.CallableInformation} {tree : CallableInformation}
    (decoded : i.decode = .ok tree) :
    Mirrors (· = ⟨.characteristics, i.characteristics⟩)
      (· = ⟨.characteristics, tree.characteristics⟩) :=
  .node (.characteristics (Wire.CallableInformation.decode_eq_ok_iff.mp decoded).1)

theorem mirrors_resolvedType {slots : Wire.ResolvedType.Slots Wire.ResolvedType}
    {tree : ResolvedType} (decoded : Wire.ResolvedType.decode (.mk slots) = .ok tree) :
    Mirrors (fun x => (Wire.Format.shape .resolvedType).Contains x (.mk slots))
      (fun y => (TreeFormat.shape .resolvedType).Contains y tree) := by
  intro y contains
  obtain ⟨part', member, node⟩ := TreeFormat.contains_typeArms.mp contains
  rw [Wire.ResolvedType.decode_mk_eq_ok_iff, Wire.TypeSlots.decodeWith_eq_bind] at decoded
  obtain ⟨kind, selected, decoded⟩ := bind_eq_ok_iff.mp decoded
  have related := (TypeKind.traverse_eq_ok_iff.mp decoded).parts
  obtain ⟨part, member, related⟩ := forall₂_exists_of_mem related.flip member
  rw [slots.select_selects.parts_eq selected] at member
  obtain ⟨slot, -, member⟩ := exists_of_mem_elim member
  have inside {x : Wire.Format.AnyNode} (satisfied : part.Satisfies (x = ⟨.resolvedType, ·⟩)
      (x = ⟨.characteristics, ·.characteristics⟩)) :
      (Wire.Format.shape .resolvedType).Contains x (Wire.ResolvedType.mk slots) :=
    ⟨(slots, ()), rfl, .inl (Wire.Format.contains_of_mem_types ⟨part, member, satisfied⟩)⟩
  cases related with
  | type decoded =>
    obtain rfl := node
    exact ⟨_, inside rfl, .resolvedType decoded⟩
  | characteristics decoded =>
    obtain ⟨x, rfl, decodes⟩ := mirrors_callableInformation decoded y node
    exact ⟨_, inside rfl, decodes⟩
  | userDefinedType _ | typeParameter _ => cases node

theorem mirrors_expression
    {slots : Wire.ExpressionSlots Wire.TypedExpression Wire.Identifier Wire.ResolvedType}
    {tree : ExpressionKind TypedExpression Identifier ResolvedType}
    (decoded : slots.decodeWith Wire.TypedExpression.decode Wire.Identifier.decode
      Wire.ResolvedType.decode = .ok tree) :
    Mirrors (fun x => (Wire.Format.expressionSlots Wire.Format.typedExpression
        Wire.Format.identifier Wire.Format.resolvedType).Contains x slots)
      (fun y => TreeFormat.expressionKind.Contains y tree) := by
  intro y contains
  obtain ⟨part', member, node⟩ := TreeFormat.contains_expressionKind.mp contains
  rw [Wire.ExpressionSlots.decodeWith_eq_bind] at decoded
  obtain ⟨kind, selected, decoded⟩ := bind_eq_ok_iff.mp decoded
  have related := (ExpressionKind.traverse_eq_ok_iff.mp decoded).parts
  obtain ⟨part, member, related⟩ := forall₂_exists_of_mem related.flip member
  rw [slots.select_selects.parts_eq selected] at member
  obtain ⟨slot, -, member⟩ := exists_of_mem_elim member
  have inside {x : Wire.Format.AnyNode} (satisfied : part.Satisfies (x = ⟨.typedExpression, ·⟩)
      (x = ⟨.resolvedType, ·⟩)) :
      (Wire.Format.expressionSlots Wire.Format.typedExpression Wire.Format.identifier
        Wire.Format.resolvedType).Contains x slots :=
    Wire.Format.contains_of_mem_expressions ⟨part, member, satisfied⟩
  cases related with
  | expression decoded =>
    obtain rfl := node
    exact ⟨_, inside rfl, .typedExpression decoded⟩
  | symbol _ => cases node
  | type decoded =>
    obtain rfl := node
    exact ⟨_, inside rfl, .resolvedType decoded⟩

theorem mirrors_typeArgument {a : TypeArgument Wire.ResolvedType} {tree : TypeArgument ResolvedType}
    (decoded : Wire.decodeTypeArgument a = .ok tree) :
    Mirrors (· = ⟨.resolvedType, a.type⟩) (· = ⟨.resolvedType, tree.type⟩) :=
  .node (.resolvedType (Wire.decodeTypeArgument_eq_ok_iff.mp decoded).type)

theorem mirrors_typedExpression {node : Wire.TypedExpression.Node Wire.TypedExpression}
    {tree : TypedExpression} (decoded : Wire.TypedExpression.decode (.mk node) = .ok tree) :
    Mirrors (fun x => (Wire.Format.shape .typedExpression).Contains x (.mk node))
      (fun y => (TreeFormat.shape .typedExpression).Contains y tree) := by
  have decodes := Wire.TypedExpression.decode_mk_eq_ok_iff.mp decoded
  intro y contains
  have parts := (mirrors_expression decodes.expression).or <|
    (Mirrors.mapM decodes.typeArguments mirrors_typeArgument).or <|
    .node (.resolvedType decodes.resolvedType)
  obtain ⟨x, inside, decodes⟩ := parts y (TreeFormat.of_contains_shape_typedExpression contains)
  exact ⟨x, Wire.Format.contains_shape_typedExpression inside, decodes⟩

/-- What is nested in a node of a tree is what a node nested in the one on the wire was decoded
to. -/
theorem NodeDecodes.exists_directly {x : Wire.Format.AnyNode} {y y' : TreeFormat.AnyNode}
    (decodes : NodeDecodes x y) (inside : TreeFormat.grammar.Directly y y') :
    ∃ x', Wire.Format.grammar.Directly x x' ∧ NodeDecodes x' y' := by
  cases decodes with
  | @characteristics c tree decoded =>
    cases c
    exact mirrors_characteristics decoded y' inside
  | @resolvedType t tree decoded =>
    cases t
    exact mirrors_resolvedType decoded y' inside
  | @typedExpression e tree decoded =>
    cases e
    exact mirrors_typedExpression decoded y' inside

/-! ## What declarations hold -/

theorem mirrors_declarationAttribute {a : Wire.DeclarationAttribute} {tree : DeclarationAttribute}
    (decoded : a.decode = .ok tree) :
    Mirrors (· = ⟨.typedExpression, a.argument⟩) (· = ⟨.typedExpression, tree.argument⟩) :=
  .node (.typedExpression (Wire.DeclarationAttribute.decode_eq_ok_iff.mp decoded).argument)

theorem mirrors_resolvedSignature {s : Wire.ResolvedSignature} {tree : ResolvedSignature}
    (decoded : s.decode = .ok tree) :
    Mirrors (Wire.Format.resolvedSignature.Contains · s)
      (TreeFormat.resolvedSignature.Contains · tree) := by
  have decodes := Wire.ResolvedSignature.decode_eq_ok_iff.mp decoded
  simp only [Wire.Format.contains_resolvedSignature, TreeFormat.contains_resolvedSignature]
  exact (Mirrors.node (.resolvedType decodes.argumentType)).or <|
    (Mirrors.node (.resolvedType decodes.returnType)).or <|
    mirrors_callableInformation decodes.information

theorem mirrors_typeArguments {types : Option (List Wire.ResolvedType)}
    {trees : Option (List ResolvedType)} (decoded : Wire.decodeTypeArguments types = .ok trees) :
    Mirrors (fun x => ∃ ts, types = some ts ∧ ∃ t ∈ ts, x = ⟨.resolvedType, t⟩)
      (fun y => ∃ ts, trees = some ts ∧ ∃ t ∈ ts, y = ⟨.resolvedType, t⟩) := by
  rintro y ⟨ts, rfl, found⟩
  cases Wire.decodeTypeArguments_eq_ok_iff.mp decoded with
  | some related =>
    have each := Mirrors.list related fun decoded => .node (.resolvedType decoded)
    obtain ⟨x, found, decodes⟩ := each y found
    exact ⟨x, ⟨_, rfl, found⟩, decodes⟩

theorem mirrors_specialization {s : Wire.Specialization} {tree : Specialization}
    (decoded : s.decode = .ok tree) :
    Mirrors (Wire.Format.specialization.Contains · s)
      (TreeFormat.specialization.Contains · tree) := by
  have decodes := Wire.Specialization.decode_eq_ok_iff.mp decoded
  simp only [Wire.Format.contains_specialization, TreeFormat.contains_specialization,
    decodes.signature, decodes.implementation, reduceCtorEq, false_and, exists_false, or_false]
  exact (Mirrors.mapM decodes.attributes mirrors_declarationAttribute).or <|
    mirrors_typeArguments decodes.typeArguments

theorem mirrors_callable {c : Wire.Callable} {tree : Callable} (decoded : c.decode = .ok tree) :
    Mirrors (Wire.Format.callable.Contains · c) (TreeFormat.callable.Contains · tree) := by
  have decodes := Wire.Callable.decode_eq_ok_iff.mp decoded
  simp only [Wire.Format.contains_callable, TreeFormat.contains_callable, decodes.argumentTuple,
    reduceCtorEq, false_and, exists_false, false_or]
  exact (Mirrors.mapM decodes.attributes mirrors_declarationAttribute).or <|
    (mirrors_resolvedSignature decodes.signature).or <|
    Mirrors.mapM decodes.specializations mirrors_specialization

theorem mirrors_customType {t : Wire.CustomType} {tree : CustomType}
    (decoded : t.decode = .ok tree) :
    Mirrors (Wire.Format.customType.Contains · t) (TreeFormat.customType.Contains · tree) := by
  have decodes := Wire.CustomType.decode_eq_ok_iff.mp decoded
  simp only [Wire.Format.contains_customType, TreeFormat.contains_customType, decodes.typeItems,
    reduceCtorEq, false_and, exists_false, or_false]
  exact (Mirrors.mapM decodes.attributes mirrors_declarationAttribute).or <|
    .node (.resolvedType decodes.type)

/-- A declaration in a slot is the payload there. -/
theorem Wire.NamespaceElement.exists_of_mem_contents {element : Wire.NamespaceElement}
    {slot : Wire.NamespaceElementSlot} {declared : Wire.Declared}
    (member : declared ∈ element.contents slot) :
    (∃ c, declared = .callable c ∧ element.callable = some c) ∨
      ∃ t, declared = .customType t ∧ element.customType = some t := by
  cases slot with
  | callable =>
    obtain ⟨c, held, member⟩ := exists_of_mem_elim member
    exact .inl ⟨c, List.mem_singleton.mp member, held⟩
  | customType =>
    obtain ⟨t, held, member⟩ := exists_of_mem_elim member
    exact .inr ⟨t, List.mem_singleton.mp member, held⟩

theorem mirrors_namespaceElement {element : Wire.NamespaceElement} {tree : NamespaceElement}
    (decoded : element.decode = .ok tree) :
    Mirrors (Wire.Format.namespaceElement.Contains · element)
      (TreeFormat.namespaceElement.Contains · tree) := by
  rw [Wire.NamespaceElement.decode_eq_bind] at decoded
  obtain ⟨declared, selected, decoded⟩ := bind_eq_ok_iff.mp decoded
  have member : declared ∈ element.children := by
    rw [← element.select_selects.parts_eq selected]
    exact List.mem_singleton_self declared
  obtain ⟨slot, -, member⟩ := exists_of_mem_elim member
  intro y contains
  rw [TreeFormat.contains_namespaceElement] at contains
  simp only [Wire.Format.contains_namespaceElement]
  rcases Wire.NamespaceElement.exists_of_mem_contents member with ⟨c, rfl, held⟩ | ⟨t, rfl, held⟩
  · obtain ⟨callable, outcome, same⟩ := bind_eq_ok_iff.mp decoded
    cases same
    obtain ⟨_, ⟨⟩, contains⟩ | ⟨_, ⟨⟩, _⟩ := contains
    obtain ⟨x, inside, decodes⟩ := mirrors_callable outcome y contains
    exact ⟨x, .inl ⟨c, held, inside⟩, decodes⟩
  · obtain ⟨customType, outcome, same⟩ := bind_eq_ok_iff.mp decoded
    cases same
    obtain ⟨_, ⟨⟩, _⟩ | ⟨_, ⟨⟩, contains⟩ := contains
    obtain ⟨x, inside, decodes⟩ := mirrors_customType outcome y contains
    exact ⟨x, .inr ⟨t, held, inside⟩, decodes⟩

theorem mirrors_namespace {ns : Wire.Namespace} {tree : Namespace}
    (decoded : ns.decode = .ok tree) :
    Mirrors (Wire.Format.namespace.Contains · ns) (TreeFormat.namespace.Contains · tree) := by
  have decodes := Wire.Namespace.decode_eq_ok_iff.mp decoded
  simp only [Wire.Format.contains_namespace, TreeFormat.contains_namespace]
  exact .mapM decodes.elements mirrors_namespaceElement

theorem mirrors_compilation {c : Wire.Compilation} {tree : Compilation}
    (decoded : c.decode = .ok tree) :
    Mirrors (Wire.Format.compilation.Contains · c) (TreeFormat.compilation.Contains · tree) := by
  simp only [Wire.Format.contains_compilation, TreeFormat.contains_compilation]
  exact .mapM (Wire.Compilation.decode_eq_ok_iff.mp decoded).1 mirrors_namespace

end WireTree
