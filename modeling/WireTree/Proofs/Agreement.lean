import WireTree.Proofs.Decodes
import WireTree.Proofs.Documentation

/-!
# What decoding ignores

It ignores nothing else. Two records on the wire agree if they are the same up to the slots that
their kinds do not select, the spelling of big integers, the order in which the documentation of
different files is mixed, and the entry points.
Main statements: compilations that agree decode alike, whether to a tree or to a fault, and
compilations that decode to the same tree agree (`decode_eq_and_agree`).
-/

namespace WireTree.Wire

/-- Lists that agree member by member decode alike. -/
theorem mapM_eq_of_agree {α β γ : Type} {Agree : α → β → Prop} {decode : α → Decoded γ}
    {decode' : β → Decoded γ} {as : List α} {bs : List β} (agree : List.Forall₂ Agree as bs)
    (alike : ∀ {a b}, Agree a b → decode a = decode' b) : as.mapM decode = bs.mapM decode' :=
  mapM_congr_forall₂ (agree.imp fun _ _ => alike)

/-- Lists that decode to the same trees agree member by member. -/
theorem agree_of_mapM_eq_ok {α β : Type} {Agree : α → α → Prop} {decode : α → Decoded β}
    (exact_ : ∀ {a b tree}, decode a = .ok tree → decode b = .ok tree → Agree a b)
    {as bs : List α} {trees : List β} (first : as.mapM decode = .ok trees)
    (second : bs.mapM decode = .ok trees) : List.Forall₂ Agree as bs := by
  refine (forall₂_join (mapM_eq_ok_iff.mp first) (mapM_eq_ok_iff.mp second)).imp ?_
  rintro a b ⟨tree, left, right⟩
  exact exact_ left right

/-! ## Characteristics and types -/

namespace ResolvedCharacteristics

/-- Two characteristics expressions agree on what counts. -/
def Agree : ResolvedCharacteristics → ResolvedCharacteristics → Prop :=
  fold fun slots other => slots.Agree (fun agrees c => agrees c) other.expression

theorem agree_mk_iff {slots other : CharacteristicsSlots ResolvedCharacteristics} :
    Agree (mk slots) (mk other) ↔ slots.Agree Agree other := by
  rw [Agree, fold_mk]
  exact CharacteristicsSlots.agree_map_iff

theorem Agree.decode_eq {a b : ResolvedCharacteristics} (agree : a.Agree b) :
    a.decode = b.decode := by
  induction a using induct generalizing b with
  | step slots ih =>
    obtain ⟨other⟩ := b
    have alike := (agree_mk_iff.mp agree).imp_of_mem fun c member d => ih c member
    rw [decode_mk, decode_mk, alike.decodeWith_eq]

theorem agree_of_decode_eq_ok {a b : ResolvedCharacteristics}
    {tree : WireTree.ResolvedCharacteristics} (first : a.decode = .ok tree)
    (second : b.decode = .ok tree) : a.Agree b := by
  induction a using induct generalizing b tree with
  | step slots ih =>
    obtain ⟨other⟩ := b
    have related := CharacteristicsSlots.agree_of_decodeWith_eq_ok
      (decode_mk_eq_ok_iff.mp first) (decode_mk_eq_ok_iff.mp second)
    refine agree_mk_iff.mpr (related.imp_of_mem ?_)
    rintro c member d ⟨t, left, right⟩
    exact ih c member left right

end ResolvedCharacteristics

namespace CallableInformation

/-- What is known of two callables agrees on what counts. -/
structure Agree (a b : CallableInformation) : Prop where
  characteristics : a.characteristics.Agree b.characteristics
  inferredInformation : a.inferredInformation = b.inferredInformation

theorem Agree.decode_eq {a b : CallableInformation} (agree : a.Agree b) :
    a.decode = b.decode := by
  unfold decode
  rw [agree.characteristics.decode_eq, agree.inferredInformation]

theorem agree_of_decode_eq_ok {a b : CallableInformation} {tree : WireTree.CallableInformation}
    (first : a.decode = .ok tree) (second : b.decode = .ok tree) : a.Agree b := by
  obtain ⟨left, same⟩ := decode_eq_ok_iff.mp first
  obtain ⟨right, same'⟩ := decode_eq_ok_iff.mp second
  exact ⟨ResolvedCharacteristics.agree_of_decode_eq_ok left right, same.trans same'.symm⟩

end CallableInformation

namespace ResolvedType

/-- Two types agree on what counts. -/
def Agree : ResolvedType → ResolvedType → Prop :=
  fold fun slots other =>
    slots.Agree (fun agrees t => agrees t) (· = ·) (· = ·) CallableInformation.Agree
      other.typeKind

theorem agree_mk_iff {slots other : Slots ResolvedType} :
    Agree (mk slots) (mk other) ↔
      slots.Agree Agree (· = ·) (· = ·) CallableInformation.Agree other := by
  rw [Agree, fold_mk]
  exact TypeSlots.agree_map_iff

theorem Agree.decode_eq {a b : ResolvedType} (agree : a.Agree b) : a.decode = b.decode := by
  induction a using induct generalizing b with
  | step slots ih =>
    obtain ⟨other⟩ := b
    have alike := (agree_mk_iff.mp agree).imp_of_mem (fun t member t' => ih t member)
      (fun _ _ same => congrArg (pure (f := Decoded)) same)
      (fun _ _ same => congrArg (pure (f := Decoded)) same)
      (fun _ _ => CallableInformation.Agree.decode_eq)
    rw [decode_mk, decode_mk, alike.decodeWith_eq]

theorem agree_of_decode_eq_ok {a b : ResolvedType} {tree : WireTree.ResolvedType}
    (first : a.decode = .ok tree) (second : b.decode = .ok tree) : a.Agree b := by
  induction a using induct generalizing b tree with
  | step slots ih =>
    obtain ⟨other⟩ := b
    have related := TypeSlots.agree_of_decodeWith_eq_ok
      (decode_mk_eq_ok_iff.mp first) (decode_mk_eq_ok_iff.mp second)
    refine agree_mk_iff.mpr (related.imp_of_mem ?_ ?_ ?_ ?_)
    · rintro t member t' ⟨x, left, right⟩
      exact ih t member left right
    · rintro r r' ⟨x, left, right⟩
      cases left
      cases right
      rfl
    · rintro p p' ⟨x, left, right⟩
      cases left
      cases right
      rfl
    · rintro c c' ⟨x, left, right⟩
      exact CallableInformation.agree_of_decode_eq_ok left right

end ResolvedType

/-! ## Expressions -/

/-- Two type arguments agree on what counts. -/
structure TypeArgumentAgree (a b : TypeArgument ResolvedType) : Prop where
  callable : a.callable = b.callable
  name : a.name = b.name
  type : a.type.Agree b.type

theorem decodeTypeArgument_eq {a b : TypeArgument ResolvedType} (agree : TypeArgumentAgree a b) :
    decodeTypeArgument a = decodeTypeArgument b := by
  unfold decodeTypeArgument
  rw [agree.callable, agree.name, agree.type.decode_eq]

theorem typeArgumentAgree_of_decode_eq_ok {a b : TypeArgument ResolvedType}
    {tree : TypeArgument WireTree.ResolvedType} (first : decodeTypeArgument a = .ok tree)
    (second : decodeTypeArgument b = .ok tree) : TypeArgumentAgree a b := by
  have left := decodeTypeArgument_eq_ok_iff.mp first
  have right := decodeTypeArgument_eq_ok_iff.mp second
  exact ⟨left.callable.trans right.callable.symm, left.name.trans right.name.symm,
    ResolvedType.agree_of_decode_eq_ok left.type right.type⟩

namespace TypedExpression

/-- Two nodes agree on what counts, up to a relation of the expressions in them. -/
structure NodeAgree {E E' : Type} (RE : E → E' → Prop) (a : Node E) (b : Node E') : Prop where
  expression : a.expression.Agree RE Identifier.Agree ResolvedType.Agree b.expression
  typeArguments : List.Forall₂ TypeArgumentAgree a.typeArguments b.typeArguments
  resolvedType : a.resolvedType.Agree b.resolvedType
  inferredInformation : a.inferredInformation = b.inferredInformation
  range : a.range = b.range

/-- Two expressions agree on what counts. -/
def Agree : TypedExpression → TypedExpression → Prop :=
  fold fun node other => NodeAgree (fun agrees e => agrees e) node other.node

theorem agree_mk_iff {node other : Node TypedExpression} :
    Agree (mk node) (mk other) ↔ NodeAgree Agree node other := by
  have expressions :
      (node.expression.map Agree).Agree (fun agrees e => agrees e) Identifier.Agree
          ResolvedType.Agree other.expression ↔
        node.expression.Agree Agree Identifier.Agree ResolvedType.Agree other.expression :=
    ExpressionSlots.agree_map_iff
  rw [Agree, fold_mk, ← Agree]
  constructor
  · rintro ⟨expression, typeArguments, resolvedType, inferredInformation, range⟩
    exact ⟨expressions.mp expression, typeArguments, resolvedType, inferredInformation, range⟩
  · rintro ⟨expression, typeArguments, resolvedType, inferredInformation, range⟩
    exact ⟨expressions.mpr expression, typeArguments, resolvedType, inferredInformation, range⟩

theorem Agree.decode_eq {a b : TypedExpression} (agree : a.Agree b) : a.decode = b.decode := by
  induction a using induct generalizing b with
  | step node ih =>
    obtain ⟨other⟩ := b
    obtain ⟨expression, typeArguments, resolvedType, inferredInformation, range⟩ :=
      agree_mk_iff.mp agree
    have alike := expression.imp_of_mem (fun e member e' => ih e member)
      (fun _ _ => Identifier.Agree.decode_eq) (fun _ _ => ResolvedType.Agree.decode_eq)
    have arguments := mapM_eq_of_agree typeArguments decodeTypeArgument_eq
    rw [decode_mk, decode_mk, alike.decodeWith_eq, arguments, resolvedType.decode_eq,
      inferredInformation, range]

theorem agree_of_decode_eq_ok {a b : TypedExpression} {tree : WireTree.TypedExpression}
    (first : a.decode = .ok tree) (second : b.decode = .ok tree) : a.Agree b := by
  induction a using induct generalizing b tree with
  | step node ih =>
    obtain ⟨other⟩ := b
    have left := decode_mk_eq_ok_iff.mp first
    have right := decode_mk_eq_ok_iff.mp second
    have related := ExpressionSlots.agree_of_decodeWith_eq_ok left.expression right.expression
    refine agree_mk_iff.mpr ⟨related.imp_of_mem ?_ ?_ ?_, ?_, ?_, ?_, ?_⟩
    · rintro e member e' ⟨x, decoded, decoded'⟩
      exact ih e member decoded decoded'
    · rintro s s' ⟨x, decoded, decoded'⟩
      exact Identifier.agree_of_decode_eq_ok decoded decoded'
    · rintro t t' ⟨x, decoded, decoded'⟩
      exact ResolvedType.agree_of_decode_eq_ok decoded decoded'
    · exact agree_of_mapM_eq_ok typeArgumentAgree_of_decode_eq_ok left.typeArguments
        right.typeArguments
    · exact ResolvedType.agree_of_decode_eq_ok left.resolvedType right.resolvedType
    · exact left.inferredInformation.trans right.inferredInformation.symm
    · exact left.range.trans right.range.symm

end TypedExpression

/-! ## Declarations -/

namespace DeclarationAttribute

/-- Two attributes agree on what counts. -/
structure Agree (a b : DeclarationAttribute) : Prop where
  typeId : a.typeId = b.typeId
  typeIdRange : a.typeIdRange = b.typeIdRange
  argument : a.argument.Agree b.argument
  offset : a.offset = b.offset
  comments : a.comments = b.comments

theorem Agree.decode_eq {a b : DeclarationAttribute} (agree : a.Agree b) :
    a.decode = b.decode := by
  unfold decode
  rw [agree.typeId, agree.typeIdRange, agree.argument.decode_eq, agree.offset, agree.comments]

theorem agree_of_decode_eq_ok {a b : DeclarationAttribute}
    {tree : WireTree.DeclarationAttribute} (first : a.decode = .ok tree)
    (second : b.decode = .ok tree) : a.Agree b := by
  have left := decode_eq_ok_iff.mp first
  have right := decode_eq_ok_iff.mp second
  exact
    { typeId := left.typeId.trans right.typeId.symm
      typeIdRange := left.typeIdRange.trans right.typeIdRange.symm
      argument := TypedExpression.agree_of_decode_eq_ok left.argument right.argument
      offset := left.offset.trans right.offset.symm
      comments := left.comments.trans right.comments.symm }

end DeclarationAttribute

namespace ResolvedSignature

/-- Two signatures agree on what counts. -/
structure Agree (a b : ResolvedSignature) : Prop where
  typeParameters : List.Forall₂ LocalSymbol.Agree a.typeParameters b.typeParameters
  argumentType : a.argumentType.Agree b.argumentType
  returnType : a.returnType.Agree b.returnType
  information : a.information.Agree b.information

theorem Agree.decode_eq {a b : ResolvedSignature} (agree : a.Agree b) :
    a.decode = b.decode := by
  have typeParameters := mapM_eq_of_agree agree.typeParameters LocalSymbol.Agree.decode_eq
  unfold decode
  rw [typeParameters, agree.argumentType.decode_eq, agree.returnType.decode_eq,
    agree.information.decode_eq]

theorem agree_of_decode_eq_ok {a b : ResolvedSignature} {tree : WireTree.ResolvedSignature}
    (first : a.decode = .ok tree) (second : b.decode = .ok tree) : a.Agree b := by
  have left := decode_eq_ok_iff.mp first
  have right := decode_eq_ok_iff.mp second
  exact
    { typeParameters := agree_of_mapM_eq_ok LocalSymbol.agree_of_decode_eq_ok
        left.typeParameters right.typeParameters
      argumentType := ResolvedType.agree_of_decode_eq_ok left.argumentType right.argumentType
      returnType := ResolvedType.agree_of_decode_eq_ok left.returnType right.returnType
      information := CallableInformation.agree_of_decode_eq_ok left.information
        right.information }

end ResolvedSignature

theorem decodeTypeArguments_eq {a b : Option (List ResolvedType)}
    (agree : Option.Rel (List.Forall₂ ResolvedType.Agree) a b) :
    decodeTypeArguments a = decodeTypeArguments b := by
  cases agree with
  | none => rfl
  | some types =>
    rw [decodeTypeArguments, decodeTypeArguments,
      mapM_eq_of_agree types ResolvedType.Agree.decode_eq]

theorem typeArgumentsAgree_of_decode_eq_ok {a b : Option (List ResolvedType)}
    {trees : Option (List WireTree.ResolvedType)} (first : decodeTypeArguments a = .ok trees)
    (second : decodeTypeArguments b = .ok trees) :
    Option.Rel (List.Forall₂ ResolvedType.Agree) a b := by
  have joined := rel_join (decodeTypeArguments_eq_ok_iff.mp first)
    (decodeTypeArguments_eq_ok_iff.mp second)
  refine rel_imp_of_mem ?_ joined
  rintro types - types' ⟨trees, left, right⟩
  exact agree_of_mapM_eq_ok ResolvedType.agree_of_decode_eq_ok (mapM_eq_ok_iff.mpr left)
    (mapM_eq_ok_iff.mpr right)

namespace Specialization

/-- Two specializations agree on what counts. -/
structure Agree (a b : Specialization) : Prop where
  kind : a.kind = b.kind
  parent : a.parent = b.parent
  attributes : List.Forall₂ DeclarationAttribute.Agree a.attributes b.attributes
  source : a.source = b.source
  location : a.location = b.location
  typeArguments : Option.Rel (List.Forall₂ ResolvedType.Agree) a.typeArguments b.typeArguments

theorem Agree.decode_eq {a b : Specialization} (agree : a.Agree b) : a.decode = b.decode := by
  have attributes := mapM_eq_of_agree agree.attributes DeclarationAttribute.Agree.decode_eq
  unfold decode
  rw [agree.kind, agree.parent, attributes, agree.source, agree.location,
    decodeTypeArguments_eq agree.typeArguments]

theorem agree_of_decode_eq_ok {a b : Specialization} {tree : WireTree.Specialization}
    (first : a.decode = .ok tree) (second : b.decode = .ok tree) : a.Agree b := by
  have left := decode_eq_ok_iff.mp first
  have right := decode_eq_ok_iff.mp second
  exact
    { kind := left.kind.trans right.kind.symm
      parent := left.parent.trans right.parent.symm
      attributes := agree_of_mapM_eq_ok DeclarationAttribute.agree_of_decode_eq_ok
        left.attributes right.attributes
      source := left.source.trans right.source.symm
      location := left.location.trans right.location.symm
      typeArguments := typeArgumentsAgree_of_decode_eq_ok left.typeArguments
        right.typeArguments }

end Specialization

namespace Callable

/-- Two callables agree on what counts. -/
structure Agree (a b : Callable) : Prop where
  kind : a.kind = b.kind
  fullName : a.fullName = b.fullName
  attributes : List.Forall₂ DeclarationAttribute.Agree a.attributes b.attributes
  modifiers : a.modifiers = b.modifiers
  source : a.source = b.source
  location : a.location = b.location
  signature : a.signature.Agree b.signature
  specializations : List.Forall₂ Specialization.Agree a.specializations b.specializations
  documentation : a.documentation = b.documentation
  comments : a.comments = b.comments

theorem Agree.decode_eq {a b : Callable} (agree : a.Agree b) : a.decode = b.decode := by
  have attributes := mapM_eq_of_agree agree.attributes DeclarationAttribute.Agree.decode_eq
  have specializations := mapM_eq_of_agree agree.specializations Specialization.Agree.decode_eq
  unfold decode
  rw [agree.kind, agree.fullName, attributes, agree.modifiers, agree.source, agree.location,
    agree.signature.decode_eq, specializations, agree.documentation, agree.comments]

theorem agree_of_decode_eq_ok {a b : Callable} {tree : WireTree.Callable}
    (first : a.decode = .ok tree) (second : b.decode = .ok tree) : a.Agree b := by
  have left := decode_eq_ok_iff.mp first
  have right := decode_eq_ok_iff.mp second
  exact
    { kind := left.kind.trans right.kind.symm
      fullName := left.fullName.trans right.fullName.symm
      attributes := agree_of_mapM_eq_ok DeclarationAttribute.agree_of_decode_eq_ok
        left.attributes right.attributes
      modifiers := left.modifiers.trans right.modifiers.symm
      source := left.source.trans right.source.symm
      location := left.location.trans right.location.symm
      signature := ResolvedSignature.agree_of_decode_eq_ok left.signature right.signature
      specializations := agree_of_mapM_eq_ok Specialization.agree_of_decode_eq_ok
        left.specializations right.specializations
      documentation := left.documentation.trans right.documentation.symm
      comments := left.comments.trans right.comments.symm }

end Callable

namespace CustomType

/-- Two user-defined types agree on what counts. -/
structure Agree (a b : CustomType) : Prop where
  fullName : a.fullName = b.fullName
  attributes : List.Forall₂ DeclarationAttribute.Agree a.attributes b.attributes
  modifiers : a.modifiers = b.modifiers
  source : a.source = b.source
  location : a.location = b.location
  type : a.type.Agree b.type
  documentation : a.documentation = b.documentation
  comments : a.comments = b.comments

theorem Agree.decode_eq {a b : CustomType} (agree : a.Agree b) : a.decode = b.decode := by
  have attributes := mapM_eq_of_agree agree.attributes DeclarationAttribute.Agree.decode_eq
  unfold decode
  rw [agree.fullName, attributes, agree.modifiers, agree.source, agree.location,
    agree.type.decode_eq, agree.documentation, agree.comments]

theorem agree_of_decode_eq_ok {a b : CustomType} {tree : WireTree.CustomType}
    (first : a.decode = .ok tree) (second : b.decode = .ok tree) : a.Agree b := by
  have left := decode_eq_ok_iff.mp first
  have right := decode_eq_ok_iff.mp second
  exact
    { fullName := left.fullName.trans right.fullName.symm
      attributes := agree_of_mapM_eq_ok DeclarationAttribute.agree_of_decode_eq_ok
        left.attributes right.attributes
      modifiers := left.modifiers.trans right.modifiers.symm
      source := left.source.trans right.source.symm
      location := left.location.trans right.location.symm
      type := ResolvedType.agree_of_decode_eq_ok left.type right.type
      documentation := left.documentation.trans right.documentation.symm
      comments := left.comments.trans right.comments.symm }

end CustomType

namespace NamespaceElement

/-- Two declarations of either kind agree on what counts. -/
def Agree : NamespaceElement → NamespaceElement → Prop :=
  AgreeWith Callable.Agree CustomType.Agree

theorem Agree.decode_eq {a b : NamespaceElement} (agree : a.Agree b) :
    a.decode = b.decode := by
  rw [decode_eq_bind, decode_eq_bind]
  refine ((agree_iff agree.1).mp agree).bind_congr ?_
  intro declared declared' related
  cases related with
  | callable callable => simp only [Declared.decode, callable.decode_eq]
  | customType customType => simp only [Declared.decode, customType.decode_eq]

theorem agree_of_decode_eq_ok {a b : NamespaceElement} {tree : WireTree.NamespaceElement}
    (first : a.decode = .ok tree) (second : b.decode = .ok tree) : a.Agree b := by
  rw [decode_eq_bind, bind_eq_ok_iff] at first second
  obtain ⟨declared, selected, decoded⟩ := first
  obtain ⟨declared', selected', decoded'⟩ := second
  have related : Declared.Related Callable.Agree CustomType.Agree declared declared' := by
    cases tree with
    | callable tree =>
      obtain ⟨c, rfl, left⟩ := Declared.decode_eq_callable_iff.mp decoded
      obtain ⟨c', rfl, right⟩ := Declared.decode_eq_callable_iff.mp decoded'
      exact .callable (Callable.agree_of_decode_eq_ok left right)
    | customType tree =>
      obtain ⟨t, rfl, left⟩ := Declared.decode_eq_customType_iff.mp decoded
      obtain ⟨t', rfl, right⟩ := Declared.decode_eq_customType_iff.mp decoded'
      exact .customType (CustomType.agree_of_decode_eq_ok left right)
  have sameTag : declared.tag = declared'.tag := by cases related <;> rfl
  have sameKind := a.select_selects.kind_eq b.select_selects selected selected' sameTag
  rw [Agree, agree_iff sameKind, selected, selected']
  exact .ok related

end NamespaceElement

/-! ## Compilations -/

namespace Namespace

/-- Two namespaces agree on what counts: their documentation has the same blocks for each file,
in the same order. -/
structure Agree (a b : Namespace) : Prop where
  name : a.name = b.name
  elements : List.Forall₂ NamespaceElement.Agree a.elements b.elements
  documentation : ∀ file, blocksOf file a.documentation = blocksOf file b.documentation

theorem Agree.decode_eq {a b : Namespace} (agree : a.Agree b) : a.decode = b.decode := by
  have elements := mapM_eq_of_agree agree.elements NamespaceElement.Agree.decode_eq
  have documentation := decodeDocumentation_eq_iff.mpr agree.documentation
  rw [Namespace.decode_eq, Namespace.decode_eq, agree.name, elements, documentation]

theorem agree_of_decode_eq_ok {a b : Namespace} {tree : WireTree.Namespace}
    (first : a.decode = .ok tree) (second : b.decode = .ok tree) : a.Agree b := by
  have left := decode_eq_ok_iff.mp first
  have right := decode_eq_ok_iff.mp second
  have documentation := left.documentation.trans right.documentation.symm
  exact
    { name := left.name.trans right.name.symm
      elements := agree_of_mapM_eq_ok NamespaceElement.agree_of_decode_eq_ok left.elements
        right.elements
      documentation := decodeDocumentation_eq_iff.mp documentation }

end Namespace

namespace Compilation

/-- Two compilations agree on what counts: entry points do not. -/
def Agree (a b : Compilation) : Prop :=
  List.Forall₂ Namespace.Agree a.namespaces b.namespaces

/-- Compilations that agree decode alike, to the same tree or to the same fault; and
compilations that decode to the same tree agree. -/
theorem decode_eq_and_agree (a b : Compilation) :
    (a.Agree b → a.decode = b.decode) ∧
      ∀ tree, a.decode = .ok tree → b.decode = .ok tree → a.Agree b := by
  constructor
  · intro agree
    have namespaces := mapM_eq_of_agree agree Namespace.Agree.decode_eq
    rw [decode, decode, decodeWith_eq, decodeWith_eq, namespaces]
  · intro tree first second
    obtain ⟨left, -⟩ := decode_eq_ok_iff.mp first
    obtain ⟨right, -⟩ := decode_eq_ok_iff.mp second
    exact agree_of_mapM_eq_ok Namespace.agree_of_decode_eq_ok left right

end Compilation

end WireTree.Wire
