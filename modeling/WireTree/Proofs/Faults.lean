import WireTree.Proofs.Selection.Characteristics
import WireTree.Proofs.Selection.Expression
import WireTree.Proofs.Selection.ResolvedType
import WireTree.Proofs.Selection.Simple
import WireTree.Proofs.Trace

/-!
# The faults of what is on the wire

They are listed by a walk over the parts that count, in the order in which they are met: of a union
first its own fault, and only if it has none those of the parts in the slot that its kind selects.
Slots that are not selected are not walked.
Main statement: decoding a compilation reports the first of its faults, and yields a tree if and
only if it has none (`decode_error_iff_and_ok_iff`).
-/

namespace WireTree.Wire

/-! ## Characteristics -/

/-- The faults of a characteristics expression. -/
def ResolvedCharacteristics.faults : ResolvedCharacteristics → List Fault :=
  fold fun slots => slots.faultsWith id

theorem ResolvedCharacteristics.faults_mk
    (slots : CharacteristicsSlots ResolvedCharacteristics) :
    faults (mk slots) = slots.faultsWith faults := by
  rw [faults, fold_mk, CharacteristicsSlots.faultsWith_map]
  rfl

theorem ResolvedCharacteristics.decode_reports (c : ResolvedCharacteristics) :
    Reports c.decode c.faults := by
  induction c using induct with
  | step slots ih =>
    rw [decode_mk, faults_mk]
    have operands := slots.decodeWith_reports fun c member =>
      ih c (CharacteristicsSlots.mem_operands_of_mem_children member)
    exact operands.bind_ok

/-- The faults of what is known of a callable. -/
def CallableInformation.faults (information : CallableInformation) : List Fault :=
  information.characteristics.faults

theorem CallableInformation.decode_reports (information : CallableInformation) :
    Reports information.decode information.faults :=
  information.characteristics.decode_reports.bind_ok

/-! ## Types -/

/-- The faults of a part of a type, given those of types. -/
def typePartFaults {T : Type} (type : T → List Fault) :
    TypePart T UserDefinedType TypeParameter CallableInformation → List Fault
  | .type t => type t
  | .userDefinedType _ => []
  | .typeParameter _ => []
  | .characteristics information => information.faults

/-- The faults of a type. -/
def ResolvedType.faults : ResolvedType → List Fault :=
  fold fun slots => slots.faultsWith (typePartFaults id)

theorem ResolvedType.faults_mk (slots : Slots ResolvedType) :
    faults (mk slots) = slots.faultsWith (typePartFaults faults) := by
  rw [faults, fold_mk, TypeSlots.faultsWith_map]
  congr 1
  funext part
  cases part <;> rfl

theorem ResolvedType.decode_reports (t : ResolvedType) : Reports t.decode t.faults := by
  induction t using induct with
  | step slots ih =>
    rw [decode_mk, faults_mk]
    refine (slots.decodeWith_reports ?_).bind_ok
    intro part member
    cases part with
    | type t => exact ih t (TypeSlots.mem_types_of_mem_children member)
    | userDefinedType reference => rfl
    | typeParameter parameter => rfl
    | characteristics information => exact information.decode_reports

/-! ## Expressions -/

/-- The faults of a part of an expression, given those of expressions. -/
def expressionPartFaults {E : Type} (expression : E → List Fault) :
    ExpressionPart E Identifier ResolvedType → List Fault
  | .expression e => expression e
  | .symbol identifier => identifier.faults
  | .type t => t.faults

/-- The faults of a node, given those of the expressions in it: of its kind, then of its type
arguments, and then of its type. -/
def TypedExpression.nodeFaults {E : Type} (expression : E → List Fault) (node : Node E) :
    List Fault :=
  node.expression.faultsWith (expressionPartFaults expression) ++
    (node.typeArguments.flatMap fun argument => argument.type.faults) ++ node.resolvedType.faults

/-- The faults of an expression. -/
def TypedExpression.faults : TypedExpression → List Fault :=
  fold (nodeFaults id)

theorem TypedExpression.faults_mk (node : Node TypedExpression) :
    faults (mk node) = nodeFaults faults node := by
  rw [faults, fold_mk]
  unfold nodeFaults
  simp only [Node.map, Typed.withExpression, ExpressionSlots.faultsWith_map]
  congr 3
  funext part
  cases part <;> rfl

theorem decodeTypeArgument_reports (argument : TypeArgument ResolvedType) :
    Reports (decodeTypeArgument argument) argument.type.faults :=
  argument.type.decode_reports.bind_ok

theorem TypedExpression.decode_reports (e : TypedExpression) : Reports e.decode e.faults := by
  induction e using induct with
  | step node ih =>
    rw [decode_mk, faults_mk, nodeFaults, List.append_assoc]
    have kind : Reports
        (node.expression.decodeWith decode Identifier.decode ResolvedType.decode)
        (node.expression.faultsWith (expressionPartFaults faults)) := by
      refine node.expression.decodeWith_reports ?_
      intro part member
      cases part with
      | expression e => exact ih e (ExpressionSlots.mem_expressions_of_mem_children member)
      | symbol identifier => exact identifier.decode_reports
      | type t => exact t.decode_reports
    have typeArguments : Reports (node.typeArguments.mapM decodeTypeArgument)
        (node.typeArguments.flatMap fun argument => argument.type.faults) :=
      Reports.mapM fun argument _ => decodeTypeArgument_reports argument
    exact kind.bind fun _ => typeArguments.bind fun _ =>
      node.resolvedType.decode_reports.bind_ok

/-! ## Declarations -/

/-- The faults of an attribute. -/
def DeclarationAttribute.faults (declared : DeclarationAttribute) : List Fault :=
  declared.argument.faults

theorem DeclarationAttribute.decode_reports (declared : DeclarationAttribute) :
    Reports declared.decode declared.faults :=
  declared.argument.decode_reports.bind_ok

/-- The faults of a signature: of its type parameters, its argument type, its return type and
then what is known of the callable. -/
def ResolvedSignature.faults (signature : ResolvedSignature) : List Fault :=
  signature.typeParameters.flatMap LocalSymbol.faults ++
    (signature.argumentType.faults ++
      (signature.returnType.faults ++ signature.information.faults))

theorem ResolvedSignature.decode_reports (signature : ResolvedSignature) :
    Reports signature.decode signature.faults := by
  have typeParameters : Reports (signature.typeParameters.mapM LocalSymbol.decode)
      (signature.typeParameters.flatMap LocalSymbol.faults) :=
    Reports.mapM fun symbol _ => symbol.decode_reports
  exact typeParameters.bind fun _ => signature.argumentType.decode_reports.bind fun _ =>
    signature.returnType.decode_reports.bind fun _ =>
      signature.information.decode_reports.bind_ok

/-- The faults of type arguments, if any were given. -/
def typeArgumentsFaults (types : Option (List ResolvedType)) : List Fault :=
  types.elim [] fun types => types.flatMap ResolvedType.faults

theorem decodeTypeArguments_reports (types : Option (List ResolvedType)) :
    Reports (decodeTypeArguments types) (typeArgumentsFaults types) := by
  cases types with
  | none => exact .ok none
  | some types =>
    have all : Reports (types.mapM ResolvedType.decode) (types.flatMap ResolvedType.faults) :=
      Reports.mapM fun t _ => t.decode_reports
    exact all.bind_ok

/-- The faults of a specialization: of its attributes, and then of its type arguments. -/
def Specialization.faults (specialization : Specialization) : List Fault :=
  specialization.attributes.flatMap DeclarationAttribute.faults ++
    typeArgumentsFaults specialization.typeArguments

theorem attributes_report (attributes : List DeclarationAttribute) :
    Reports (attributes.mapM DeclarationAttribute.decode)
      (attributes.flatMap DeclarationAttribute.faults) :=
  Reports.mapM fun declared _ => declared.decode_reports

theorem Specialization.decode_reports (specialization : Specialization) :
    Reports specialization.decode specialization.faults :=
  (attributes_report specialization.attributes).bind fun _ =>
    (decodeTypeArguments_reports specialization.typeArguments).bind_ok

/-- The faults of a callable: of its attributes, its signature and then its specializations. -/
def Callable.faults (callable : Callable) : List Fault :=
  callable.attributes.flatMap DeclarationAttribute.faults ++
    (callable.signature.faults ++ callable.specializations.flatMap Specialization.faults)

theorem Callable.decode_reports (callable : Callable) :
    Reports callable.decode callable.faults := by
  have specializations : Reports (callable.specializations.mapM Specialization.decode)
      (callable.specializations.flatMap Specialization.faults) :=
    Reports.mapM fun specialization _ => specialization.decode_reports
  exact (attributes_report callable.attributes).bind fun _ =>
    callable.signature.decode_reports.bind fun _ => specializations.bind_ok

/-- The faults of a user-defined type: of its attributes, and then of its underlying type. -/
def CustomType.faults (customType : CustomType) : List Fault :=
  customType.attributes.flatMap DeclarationAttribute.faults ++ customType.type.faults

theorem CustomType.decode_reports (customType : CustomType) :
    Reports customType.decode customType.faults :=
  (attributes_report customType.attributes).bind fun _ =>
    customType.type.decode_reports.bind_ok

/-- The faults of a declaration of either kind. -/
def NamespaceElement.faults : NamespaceElement → List Fault :=
  faultsWith Callable.faults CustomType.faults

theorem NamespaceElement.decode_reports (element : NamespaceElement) :
    Reports element.decode element.faults := by
  rw [decode_eq_bind]
  refine element.select_selects.reports ?_
  intro declared _
  rw [List.flatMap_singleton]
  cases declared with
  | callable c => exact c.decode_reports.bind_ok
  | customType t => exact t.decode_reports.bind_ok

/-! ## Compilations -/

/-- The faults of a namespace. Documentation has none. -/
def Namespace.faults (ns : Namespace) : List Fault :=
  ns.elements.flatMap NamespaceElement.faults

theorem Namespace.decode_reports (ns : Namespace) : Reports ns.decode ns.faults := by
  have elements : Reports (ns.elements.mapM NamespaceElement.decode)
      (ns.elements.flatMap NamespaceElement.faults) :=
    Reports.mapM fun element _ => element.decode_reports
  rw [decode_eq]
  exact elements.bind_ok

/-- The faults of a compilation. Entry points have none. -/
def Compilation.faults (compilation : Compilation) : List Fault :=
  compilation.namespaces.flatMap Namespace.faults

theorem Compilation.decode_reports (compilation : Compilation) :
    Reports compilation.decode compilation.faults := by
  have namespaces : Reports (compilation.namespaces.mapM Namespace.decode)
      (compilation.namespaces.flatMap Namespace.faults) :=
    Reports.mapM fun ns _ => ns.decode_reports
  rw [decode, decodeWith_eq]
  exact namespaces.bind_ok

/-- Decoding a compilation reports the first fault of the walk, and yields a tree if and only
if the walk meets no fault. -/
theorem Compilation.decode_error_iff_and_ok_iff (compilation : Compilation) :
    (∀ fault, compilation.decode = .error fault ↔ compilation.faults.head? = some fault) ∧
      ((∃ tree, compilation.decode = .ok tree) ↔ compilation.faults = []) :=
  compilation.decode_reports.iff

end WireTree.Wire
