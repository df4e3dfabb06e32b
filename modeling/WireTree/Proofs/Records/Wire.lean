import WireTree.Format.Wire
import WireTree.Proofs.Records.Regular

/-!
# The types of the wire

Their schemas are regular: no two fields of a record have one key, and each default is the one of
its type.
Main statement: `Wired.regular`.
-/

namespace WireTree

variable {ι : Type} {g : Grammar ι}

namespace Format

/-! ## Places and names -/

theorem regular_position : Regular g position :=
  .record (by simp) <| .required (.leaf trivial rfl) <| .required (.leaf trivial rfl) .nil

theorem regular_range : Regular g range :=
  .record (by simp) <| .required regular_position <| .required regular_position .nil

theorem regular_location : Regular g location :=
  .record (by simp) <| .required regular_position <| .required regular_range .nil

theorem regular_qualifiedName : Regular g qualifiedName :=
  .record (by simp) <| .required (.leaf trivial rfl) <| .required (.leaf trivial rfl) .nil

theorem regular_userDefinedType : Regular g userDefinedType :=
  .record (by simp) <| .required (.leaf trivial rfl) <| .required (.leaf trivial rfl) <|
    .optional regular_range .nil

theorem regular_typeParameter : Regular g typeParameter :=
  .record (by simp) <| .required regular_qualifiedName <| .required (.leaf trivial rfl) <|
    .optional regular_range .nil

end Format

namespace Wire.Format

open WireTree.Format

/-! ## Records with payloads of any type -/

section Payloads

variable {T U P C E S : Type} {type : Schema g.Carrier T} {reference : Schema g.Carrier U}
  {parameter : Schema g.Carrier P} {characteristics : Schema g.Carrier C}
  {expression : Schema g.Carrier E} {symbol : Schema g.Carrier S}

theorem regular_setOperation (operand : Regular g characteristics) :
    Regular g (setOperation characteristics) :=
  .record (by simp) <| .required operand <| .required operand .nil

theorem regular_characteristicsSlots (operand : Regular g characteristics) :
    Regular g (characteristicsSlots characteristics) :=
  .record (by simp) <| .required (.leaf trivial rfl) <| .optional (.leaf trivial rfl) <|
    .optional (regular_setOperation operand) .nil

theorem regular_operationType (inner : Regular g type) (own : Regular g characteristics) :
    Regular g (operationType type characteristics) :=
  .record (by simp) <| .required inner <| .required inner <| .required own .nil

theorem regular_functionType (inner : Regular g type) : Regular g (functionType type) :=
  .record (by simp) <| .required inner <| .required inner .nil

theorem regular_typeSlots (inner : Regular g type) (named : Regular g reference)
    (own : Regular g parameter) (callable : Regular g characteristics) :
    Regular g (typeSlots type reference parameter characteristics) :=
  .record (by simp) <| .required (.leaf trivial rfl) <| .optional inner <|
    .optional (.list inner) <| .optional named <| .optional own <|
    .optional (regular_operationType inner callable) <|
    .optional (regular_functionType inner) .nil

theorem regular_identifierPayload (named : Regular g symbol) (inner : Regular g type) :
    Regular g (identifierPayload symbol type) :=
  .record (by simp) <| .required named <| .optional (.list inner) .nil

theorem regular_stringPayload (inner : Regular g expression) :
    Regular g (stringPayload expression) :=
  .record (by simp) <| .required (.leaf trivial rfl) <|
    .defaulted rfl (fun _ _ => rfl) (.list inner) .nil

theorem regular_newArrayPayload (inner : Regular g expression) (item : Regular g type) :
    Regular g (newArrayPayload expression type) :=
  .record (by simp) <| .required item <| .required inner .nil

theorem regular_namedItemPayload (inner : Regular g expression) (named : Regular g symbol) :
    Regular g (namedItemPayload expression symbol) :=
  .record (by simp) <| .required inner <| .required named .nil

theorem regular_twoOperands (inner : Regular g expression) : Regular g (twoOperands expression) :=
  .record (by simp) <| .required inner <| .required inner .nil

theorem regular_threeOperands (inner : Regular g expression) :
    Regular g (threeOperands expression) :=
  .record (by simp) <| .required inner <| .required inner <| .required inner .nil

theorem regular_expressionSlots (inner : Regular g expression) (named : Regular g symbol)
    (resolved : Regular g type) : Regular g (expressionSlots expression symbol type) :=
  .record (by simp) <| .required (.leaf trivial rfl) <|
    .optional (regular_identifierPayload named resolved) <|
    .defaulted rfl (fun _ _ => rfl) (.leaf trivial rfl) <|
    .optional (.list (.leaf trivial rfl)) <|
    .defaulted rfl (fun _ _ => rfl) (.leaf trivial rfl) <|
    .defaulted rfl (fun _ _ => rfl) (.leaf trivial rfl) <|
    .optional (regular_stringPayload inner) <|
    .optional (.leaf trivial rfl) <|
    .optional (.leaf trivial rfl) <|
    .optional (regular_newArrayPayload inner resolved) <|
    .optional (regular_namedItemPayload inner named) <|
    .optional inner <|
    .optional (regular_twoOperands inner) <|
    .optional (regular_threeOperands inner) <|
    .optional (.list inner) .nil

end Payloads

/-! ## Types and expressions -/

theorem regular_node (node : Node) : Regular grammar (.node node) :=
  .leaf trivial rfl

theorem regular_inferredCallableInformation : Regular grammar inferredCallableInformation :=
  .record (by decide) <| .defaulted rfl (fun _ _ => rfl) (.leaf trivial rfl) <|
    .defaulted rfl (fun _ _ => rfl) (.leaf trivial rfl) .nil

theorem regular_callableInformation : Regular grammar callableInformation :=
  .record (by decide) <| .required (regular_node _) <|
    .defaulted rfl (fun _ _ => rfl) regular_inferredCallableInformation .nil

theorem regular_identifier : Regular grammar identifier :=
  .record (by decide) <| .required (.leaf trivial rfl) <| .optional (.leaf trivial rfl) <|
    .optional regular_qualifiedName .nil

theorem regular_typeArgument : Regular grammar typeArgument :=
  .record (by decide) <| .required regular_qualifiedName <| .required (.leaf trivial rfl) <|
    .required (regular_node _) .nil

theorem regular_inferredExpressionInformation : Regular grammar inferredExpressionInformation :=
  .record (by decide) <| .defaulted rfl (fun _ _ => rfl) (.leaf trivial rfl) <|
    .defaulted rfl (fun _ _ => rfl) (.leaf trivial rfl) .nil

theorem regular_shape (node : Node) : Regular grammar (.shape (shape node)) := by
  cases node with
  | characteristics =>
    exact .record (by decide) <| .required (regular_characteristicsSlots (regular_node _)) .nil
  | resolvedType =>
    have slots := regular_typeSlots (regular_node .resolvedType) regular_userDefinedType
      regular_typeParameter regular_callableInformation
    exact .record (by decide) <| .required slots .nil
  | typedExpression =>
    have slots := regular_expressionSlots (regular_node .typedExpression) regular_identifier
      (regular_node .resolvedType)
    exact .record (by decide) <| .required slots <|
      .defaulted rfl (fun _ _ => rfl) (.list regular_typeArgument) <|
      .required (regular_node _) <|
      .defaulted rfl (fun _ _ => rfl) regular_inferredExpressionInformation <|
      .optional regular_range .nil

/-! ## Declarations -/

theorem regular_comments : Regular grammar comments :=
  .record (by decide) <| .defaulted rfl (fun _ _ => rfl) (.list (.leaf trivial rfl)) <|
    .defaulted rfl (fun _ _ => rfl) (.list (.leaf trivial rfl)) .nil

theorem regular_modifiers : Regular grammar modifiers :=
  .record (by decide) <| .defaulted rfl (fun _ _ => rfl) (.leaf trivial rfl) .nil

theorem regular_source : Regular grammar source :=
  .record (by decide) <| .defaulted rfl (fun _ _ => rfl) (.leaf trivial rfl) <|
    .optional (.leaf trivial rfl) .nil

theorem regular_localSymbol : Regular grammar localSymbol :=
  .record (by decide) <| .required (.leaf trivial rfl) <| .optional (.leaf trivial rfl) .nil

theorem regular_declarationAttribute : Regular grammar declarationAttribute :=
  .record (by decide) <| .optional regular_userDefinedType <| .optional regular_range <|
    .required (regular_node _) <| .required regular_position <|
    .defaulted rfl (fun _ _ => rfl) regular_comments .nil

theorem regular_resolvedSignature : Regular grammar resolvedSignature :=
  .record (by decide) <| .defaulted rfl (fun _ _ => rfl) (.list regular_localSymbol) <|
    .required (regular_node _) <| .required (regular_node _) <|
    .required regular_callableInformation .nil

theorem regular_specialization : Regular grammar specialization :=
  .record (by decide) <| .required (.leaf trivial rfl) <| .required regular_qualifiedName <|
    .defaulted rfl (fun _ _ => rfl) (.list regular_declarationAttribute) <|
    .defaulted rfl (fun _ _ => rfl) regular_source <|
    .optional regular_location <| .optional (.list (regular_node _)) .nil

theorem regular_callable : Regular grammar callable :=
  .record (by decide) <| .required (.leaf trivial rfl) <| .required regular_qualifiedName <|
    .defaulted rfl (fun _ _ => rfl) (.list regular_declarationAttribute) <|
    .defaulted rfl (fun _ _ => rfl) regular_modifiers <|
    .defaulted rfl (fun _ _ => rfl) regular_source <|
    .optional regular_location <| .required regular_resolvedSignature <|
    .defaulted rfl (fun _ _ => rfl) (.list regular_specialization) <|
    .defaulted rfl (fun _ _ => rfl) (.list (.leaf trivial rfl)) <|
    .defaulted rfl (fun _ _ => rfl) regular_comments .nil

theorem regular_customType : Regular grammar customType :=
  .record (by decide) <| .required regular_qualifiedName <|
    .defaulted rfl (fun _ _ => rfl) (.list regular_declarationAttribute) <|
    .defaulted rfl (fun _ _ => rfl) regular_modifiers <|
    .defaulted rfl (fun _ _ => rfl) regular_source <|
    .optional regular_location <| .required (regular_node _) <|
    .defaulted rfl (fun _ _ => rfl) (.list (.leaf trivial rfl)) <|
    .defaulted rfl (fun _ _ => rfl) regular_comments .nil

theorem regular_namespaceElement : Regular grammar namespaceElement :=
  .record (by decide) <| .required (.leaf trivial rfl) <| .optional regular_callable <|
    .optional regular_customType .nil

theorem regular_sourceFileDocumentation : Regular grammar sourceFileDocumentation :=
  .record (by decide) <| .required (.leaf trivial rfl) <|
    .defaulted rfl (fun _ _ => rfl) (.list (.leaf trivial rfl)) .nil

theorem regular_namespace : Regular grammar «namespace» :=
  .record (by decide) <| .required (.leaf trivial rfl) <|
    .defaulted rfl (fun _ _ => rfl) (.list regular_namespaceElement) <|
    .defaulted rfl (fun _ _ => rfl) (.list regular_sourceFileDocumentation) .nil

theorem regular_compilation : Regular grammar compilation :=
  .record (by decide) <| .defaulted rfl (fun _ _ => rfl) (.list regular_namespace) <|
    .defaulted rfl (fun _ _ => rfl) (.list regular_qualifiedName) .nil

theorem regular_options : Regular grammar options :=
  .record (by decide) <| .defaulted rfl (fun _ _ => rfl) (.leaf trivial rfl) .nil

/-! ## The types of the wire -/

/-- The types of the wire: scalars, the recursive types, lists, what may be absent, and the records.
The payloads of a record that is generic in them may have any type of the wire. -/
inductive Wired : {α : Type} → Form α → Prop where
  | integer {α : Type} (rule : IntegerRule α) : Wired (.integer rule)
  | double : Wired .double
  | boolean : Wired .boolean
  | text {α : Type} (make : String → α) : Wired (.text make)
  | choice {α : Type} (names : List (String × α)) : Wired (.choice names)
  | optional {α : Type} {inner : Form α} (wired : Wired inner) : Wired (.optional inner)
  | list {α : Type} {wanted : String} {item : Form α} (wired : Wired item) :
      Wired (.list wanted item)
  | node (node : Node) : Wired (.node node)
  | shape (node : Node) : Wired (.shape (shape node))
  | position : Wired position
  | range : Wired range
  | location : Wired location
  | qualifiedName : Wired qualifiedName
  | userDefinedType : Wired userDefinedType
  | typeParameter : Wired typeParameter
  | setOperation {C : Type} {operand : Form C} (wired : Wired operand) :
      Wired (setOperation operand)
  | characteristicsSlots {C : Type} {operand : Form C} (wired : Wired operand) :
      Wired (characteristicsSlots operand)
  | operationType {T C : Type} {type : Form T} {characteristics : Form C} (inner : Wired type)
      (own : Wired characteristics) : Wired (operationType type characteristics)
  | functionType {T : Type} {type : Form T} (inner : Wired type) : Wired (functionType type)
  | typeSlots {T U P C : Type} {type : Form T} {reference : Form U} {parameter : Form P}
      {characteristics : Form C} (inner : Wired type) (named : Wired reference)
      (own : Wired parameter) (callable : Wired characteristics) :
      Wired (typeSlots type reference parameter characteristics)
  | identifierPayload {S T : Type} {symbol : Form S} {type : Form T} (named : Wired symbol)
      (inner : Wired type) : Wired (identifierPayload symbol type)
  | stringPayload {E : Type} {expression : Form E} (inner : Wired expression) :
      Wired (stringPayload expression)
  | newArrayPayload {E T : Type} {expression : Form E} {type : Form T} (inner : Wired expression)
      (item : Wired type) : Wired (newArrayPayload expression type)
  | namedItemPayload {E S : Type} {expression : Form E} {symbol : Form S}
      (inner : Wired expression) (named : Wired symbol) :
      Wired (namedItemPayload expression symbol)
  | twoOperands {E : Type} {expression : Form E} (inner : Wired expression) :
      Wired (twoOperands expression)
  | threeOperands {E : Type} {expression : Form E} (inner : Wired expression) :
      Wired (threeOperands expression)
  | expressionSlots {E S T : Type} {expression : Form E} {symbol : Form S} {type : Form T}
      (inner : Wired expression) (named : Wired symbol) (resolved : Wired type) :
      Wired (expressionSlots expression symbol type)
  | inferredCallableInformation : Wired inferredCallableInformation
  | callableInformation : Wired callableInformation
  | identifier : Wired identifier
  | typeArgument : Wired typeArgument
  | inferredExpressionInformation : Wired inferredExpressionInformation
  | comments : Wired comments
  | modifiers : Wired modifiers
  | source : Wired source
  | localSymbol : Wired localSymbol
  | declarationAttribute : Wired declarationAttribute
  | resolvedSignature : Wired resolvedSignature
  | specialization : Wired specialization
  | callable : Wired callable
  | customType : Wired customType
  | namespaceElement : Wired namespaceElement
  | sourceFileDocumentation : Wired sourceFileDocumentation
  | namespace_ : Wired «namespace»
  | compilation : Wired compilation
  | options : Wired options

theorem Wired.regular {α : Type} {form : Form α} (wired : Wired form) :
    Regular grammar form := by
  induction wired with
  | integer _ | double | boolean | text _ | choice _ | node _ => exact .leaf trivial rfl
  | optional _ ih => exact .intro trivial (List.forall_mem_singleton.mpr ih)
  | list _ ih => exact .list ih
  | shape node => exact regular_shape node
  | position => exact regular_position
  | range => exact regular_range
  | location => exact regular_location
  | qualifiedName => exact regular_qualifiedName
  | userDefinedType => exact regular_userDefinedType
  | typeParameter => exact regular_typeParameter
  | setOperation _ operand => exact regular_setOperation operand
  | characteristicsSlots _ operand => exact regular_characteristicsSlots operand
  | operationType _ _ inner own => exact regular_operationType inner own
  | functionType _ inner => exact regular_functionType inner
  | typeSlots _ _ _ _ inner named own callable => exact regular_typeSlots inner named own callable
  | identifierPayload _ _ named inner => exact regular_identifierPayload named inner
  | stringPayload _ inner => exact regular_stringPayload inner
  | newArrayPayload _ _ inner item => exact regular_newArrayPayload inner item
  | namedItemPayload _ _ inner named => exact regular_namedItemPayload inner named
  | twoOperands _ inner => exact regular_twoOperands inner
  | threeOperands _ inner => exact regular_threeOperands inner
  | expressionSlots _ _ _ inner named resolved => exact regular_expressionSlots inner named resolved
  | inferredCallableInformation => exact regular_inferredCallableInformation
  | callableInformation => exact regular_callableInformation
  | identifier => exact regular_identifier
  | typeArgument => exact regular_typeArgument
  | inferredExpressionInformation => exact regular_inferredExpressionInformation
  | comments => exact regular_comments
  | modifiers => exact regular_modifiers
  | source => exact regular_source
  | localSymbol => exact regular_localSymbol
  | declarationAttribute => exact regular_declarationAttribute
  | resolvedSignature => exact regular_resolvedSignature
  | specialization => exact regular_specialization
  | callable => exact regular_callable
  | customType => exact regular_customType
  | namespaceElement => exact regular_namespaceElement
  | sourceFileDocumentation => exact regular_sourceFileDocumentation
  | namespace_ => exact regular_namespace
  | compilation => exact regular_compilation
  | options => exact regular_options

end Wire.Format

end WireTree
