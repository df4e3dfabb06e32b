import WireTree.Proofs.Kinds.Active

/-!
# The kinds that faults report

Whatever decoding reports of a document, the kind that it names is the text that the document gives
for the kind of a union that counts.
Main statement: `kinds_verbatim`.
-/

namespace WireTree.Wire.Format

open WireTree.Format
open Json (Outline)

variable {limit : Nat}

/-- A fault of a union is its own or that of a part in the slot that counts. -/
theorem exists_of_mem_unionFaults {κ S P : Type} [SlotTag κ S] {own : Option Fault}
    {kind : Discriminator κ} {contents : S → List P} {faults : P → List Fault} {fault : Fault}
    (member : fault ∈ unionFaults own ((kind.slot?.elim [] contents).flatMap faults)) :
    own = some fault ∨ ∃ s, kind.slot? = some s ∧ ∃ part ∈ contents s, fault ∈ faults part := by
  cases own with
  | some first =>
    have same : fault = first := by simpa [unionFaults] using member
    exact .inl (congrArg some same.symm)
  | none =>
    right
    cases selected : kind.slot? with
    | none => simp [unionFaults, selected] at member
    | some s =>
      have inside : ∃ part ∈ contents s, fault ∈ faults part := by
        simpa [unionFaults, selected] using member
      exact ⟨s, rfl, inside⟩

/-- A union without parts has no fault but its own. -/
theorem eq_some_of_mem_unionFaults {own : Option Fault} {fault : Fault}
    (member : fault ∈ unionFaults own []) : own = some fault := by
  cases own with
  | some first =>
    have same : fault = first := by simpa [unionFaults] using member
    exact congrArg some same.symm
  | none => cases member

/-! ## Characteristics -/

theorem traced_setOperation
    (operand : Traced limit characteristics ResolvedCharacteristics.faults) :
    Traced limit (setOperation characteristics)
      fun operation =>
        [operation.left, operation.right].flatMap ResolvedCharacteristics.faults := by
  refine Traced.mono (.record (by decide) (by decide) ?_)
  intro inner small o values taken fault member
  obtain ⟨takenLeft, takenRight, -⟩ := taken
  obtain ⟨c, inside, member⟩ := List.mem_flatMap.mp member
  rcases List.mem_pair.mp inside with rfl | rfl
  · exact ⟨_, .required operand small takenLeft member (by simp)⟩
  · exact ⟨_, .required operand small takenRight member (by simp)⟩

theorem traced_characteristicsSlots
    (operand : Traced limit characteristics ResolvedCharacteristics.faults) :
    Traced limit (characteristicsSlots characteristics)
      (CharacteristicsSlots.faultsWith ResolvedCharacteristics.faults) := by
  refine Traced.mono (.union (by decide) (by simp [unionRecords]) ?_ ?_)
  · intro kind
    cases kind <;> exact nofun
  · intro inner small o kind values taken fault member
    obtain ⟨-, takenOperation, -⟩ := taken
    rcases exists_of_mem_unionFaults member with own | ⟨s, selected, c, inside, member⟩
    · exact .inr (.inl ⟨_, own⟩)
    · refine .inr (.inr ⟨s, selected, ?_⟩)
      cases s with
      | simpleSet => cases inside
      | setOperation =>
        obtain ⟨operation, held, inside⟩ := exists_of_mem_elim inside
        exact .optional (traced_setOperation operand) small takenOperation held
          (List.mem_flatMap.mpr ⟨c, inside, member⟩) (by simp [SlotTag.field])

theorem traced_callableInformation
    (operand : Traced limit characteristics ResolvedCharacteristics.faults) :
    Traced limit callableInformation CallableInformation.faults := by
  refine Traced.mono (.record (by decide) (by decide) ?_)
  intro inner small o values taken fault member
  obtain ⟨takenCharacteristics, -⟩ := taken
  exact ⟨_, .required operand small takenCharacteristics member (by simp)⟩

/-! ## Types -/

section Types

variable (operand : Traced limit characteristics ResolvedCharacteristics.faults)
  (type : Traced limit resolvedType ResolvedType.faults)
include operand type

theorem traced_operationType :
    Traced limit (operationType resolvedType callableInformation) fun operation =>
      [.type operation.domain, .type operation.codomain,
        .characteristics operation.characteristics].flatMap
          (typePartFaults ResolvedType.faults) := by
  refine Traced.mono (.record (by decide) (by decide) ?_)
  intro inner small o values taken fault member
  obtain ⟨takenDomain, takenCodomain, takenCharacteristics, -⟩ := taken
  obtain ⟨part, inside, member⟩ := List.mem_flatMap.mp member
  have known := traced_callableInformation operand
  simp only [List.mem_cons, List.not_mem_nil, or_false] at inside
  rcases inside with rfl | rfl | rfl
  · exact ⟨_, .required type small takenDomain member (by simp)⟩
  · exact ⟨_, .required type small takenCodomain member (by simp)⟩
  · exact ⟨_, .required known small takenCharacteristics member (by simp)⟩

omit operand in
theorem traced_functionType :
    Traced limit (functionType resolvedType) fun function =>
      [.type function.domain, .type function.codomain].flatMap
        (typePartFaults ResolvedType.faults) := by
  refine Traced.mono (.record (by decide) (by decide) ?_)
  intro inner small o values taken fault member
  obtain ⟨takenDomain, takenCodomain, -⟩ := taken
  obtain ⟨part, inside, member⟩ := List.mem_flatMap.mp member
  rcases List.mem_pair.mp inside with rfl | rfl
  · exact ⟨_, .required type small takenDomain member (by simp)⟩
  · exact ⟨_, .required type small takenCodomain member (by simp)⟩

theorem traced_typeSlots :
    Traced limit (typeSlots resolvedType userDefinedType typeParameter callableInformation)
      (TypeSlots.faultsWith (typePartFaults ResolvedType.faults)) := by
  refine Traced.mono (.union (by decide) (by simp [unionRecords]) ?_ ?_)
  · intro kind
    cases kind <;> exact nofun
  · intro inner small o kind values taken fault member
    obtain ⟨takenArray, takenTuple, -, -, takenOperation, takenFunction, -⟩ := taken
    rcases exists_of_mem_unionFaults member with own | ⟨s, selected, part, inside, member⟩
    · exact .inr (.inl ⟨_, own⟩)
    · refine .inr (.inr ⟨s, selected, ?_⟩)
      cases s with
      | arrayType =>
        obtain ⟨item, held, inside⟩ := exists_of_mem_elim inside
        cases List.mem_singleton.mp inside
        exact .optional type small takenArray held member (by simp [SlotTag.field])
      | tupleType =>
        obtain ⟨items, held, inside⟩ := exists_of_mem_elim inside
        obtain ⟨item, listed, rfl⟩ := List.mem_map.mp inside
        exact .optional type.list small takenTuple held
          (List.mem_flatMap.mpr ⟨item, listed, member⟩) (by simp [SlotTag.field])
      | userDefinedType =>
        obtain ⟨reference, -, inside⟩ := exists_of_mem_elim inside
        cases List.mem_singleton.mp inside
        cases member
      | typeParameter =>
        obtain ⟨parameter, -, inside⟩ := exists_of_mem_elim inside
        cases List.mem_singleton.mp inside
        cases member
      | operation =>
        obtain ⟨operation, held, inside⟩ := exists_of_mem_elim inside
        exact .optional (traced_operationType operand type) small takenOperation held
          (List.mem_flatMap.mpr ⟨part, inside, member⟩) (by simp [SlotTag.field])
      | function =>
        obtain ⟨function, held, inside⟩ := exists_of_mem_elim inside
        exact .optional (traced_functionType type) small takenFunction held
          (List.mem_flatMap.mpr ⟨part, inside, member⟩) (by simp [SlotTag.field])

end Types

/-! ## Expressions -/

theorem traced_identifier : Traced limit identifier Identifier.faults := by
  refine Traced.mono (.union (by decide) (by simp [unionRecords]) ?_ ?_)
  · intro kind
    cases kind <;> exact nofun
  · intro inner small o kind values taken fault member
    exact .inr (.inl ⟨_, eq_some_of_mem_unionFaults member⟩)

section Expressions

variable (type : Traced limit resolvedType ResolvedType.faults)
  (expression : Traced limit typedExpression TypedExpression.faults)

include type in
theorem traced_identifierPayload :
    Traced limit (identifierPayload identifier resolvedType) fun payload =>
      (.symbol payload.symbol :: payload.types.elim [] fun types => types.map .type).flatMap
        (expressionPartFaults TypedExpression.faults) := by
  refine Traced.mono (.record (by decide) (by decide) ?_)
  intro inner small o values taken fault member
  obtain ⟨takenSymbol, takenTypes, -⟩ := taken
  obtain ⟨part, inside, member⟩ := List.mem_flatMap.mp member
  rcases List.mem_cons.mp inside with rfl | inside
  · exact ⟨_, .required traced_identifier small takenSymbol member (by simp)⟩
  · obtain ⟨types, held, inside⟩ := exists_of_mem_elim inside
    obtain ⟨t, listed, rfl⟩ := List.mem_map.mp inside
    have member := List.mem_flatMap.mpr ⟨t, listed, member⟩
    exact ⟨_, .optional type.list small takenTypes held member (by simp)⟩

include expression in
theorem traced_stringPayload :
    Traced limit (stringPayload typedExpression) fun payload =>
      (payload.expressions.map .expression).flatMap
        (expressionPartFaults TypedExpression.faults) := by
  refine Traced.mono (.record (by decide) (by decide) ?_)
  intro inner small o values taken fault member
  obtain ⟨-, takenExpressions, -⟩ := taken
  rw [List.flatMap_map] at member
  exact ⟨_, .defaulted expression.list small takenExpressions rfl member (by simp)⟩

include type expression in
theorem traced_newArrayPayload :
    Traced limit (newArrayPayload typedExpression resolvedType) fun payload =>
      [.type payload.type, .expression payload.length].flatMap
        (expressionPartFaults TypedExpression.faults) := by
  refine Traced.mono (.record (by decide) (by decide) ?_)
  intro inner small o values taken fault member
  obtain ⟨takenType, takenLength, -⟩ := taken
  obtain ⟨part, inside, member⟩ := List.mem_flatMap.mp member
  rcases List.mem_pair.mp inside with rfl | rfl
  · exact ⟨_, .required type small takenType member (by simp)⟩
  · exact ⟨_, .required expression small takenLength member (by simp)⟩

include expression in
theorem traced_namedItemPayload :
    Traced limit (namedItemPayload typedExpression identifier) fun payload =>
      [.expression payload.accessed, .symbol payload.symbol].flatMap
        (expressionPartFaults TypedExpression.faults) := by
  refine Traced.mono (.record (by decide) (by decide) ?_)
  intro inner small o values taken fault member
  obtain ⟨takenAccessed, takenSymbol, -⟩ := taken
  obtain ⟨part, inside, member⟩ := List.mem_flatMap.mp member
  rcases List.mem_pair.mp inside with rfl | rfl
  · exact ⟨_, .required expression small takenAccessed member (by simp)⟩
  · exact ⟨_, .required traced_identifier small takenSymbol member (by simp)⟩

include expression in
theorem traced_twoOperands :
    Traced limit (twoOperands typedExpression) fun operands =>
      [.expression operands.first, .expression operands.second].flatMap
        (expressionPartFaults TypedExpression.faults) := by
  refine Traced.mono (.record (by decide) (by decide) ?_)
  intro inner small o values taken fault member
  obtain ⟨takenFirst, takenSecond, -⟩ := taken
  obtain ⟨part, inside, member⟩ := List.mem_flatMap.mp member
  rcases List.mem_pair.mp inside with rfl | rfl
  · exact ⟨_, .required expression small takenFirst member (by simp)⟩
  · exact ⟨_, .required expression small takenSecond member (by simp)⟩

include expression in
theorem traced_threeOperands :
    Traced limit (threeOperands typedExpression) fun operands =>
      [.expression operands.first, .expression operands.second,
        .expression operands.third].flatMap (expressionPartFaults TypedExpression.faults) := by
  refine Traced.mono (.record (by decide) (by decide) ?_)
  intro inner small o values taken fault member
  obtain ⟨takenFirst, takenSecond, takenThird, -⟩ := taken
  obtain ⟨part, inside, member⟩ := List.mem_flatMap.mp member
  simp only [List.mem_cons, List.not_mem_nil, or_false] at inside
  rcases inside with rfl | rfl | rfl
  · exact ⟨_, .required expression small takenFirst member (by simp)⟩
  · exact ⟨_, .required expression small takenSecond member (by simp)⟩
  · exact ⟨_, .required expression small takenThird member (by simp)⟩

/-- The own fault of an expression union is of its kind, or is that of a scalar. -/
theorem own_of_ownFault {E S T : Type} {slots : ExpressionSlots E S T} {fault : Fault}
    (own : slots.ownFault = some fault) :
    (∃ scalar reason, fault = .malformed scalar reason) ∨
      ∃ holds : ExpressionSlot → Bool, slots.kind.fault? holds = some fault := by
  unfold ExpressionSlots.ownFault at own
  split at own
  · cases own
    exact .inl ⟨_, _, rfl⟩
  · exact .inr ⟨_, own⟩

include type expression in
theorem traced_expressionSlots :
    Traced limit (expressionSlots typedExpression identifier resolvedType)
      (ExpressionSlots.faultsWith (expressionPartFaults TypedExpression.faults)) := by
  refine Traced.mono (.union (by decide) (by simp [unionRecords]) ?_ ?_)
  · intro kind
    cases kind <;> simp [SlotTag.demand, Named.name]
  · intro inner small o kind values taken fault member
    obtain ⟨takenIdentifier, -, -, -, -, takenString, -, -, takenArray, takenItem, takenSingle,
      takenDouble, takenTriple, takenItems, -⟩ := taken
    rcases exists_of_mem_unionFaults member with own | ⟨s, selected, part, inside, member⟩
    · rcases own_of_ownFault own with malformed | own
      · exact .inl malformed
      · exact .inr (.inl own)
    · refine .inr (.inr ⟨s, selected, ?_⟩)
      have member {parts : List (ExpressionPart TypedExpression Identifier ResolvedType)}
          (inside : part ∈ parts) :
          fault ∈ parts.flatMap (expressionPartFaults TypedExpression.faults) :=
        List.mem_flatMap.mpr ⟨part, inside, member⟩
      cases s with
      | identifier =>
        obtain ⟨payload, held, inside⟩ := exists_of_mem_elim inside
        exact .optional (traced_identifierPayload type) small takenIdentifier held (member inside)
          (by simp [SlotTag.field])
      | stringLiteral =>
        obtain ⟨payload, held, inside⟩ := exists_of_mem_elim inside
        exact .optional (traced_stringPayload expression) small takenString held (member inside)
          (by simp [SlotTag.field])
      | newArray =>
        obtain ⟨payload, held, inside⟩ := exists_of_mem_elim inside
        exact .optional (traced_newArrayPayload type expression) small takenArray held
          (member inside) (by simp [SlotTag.field])
      | namedItem =>
        obtain ⟨payload, held, inside⟩ := exists_of_mem_elim inside
        exact .optional (traced_namedItemPayload expression) small takenItem held (member inside)
          (by simp [SlotTag.field])
      | expressionSingle =>
        obtain ⟨operand, held, inside⟩ := exists_of_mem_elim inside
        have member := member inside
        rw [List.flatMap_singleton] at member
        exact .optional expression small takenSingle held member (by simp [SlotTag.field])
      | expressionDouble =>
        obtain ⟨operands, held, inside⟩ := exists_of_mem_elim inside
        exact .optional (traced_twoOperands expression) small takenDouble held (member inside)
          (by simp [SlotTag.field])
      | expressionTriple =>
        obtain ⟨operands, held, inside⟩ := exists_of_mem_elim inside
        exact .optional (traced_threeOperands expression) small takenTriple held (member inside)
          (by simp [SlotTag.field])
      | expressionArray =>
        obtain ⟨items, held, inside⟩ := exists_of_mem_elim inside
        have member := member inside
        rw [List.flatMap_map] at member
        exact .optional expression.list small takenItems held member (by simp [SlotTag.field])
      | _ => cases inside

include type in
theorem traced_typeArgument : Traced limit typeArgument fun argument => argument.type.faults := by
  refine Traced.mono (.record (by decide) (by decide) ?_)
  intro inner small o values taken fault member
  obtain ⟨-, -, takenType, -⟩ := taken
  exact ⟨_, .required type small takenType member (by simp)⟩

end Expressions

/-! ## The recursive types -/

/-- A node is read by its shape. -/
theorem Traced.node {node : Node} {faults : node.Carrier → List Fault}
    (traced : Traced limit (.shape (shape node)) faults) :
    Traced limit (.node node) faults := by
  intro depth small o a read fault member
  replace read := (Grammar.read_node node).symm.trans read
  exact (traced depth small o a read fault member).imp fun _ _ => .node

theorem traced_nodes (limit : Nat) :
    Traced limit characteristics ResolvedCharacteristics.faults ∧
      Traced limit resolvedType ResolvedType.faults ∧
      Traced limit typedExpression TypedExpression.faults := by
  induction limit with
  | zero => exact ⟨nofun, nofun, nofun⟩
  | succ limit ih =>
    obtain ⟨operand, type, expression⟩ := ih
    refine ⟨.node (.record (by decide) (by decide) ?_), .node (.record (by decide) (by decide) ?_),
      .node (.record (by decide) (by decide) ?_)⟩
    · intro inner small o values taken fault member
      obtain ⟨takenSlots, -⟩ := taken
      replace member := ResolvedCharacteristics.faults_mk _ ▸ member
      exact ⟨_, .required (traced_characteristicsSlots operand) small takenSlots member (by simp)⟩
    · intro inner small o values taken fault member
      obtain ⟨takenSlots, -⟩ := taken
      replace member := ResolvedType.faults_mk _ ▸ member
      exact ⟨_, .required (traced_typeSlots operand type) small takenSlots member (by simp)⟩
    · intro inner small o values taken fault member
      obtain ⟨takenSlots, takenArguments, takenType, -⟩ := taken
      replace member := TypedExpression.faults_mk _ ▸ member
      rcases List.mem_append.mp member with member | member
      · rcases List.mem_append.mp member with member | member
        · exact ⟨_, .required (traced_expressionSlots type expression) small takenSlots member
            (by simp)⟩
        · exact ⟨_, .defaulted (traced_typeArgument type).list small takenArguments rfl member
            (by simp)⟩
      · exact ⟨_, .required type small takenType member (by simp)⟩

theorem traced_characteristics : Traced limit characteristics ResolvedCharacteristics.faults :=
  (traced_nodes limit).1

theorem traced_resolvedType : Traced limit resolvedType ResolvedType.faults :=
  (traced_nodes limit).2.1

theorem traced_typedExpression : Traced limit typedExpression TypedExpression.faults :=
  (traced_nodes limit).2.2

/-! ## Declarations -/

theorem traced_localSymbol : Traced limit localSymbol LocalSymbol.faults := by
  refine Traced.mono (.union (by decide) (by simp [unionRecords]) ?_ ?_)
  · intro kind
    cases kind <;> exact nofun
  · intro inner small o kind values taken fault member
    exact .inr (.inl ⟨_, eq_some_of_mem_unionFaults member⟩)

theorem traced_declarationAttribute :
    Traced limit declarationAttribute DeclarationAttribute.faults := by
  refine Traced.mono (.record (by decide) (by decide) ?_)
  intro inner small o values taken fault member
  obtain ⟨-, -, takenArgument, -⟩ := taken
  exact ⟨_, .required traced_typedExpression small takenArgument member (by simp)⟩

theorem traced_resolvedSignature : Traced limit resolvedSignature ResolvedSignature.faults := by
  refine Traced.mono (.record (by decide) (by decide) ?_)
  intro inner small o values taken fault member
  obtain ⟨takenParameters, takenArgument, takenReturn, takenInformation, -⟩ := taken
  have information : Traced limit callableInformation CallableInformation.faults :=
    traced_callableInformation traced_characteristics
  rcases List.mem_append.mp member with member | member
  · exact ⟨_, .defaulted traced_localSymbol.list small takenParameters rfl member (by simp)⟩
  rcases List.mem_append.mp member with member | member
  · exact ⟨_, .required traced_resolvedType small takenArgument member (by simp)⟩
  rcases List.mem_append.mp member with member | member
  · exact ⟨_, .required traced_resolvedType small takenReturn member (by simp)⟩
  · exact ⟨_, .required information small takenInformation member (by simp)⟩

theorem traced_specialization : Traced limit specialization Specialization.faults := by
  refine Traced.mono (.record (by decide) (by decide) ?_)
  intro inner small o values taken fault member
  obtain ⟨-, -, takenAttributes, -, -, takenTypes, -⟩ := taken
  rcases List.mem_append.mp member with member | member
  · exact ⟨_, .defaulted traced_declarationAttribute.list small takenAttributes rfl member
      (by simp)⟩
  · obtain ⟨types, held, member⟩ := exists_of_mem_elim member
    exact ⟨_, .optional traced_resolvedType.list small takenTypes held member (by simp)⟩

theorem traced_callable : Traced limit callable Callable.faults := by
  refine Traced.mono (.record (by decide) (by decide) ?_)
  intro inner small o values taken fault member
  obtain ⟨-, -, takenAttributes, -, -, -, takenSignature, takenSpecializations, -⟩ := taken
  rcases List.mem_append.mp member with member | member
  · exact ⟨_, .defaulted traced_declarationAttribute.list small takenAttributes rfl member
      (by simp)⟩
  rcases List.mem_append.mp member with member | member
  · exact ⟨_, .required traced_resolvedSignature small takenSignature member (by simp)⟩
  · exact ⟨_, .defaulted traced_specialization.list small takenSpecializations rfl member
      (by simp)⟩

theorem traced_customType : Traced limit customType CustomType.faults := by
  refine Traced.mono (.record (by decide) (by decide) ?_)
  intro inner small o values taken fault member
  obtain ⟨-, takenAttributes, -, -, -, takenType, -⟩ := taken
  rcases List.mem_append.mp member with member | member
  · exact ⟨_, .defaulted traced_declarationAttribute.list small takenAttributes rfl member
      (by simp)⟩
  · exact ⟨_, .required traced_resolvedType small takenType member (by simp)⟩

theorem traced_namespaceElement : Traced limit namespaceElement NamespaceElement.faults := by
  refine Traced.mono (.union (by decide) (by simp [unionRecords]) ?_ ?_)
  · intro kind
    cases kind <;> exact nofun
  · intro inner small o kind values taken fault member
    obtain ⟨takenCallable, takenType, -⟩ := taken
    rcases exists_of_mem_unionFaults member with own | ⟨s, selected, declared, inside, member⟩
    · exact .inr (.inl ⟨_, own⟩)
    · refine .inr (.inr ⟨s, selected, ?_⟩)
      cases s with
      | callable =>
        obtain ⟨c, held, inside⟩ := exists_of_mem_elim inside
        cases List.mem_singleton.mp inside
        exact .optional traced_callable small takenCallable held member (by simp [SlotTag.field])
      | customType =>
        obtain ⟨t, held, inside⟩ := exists_of_mem_elim inside
        cases List.mem_singleton.mp inside
        exact .optional traced_customType small takenType held member (by simp [SlotTag.field])

theorem traced_namespace : Traced limit «namespace» Namespace.faults := by
  refine Traced.mono (.record (by decide) (by decide) ?_)
  intro inner small o values taken fault member
  obtain ⟨-, takenElements, -⟩ := taken
  exact ⟨_, .defaulted traced_namespaceElement.list small takenElements rfl member (by simp)⟩

theorem traced_compilation : Traced limit compilation Compilation.faults := by
  refine Traced.mono (.record (by decide) (by decide) ?_)
  intro inner small o values taken fault member
  obtain ⟨takenNamespaces, -⟩ := taken
  exact ⟨_, .defaulted traced_namespace.list small takenNamespaces rfl member (by simp)⟩

/-! ## Texts -/

/-- Whatever fault is reported of a text that is read by a form is accounted for by the document. -/
def ReportsVerbatim {α β : Type} (form : Form α) (decode : α → Decoded β) : Prop :=
  ∀ text a, grammar.readText form text = .ok a → ∀ fault, decode a = .error fault →
    Accounted form (Json.Document.ofText text).root fault

theorem Traced.reportsVerbatim {α β : Type} {form : Form α} {decode : α → Decoded β}
    {faults : α → List Fault} (traced : ∀ limit, Traced limit form faults)
    (reports : ∀ a, Reports (decode a) (faults a)) : ReportsVerbatim form decode := by
  intro text a read fault reported
  have read := Grammar.read_of_readText read
  have first := ((reports a).iff.1 fault).mp reported
  exact traced _ Grammar.maxDepth (Nat.lt_succ_self _) _ a read fault (List.mem_of_mem_head? first)

/-- The texts of kinds are carried verbatim: a kind is the text that is read for it, known exactly
if it is the name of a kind. So the kind in what decoding reports of a text is the one that the text
gives in a union of that name which counts; it is known if the union is inconsistent, and otherwise
it is unknown or one of the two that trees have no place for. -/
theorem kinds_verbatim :
    (Verbatim CharacteristicsTag ∧ Verbatim TypeTag ∧ Verbatim ExpressionTag ∧
      Verbatim IdentifierTag ∧ Verbatim LocalSymbolTag ∧ Verbatim NamespaceElementTag) ∧
      ReportsVerbatim compilation Compilation.decode ∧
      ReportsVerbatim «namespace» Namespace.decode ∧
      ReportsVerbatim namespaceElement NamespaceElement.decode ∧
      ReportsVerbatim callable Callable.decode ∧
      ReportsVerbatim customType CustomType.decode ∧
      ReportsVerbatim specialization Specialization.decode ∧
      ReportsVerbatim resolvedSignature ResolvedSignature.decode ∧
      ReportsVerbatim declarationAttribute DeclarationAttribute.decode ∧
      ReportsVerbatim localSymbol LocalSymbol.decode ∧
      ReportsVerbatim typedExpression TypedExpression.decode ∧
      ReportsVerbatim typeArgument decodeTypeArgument ∧
      ReportsVerbatim identifier Identifier.decode ∧
      ReportsVerbatim resolvedType ResolvedType.decode ∧
      ReportsVerbatim callableInformation CallableInformation.decode ∧
      ReportsVerbatim characteristics ResolvedCharacteristics.decode := by
  refine ⟨⟨verbatim, verbatim, verbatim, verbatim, verbatim, verbatim⟩, ?_, ?_, ?_, ?_, ?_, ?_, ?_,
    ?_, ?_, ?_, ?_, ?_, ?_, ?_, ?_⟩
  · exact Traced.reportsVerbatim (fun _ => traced_compilation) Compilation.decode_reports
  · exact Traced.reportsVerbatim (fun _ => traced_namespace) Namespace.decode_reports
  · exact Traced.reportsVerbatim (fun _ => traced_namespaceElement) NamespaceElement.decode_reports
  · exact Traced.reportsVerbatim (fun _ => traced_callable) Callable.decode_reports
  · exact Traced.reportsVerbatim (fun _ => traced_customType) CustomType.decode_reports
  · exact Traced.reportsVerbatim (fun _ => traced_specialization) Specialization.decode_reports
  · exact Traced.reportsVerbatim (fun _ => traced_resolvedSignature)
      ResolvedSignature.decode_reports
  · exact Traced.reportsVerbatim (fun _ => traced_declarationAttribute)
      DeclarationAttribute.decode_reports
  · exact Traced.reportsVerbatim (fun _ => traced_localSymbol) LocalSymbol.decode_reports
  · exact Traced.reportsVerbatim (fun _ => traced_typedExpression) TypedExpression.decode_reports
  · exact Traced.reportsVerbatim (fun _ => traced_typeArgument traced_resolvedType)
      decodeTypeArgument_reports
  · exact Traced.reportsVerbatim (fun _ => traced_identifier) Identifier.decode_reports
  · exact Traced.reportsVerbatim (fun _ => traced_resolvedType) ResolvedType.decode_reports
  · exact Traced.reportsVerbatim (fun _ => traced_callableInformation traced_characteristics)
      CallableInformation.decode_reports
  · exact Traced.reportsVerbatim (fun _ => traced_characteristics)
      ResolvedCharacteristics.decode_reports

/-- The kind of a symbol that differs from a name in one letter is none of the known ones, and it is
reported as the text gives it. -/
theorem kinds_verbatim_near_miss :
    let text := "\x7b\"kind\":\"validname\"\x7d"
    let symbol : LocalSymbol := ⟨.unrecognized "validname", none⟩
    let fault : Fault := .unsupported "LocalSymbol" "validname"
    grammar.readText localSymbol text = .ok symbol ∧ symbol.decode = .error fault ∧
      Accounted localSymbol (Json.Document.ofText text).root fault ∧
      (Discriminator.ofText "validname" : Discriminator LocalSymbolTag) ≠ .known .validName := by
  intro text symbol fault
  obtain ⟨⟨-, -, -, -, verbatim, -⟩, -, -, -, -, -, -, -, -, reports, -⟩ := kinds_verbatim
  have read : grammar.readText localSymbol text = .ok symbol := by decide +kernel
  have faulty : symbol.decode = .error fault := rfl
  refine ⟨read, faulty, reports text symbol read fault faulty, ?_⟩
  intro known
  have named := (verbatim.known_iff "validname" .validName).mp known
  exact absurd named (by decide)

end WireTree.Wire.Format
