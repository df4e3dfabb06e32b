import WireTree.Proofs.Depth.Chains
import WireTree.Proofs.Records.Wire

/-!
# Where the types of the wire lead to nodes

Each node is behind two containers or more, except that the type of an expression is behind one; so
an expression and a type may be nested one deeper than types alone.
Main statements: `leads_shape`, `Wired.leads`.
-/

namespace WireTree

section Leads

variable {ι : Type} {K : ι → Type} {allowed : Nat → ι → Prop} {opened : Nat} {α σ τ : Type}
  {schema : Schema K α} {key name : String} {fields : Fields (Schema K) σ τ} {make : τ → α}

theorem Schema.Leads.record (distinct : fields.keys.Nodup) (keeps : Function.Injective make)
    (leads : fields.Leads allowed (opened + 1)) :
    (Format.record name fields make).Leads allowed opened :=
  .inr ⟨⟨distinct, keeps⟩, leads⟩

namespace Fields.Leads

theorem nil : (nil : Fields (Schema K) Unit Unit).Leads allowed opened := trivial

theorem required (first : schema.Leads allowed opened) (others : fields.Leads allowed opened) :
    (Format.required key schema fields).Leads allowed opened :=
  ⟨⟨first, nofun⟩, others⟩

theorem optional (first : schema.Leads allowed opened) (others : fields.Leads allowed opened) :
    (Format.optional key schema fields).Leads allowed opened := by
  refine ⟨⟨first, ?_⟩, others⟩
  rintro a absent x ⟨b, present, -⟩
  cases absent
  cases present

theorem defaulted {default : α} (nothing : ∀ x, ¬ schema.Contains x default)
    (first : schema.Leads allowed opened) (others : fields.Leads allowed opened) :
    (Format.defaulted key default schema fields).Leads allowed opened := by
  refine ⟨⟨first, ?_⟩, others⟩
  rintro a absent x contains
  cases absent
  exact nothing x contains

/-- The empty list contains no node. -/
theorem defaulted_list (first : schema.Leads allowed (opened + 1))
    (others : fields.Leads allowed opened) :
    (Format.defaulted key [] (Format.list schema) fields).Leads allowed opened :=
  defaulted (by rintro x ⟨a, member, -⟩; cases member) first others

/-- A field that mentions no nodes. -/
theorem nodeless {presence : Presence α} (nodeless : schema.nodeless = true)
    (first : schema.Leads allowed opened) (others : fields.Leads allowed opened) :
    (cons key presence schema fields).Leads allowed opened :=
  ⟨⟨first, fun a _ _ => schema.not_contains nodeless a⟩, others⟩

end Fields.Leads

end Leads

namespace Wire.Format

open WireTree.Format

section Payloads

variable {ι : Type} {K : ι → Type} {allowed : Nat → ι → Prop} {n : Nat} {T U P C E S : Type}
  {type : Schema K T} {reference : Schema K U} {parameter : Schema K P}
  {characteristics : Schema K C} {expression : Schema K E} {symbol : Schema K S}

theorem leads_setOperation (operand : ∀ m > n, characteristics.Leads allowed m) :
    (setOperation characteristics).Leads allowed n := by
  have inside := operand (n + 1) (by omega)
  exact .record (by simp) (by rintro ⟨_, _, _⟩ ⟨_, _, _⟩ ⟨⟩; rfl) <|
    .required inside <| .required inside .nil

theorem leads_characteristicsSlots (operand : ∀ m > n, characteristics.Leads allowed m) :
    (characteristicsSlots characteristics).Leads allowed n := by
  have operation := leads_setOperation (n := n + 1) fun m deep => operand m (by omega)
  exact .record (by simp) (by rintro ⟨_, _, _, _⟩ ⟨_, _, _, _⟩ ⟨⟩; rfl) <|
    .nodeless rfl trivial <| .nodeless rfl trivial <| .optional operation .nil

theorem leads_operationType (inner : ∀ m > n, type.Leads allowed m)
    (own : ∀ m > n, characteristics.Leads allowed m) :
    (operationType type characteristics).Leads allowed n := by
  have inside := inner (n + 1) (by omega)
  exact .record (by simp) (by rintro ⟨_, _, _, _⟩ ⟨_, _, _, _⟩ ⟨⟩; rfl) <|
    .required inside <| .required inside <| .required (own _ (by omega)) .nil

theorem leads_functionType (inner : ∀ m > n, type.Leads allowed m) :
    (functionType type).Leads allowed n := by
  have inside := inner (n + 1) (by omega)
  exact .record (by simp) (by rintro ⟨_, _, _⟩ ⟨_, _, _⟩ ⟨⟩; rfl) <|
    .required inside <| .required inside .nil

theorem leads_typeSlots (inner : ∀ m > n, type.Leads allowed m)
    (named : ∀ m > n, reference.Leads allowed m) (own : ∀ m > n, parameter.Leads allowed m)
    (callable : ∀ m > n, characteristics.Leads allowed m) :
    (typeSlots type reference parameter characteristics).Leads allowed n := by
  have operation := leads_operationType (n := n + 1) (fun m deep => inner m (by omega))
    fun m deep => callable m (by omega)
  have function := leads_functionType (n := n + 1) fun m deep => inner m (by omega)
  exact .record (by simp) (by rintro ⟨_, _, _, _, _, _, _, _⟩ ⟨_, _, _, _, _, _, _, _⟩ ⟨⟩; rfl) <|
    .nodeless rfl trivial <| .optional (inner _ (by omega)) <|
    .optional (inner (n + 1 + 1) (by omega)) <| .optional (named _ (by omega)) <|
    .optional (own _ (by omega)) <| .optional operation <| .optional function .nil

theorem leads_identifierPayload (named : ∀ m > n, symbol.Leads allowed m)
    (inner : ∀ m > n, type.Leads allowed m) : (identifierPayload symbol type).Leads allowed n := by
  have types := inner (n + 1 + 1) (by omega)
  exact .record (by simp) (by rintro ⟨_, _, _⟩ ⟨_, _, _⟩ ⟨⟩; rfl) <|
    .required (named _ (by omega)) <| .optional types .nil

theorem leads_stringPayload (inner : ∀ m > n, expression.Leads allowed m) :
    (stringPayload expression).Leads allowed n := by
  have items := inner (n + 1 + 1) (by omega)
  exact .record (by simp) (by rintro ⟨_, _, _⟩ ⟨_, _, _⟩ ⟨⟩; rfl) <|
    .nodeless rfl trivial <| .defaulted_list items .nil

theorem leads_newArrayPayload (inner : ∀ m > n, expression.Leads allowed m)
    (item : ∀ m > n, type.Leads allowed m) : (newArrayPayload expression type).Leads allowed n :=
  .record (by simp) (by rintro ⟨_, _, _⟩ ⟨_, _, _⟩ ⟨⟩; rfl) <|
    .required (item _ (by omega)) <| .required (inner _ (by omega)) .nil

theorem leads_namedItemPayload (inner : ∀ m > n, expression.Leads allowed m)
    (named : ∀ m > n, symbol.Leads allowed m) :
    (namedItemPayload expression symbol).Leads allowed n :=
  .record (by simp) (by rintro ⟨_, _, _⟩ ⟨_, _, _⟩ ⟨⟩; rfl) <|
    .required (inner _ (by omega)) <| .required (named _ (by omega)) .nil

theorem leads_twoOperands (inner : ∀ m > n, expression.Leads allowed m) :
    (twoOperands expression).Leads allowed n := by
  have operand := inner (n + 1) (by omega)
  exact .record (by simp) (by rintro ⟨_, _, _⟩ ⟨_, _, _⟩ ⟨⟩; rfl) <|
    .required operand <| .required operand .nil

theorem leads_threeOperands (inner : ∀ m > n, expression.Leads allowed m) :
    (threeOperands expression).Leads allowed n := by
  have operand := inner (n + 1) (by omega)
  exact .record (by simp) (by rintro ⟨_, _, _, _⟩ ⟨_, _, _, _⟩ ⟨⟩; rfl) <|
    .required operand <| .required operand <| .required operand .nil

theorem leads_expressionSlots (inner : ∀ m > n, expression.Leads allowed m)
    (named : ∀ m > n, symbol.Leads allowed m) (resolved : ∀ m > n, type.Leads allowed m) :
    (expressionSlots expression symbol type).Leads allowed n := by
  have deeper : ∀ m > n + 1, expression.Leads allowed m := fun m deep => inner m (by omega)
  have symbols : ∀ m > n + 1, symbol.Leads allowed m := fun m deep => named m (by omega)
  have types : ∀ m > n + 1, type.Leads allowed m := fun m deep => resolved m (by omega)
  exact .record (by simp) (by
      rintro ⟨_, _, _, _, _, _, _, _, _, _, _, _, _, _, _, _⟩
        ⟨_, _, _, _, _, _, _, _, _, _, _, _, _, _, _, _⟩ ⟨⟩
      rfl) <|
    .nodeless rfl trivial <| .optional (leads_identifierPayload symbols types) <|
    .nodeless rfl trivial <| .nodeless rfl trivial <| .nodeless rfl trivial <|
    .nodeless rfl trivial <| .optional (leads_stringPayload deeper) <|
    .nodeless rfl trivial <| .nodeless rfl trivial <|
    .optional (leads_newArrayPayload deeper types) <|
    .optional (leads_namedItemPayload deeper symbols) <|
    .optional (inner _ (by omega)) <| .optional (leads_twoOperands deeper) <|
    .optional (leads_threeOperands deeper) <| .optional (deeper (n + 1 + 1) (by omega)) .nil

end Payloads

/-! ## Types and expressions -/

/-- What a node has to spend beyond the containers that may still be opened. -/
def Node.bonus : Node → Nat
  | .typedExpression => 1
  | _ => 0

/-- The containers between a node and one inside it are enough for a step inwards to cost two. -/
def Costs (outer : Node) (n : Nat) (inner : Node) : Prop :=
  inner.bonus + 2 ≤ n + outer.bonus

section Nodes

variable {allowed : Nat → Node → Prop} {n : Nat}

theorem leads_callableInformation (inner : ∀ m > n, allowed m .characteristics) :
    callableInformation.Leads allowed n :=
  .record (by decide) (by rintro ⟨_, _, _⟩ ⟨_, _, _⟩ ⟨⟩; rfl) <|
    .required (inner _ (by omega)) <| .nodeless rfl (.inl rfl) .nil

theorem leads_typeArgument (inner : ∀ m > n, allowed m .resolvedType) :
    typeArgument.Leads allowed n :=
  .record (by decide) (by rintro ⟨_, _, _, _⟩ ⟨_, _, _, _⟩ ⟨⟩; rfl) <|
    .nodeless rfl (.inl rfl) <| .nodeless rfl trivial <| .required (inner _ (by omega)) .nil

/-- The operands of an expression are behind two containers, its own and that of its slots; its type
is behind one. Whatever else is nested in a node is behind two. -/
theorem leads_shape (node : Node) (costs : ∀ m inner, Costs node (m - n) inner → allowed m inner) :
    (shape node).Leads allowed n := by
  have two : ∀ m > n + 1, ∀ inner, inner.bonus ≤ node.bonus → allowed m inner := by
    intro m deep inner less
    refine costs m inner (?_ : inner.bonus + 2 ≤ m - n + node.bonus)
    omega
  cases node with
  | characteristics =>
    have slots : (characteristicsSlots characteristics).Leads allowed (n + 1) :=
      leads_characteristicsSlots fun m deep => two m deep .characteristics (Nat.le_refl _)
    exact .inr ⟨⟨by decide, by rintro ⟨_, _⟩ ⟨_, _⟩ ⟨⟩; rfl⟩, .required slots .nil⟩
  | resolvedType =>
    have inner : ∀ m > n + 1, resolvedType.Leads allowed m := fun m deep =>
      two m deep .resolvedType (Nat.le_refl _)
    have known : ∀ m > n + 1, callableInformation.Leads allowed m := fun m deep =>
      leads_callableInformation fun k deeper => two k (by omega) .characteristics (Nat.le_refl _)
    have slots : (typeSlots resolvedType userDefinedType typeParameter callableInformation).Leads
        allowed (n + 1) :=
      leads_typeSlots inner (fun _ _ => .inl rfl) (fun _ _ => .inl rfl) known
    exact .inr ⟨⟨by decide, by rintro ⟨_, _⟩ ⟨_, _⟩ ⟨⟩; rfl⟩, .required slots .nil⟩
  | typedExpression =>
    have inner : ∀ m > n + 1, typedExpression.Leads allowed m := fun m deep =>
      two m deep .typedExpression (Nat.le_refl _)
    have types : ∀ m > n, resolvedType.Leads allowed m := fun m deep =>
      costs m .resolvedType (show 0 + 2 ≤ m - n + 1 by omega)
    have slots : (expressionSlots typedExpression identifier resolvedType).Leads allowed (n + 1) :=
      leads_expressionSlots inner (fun _ _ => .inl rfl) fun m deep => types m (by omega)
    have argument : typeArgument.Leads allowed (n + 1 + 1) :=
      leads_typeArgument fun m deep => types m (by omega)
    have keeps : Function.Injective fun (expression, typeArguments, resolvedType,
        inferredInformation, range, ()) => TypedExpression.mk
          { expression, typeArguments, resolvedType, inferredInformation, range } := by
      rintro ⟨_, _, _, _, _, _⟩ ⟨_, _, _, _, _, _⟩ ⟨⟩
      rfl
    exact .inr ⟨⟨by decide, keeps⟩, .required slots <| .defaulted_list argument <|
      .required (types _ (by omega)) <| .nodeless rfl (.inl rfl) <|
      .nodeless rfl (.inl rfl) .nil⟩

end Nodes

/-! ## Declarations -/

section Declarations

variable {n : Nat}

/-- No place is excluded. -/
abbrev Anywhere (_ : Nat) (_ : Node) : Prop := True

theorem leads_declarationAttribute : declarationAttribute.Leads Anywhere n :=
  .record (by decide) (by rintro ⟨_, _, _, _, _, _⟩ ⟨_, _, _, _, _, _⟩ ⟨⟩; rfl) <|
    .nodeless rfl (.inl rfl) <| .nodeless rfl (.inl rfl) <| .required trivial <|
    .nodeless rfl (.inl rfl) <| .nodeless rfl (.inl rfl) .nil

theorem leads_resolvedSignature : resolvedSignature.Leads Anywhere n :=
  .record (by decide) (by rintro ⟨_, _, _, _, _⟩ ⟨_, _, _, _, _⟩ ⟨⟩; rfl) <|
    .nodeless rfl (.inl rfl) <| .required trivial <| .required trivial <|
    .required (leads_callableInformation fun _ _ => trivial) .nil

theorem leads_specialization : specialization.Leads Anywhere n :=
  .record (by decide) (by rintro ⟨_, _, _, _, _, _, _⟩ ⟨_, _, _, _, _, _, _⟩ ⟨⟩; rfl) <|
    .nodeless rfl trivial <| .nodeless rfl (.inl rfl) <|
    .defaulted_list leads_declarationAttribute <| .nodeless rfl (.inl rfl) <|
    .nodeless rfl (.inl rfl) <| .optional trivial .nil

theorem leads_callable : callable.Leads Anywhere n :=
  .record (by decide) (by
      rintro ⟨_, _, _, _, _, _, _, _, _, _, _⟩ ⟨_, _, _, _, _, _, _, _, _, _, _⟩ ⟨⟩
      rfl) <|
    .nodeless rfl trivial <| .nodeless rfl (.inl rfl) <|
    .defaulted_list leads_declarationAttribute <| .nodeless rfl (.inl rfl) <|
    .nodeless rfl (.inl rfl) <| .nodeless rfl (.inl rfl) <|
    .required leads_resolvedSignature <| .defaulted_list leads_specialization <|
    .nodeless rfl trivial <| .nodeless rfl (.inl rfl) .nil

theorem leads_customType : customType.Leads Anywhere n :=
  .record (by decide) (by rintro ⟨_, _, _, _, _, _, _, _, _⟩ ⟨_, _, _, _, _, _, _, _, _⟩ ⟨⟩; rfl) <|
    .nodeless rfl (.inl rfl) <| .defaulted_list leads_declarationAttribute <|
    .nodeless rfl (.inl rfl) <| .nodeless rfl (.inl rfl) <| .nodeless rfl (.inl rfl) <|
    .required trivial <| .nodeless rfl trivial <| .nodeless rfl (.inl rfl) .nil

theorem leads_namespaceElement : namespaceElement.Leads Anywhere n :=
  .record (by decide) (by rintro ⟨_, _, _, _⟩ ⟨_, _, _, _⟩ ⟨⟩; rfl) <|
    .nodeless rfl trivial <| .optional leads_callable <| .optional leads_customType .nil

theorem leads_namespace : «namespace».Leads Anywhere n :=
  .record (by decide) (by rintro ⟨_, _, _, _⟩ ⟨_, _, _, _⟩ ⟨⟩; rfl) <|
    .nodeless rfl trivial <| .defaulted_list leads_namespaceElement <|
    .nodeless rfl (.inl rfl) .nil

theorem leads_compilation : compilation.Leads Anywhere n :=
  .record (by decide) (by rintro ⟨_, _, _⟩ ⟨_, _, _⟩ ⟨⟩; rfl) <|
    .defaulted_list leads_namespace <| .nodeless rfl (.inl rfl) .nil

end Declarations

theorem Wired.leads {α : Type} {form : Form α} (wired : Wired form) (n : Nat) :
    form.Leads Anywhere n := by
  induction wired generalizing n with
  | integer _ | double | boolean | text _ | choice _ | node _ => trivial
  | optional _ ih => exact ih n
  | list _ ih => exact ih (n + 1)
  | shape node =>
    exact leads_shape node fun _ _ _ => trivial
  | setOperation _ operand => exact leads_setOperation fun m _ => operand m
  | characteristicsSlots _ operand => exact leads_characteristicsSlots fun m _ => operand m
  | operationType _ _ inner own =>
    exact leads_operationType (fun m _ => inner m) fun m _ => own m
  | functionType _ inner => exact leads_functionType fun m _ => inner m
  | typeSlots _ _ _ _ inner named own callable =>
    exact leads_typeSlots (fun m _ => inner m) (fun m _ => named m) (fun m _ => own m)
      fun m _ => callable m
  | identifierPayload _ _ named inner =>
    exact leads_identifierPayload (fun m _ => named m) fun m _ => inner m
  | stringPayload _ inner => exact leads_stringPayload fun m _ => inner m
  | newArrayPayload _ _ inner item =>
    exact leads_newArrayPayload (fun m _ => inner m) fun m _ => item m
  | namedItemPayload _ _ inner named =>
    exact leads_namedItemPayload (fun m _ => inner m) fun m _ => named m
  | twoOperands _ inner => exact leads_twoOperands fun m _ => inner m
  | threeOperands _ inner => exact leads_threeOperands fun m _ => inner m
  | expressionSlots _ _ _ inner named resolved =>
    exact leads_expressionSlots (fun m _ => inner m) (fun m _ => named m) fun m _ => resolved m
  | callableInformation => exact leads_callableInformation fun _ _ => trivial
  | typeArgument => exact leads_typeArgument fun _ _ => trivial
  | declarationAttribute => exact leads_declarationAttribute
  | resolvedSignature => exact leads_resolvedSignature
  | specialization => exact leads_specialization
  | callable => exact leads_callable
  | customType => exact leads_customType
  | namespaceElement => exact leads_namespaceElement
  | namespace_ => exact leads_namespace
  | compilation => exact leads_compilation
  -- the other records mention no nodes
  | _ => exact .inl rfl

/-! ## What a node may spend -/

/-- A node was read, and may spend on its parts the containers that could still be opened, and one
more if it is an expression. -/
def Has (n : Nat) (x : (node : Node) × node.Carrier) : Prop :=
  ∃ depth o, grammar.read depth .text (.node x.1) o = .ok x.2 ∧ n = depth + x.1.bonus

/-- A node opens two containers: its own, and that of its slots. -/
theorem two_le_of_read_node {node : Node} {depth : Nat} {feed : Feed} {o : Json.Outline}
    {a : node.Carrier} (read : grammar.read depth feed (.node node) o = .ok a) : 2 ≤ depth := by
  replace read := (Grammar.read_node node).symm.trans read
  cases node with
  | characteristics | resolvedType | typedExpression =>
    obtain ⟨inner, _, rfl, -, slots, -⟩ := Grammar.exists_of_read_record (by decide) read
    obtain ⟨part, -, read⟩ := slots.required
    obtain ⟨deeper, _, rfl, -⟩ := Grammar.exists_of_read_record (by decide) read
    exact Nat.le_add_left 2 deeper

theorem rations : Rations grammar.Directly Has Sigma.fst Node.typedExpression where
  step := by
    rintro n x y ⟨depth, o, read, rfl⟩ inside
    replace read := (Grammar.read_node x.1).symm.trans read
    have leads : (Schema.shape (shape x.1)).Leads (Costs x.1) 0 :=
      leads_shape x.1 fun _ _ cost => cost
    obtain ⟨m, inner, part, cost, rfl, found⟩ :=
      Grammar.exists_of_contains (g := grammar) _ leads read inside
    have cost : y.1.bonus + 2 ≤ m + x.1.bonus := cost
    exact ⟨_, ⟨inner, part, found, rfl⟩, by omega⟩
  needs := by
    rintro n x ⟨depth, o, read, rfl⟩
    have opened := two_le_of_read_node read
    omega
  needs_outermost := by
    rintro n x ⟨depth, o, read, rfl⟩ same
    have opened := two_le_of_read_node read
    rw [same]
    exact Nat.succ_le_succ opened

/-- Each node that a value read from a text contains was read out of the containers that a text may
open. -/
theorem afforded_of_readText {α : Type} {form : Form α} (wired : Wired form) {text : String} {a : α}
    (read : grammar.readText form text = .ok a) {x : (node : Node) × node.Carrier}
    (contains : form.Contains x a) : Afforded Has Sigma.fst Node.typedExpression x := by
  have whole := Grammar.read_of_readText read
  obtain ⟨n, depth, o, -, room, read⟩ :=
    Grammar.exists_of_contains (g := grammar) form (wired.leads 0) whole contains
  refine ⟨_, ⟨depth, o, read, rfl⟩, ?_, ?_⟩
  · have least : x.1.bonus ≤ 1 := by cases x.1 <;> decide
    omega
  · intro other
    have none : x.1.bonus = 0 := by
      cases same : x.1 with
      | typedExpression => exact absurd same other
      | _ => rfl
    omega

end Wire.Format

end WireTree
