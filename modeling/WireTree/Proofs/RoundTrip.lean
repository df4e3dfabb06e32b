import WireTree.Proofs.Spelling.Tree

/-!
# Reading back what is written for a tree

The reader refuses a value with more than `Grammar.maxDepth` containers inside each other, and
writing does not look at the depth; so a tree comes back if what is written for it is shallow
enough, and only then. Doubles are written by their bits, which is not how they are read; trees with
a double literal are left out.
Main statement: `TreeFormat.round_trips`, for every type of nodes.
-/

namespace WireTree

/-- The document of a JSON value, with nothing after it. -/
def Json.document (json : Json) : Json.Document :=
  { root := json.outline
    trailing := false }

theorem Grammar.readDocument_document {ι α : Type} {g : Grammar ι} (schema : Schema g.Carrier α)
    (json : Json) :
    g.readDocument schema json.document = g.read maxDepth .text schema json.outline :=
  bind_pure _

namespace TreeFormat

variable {α : Type}

/-- Each of the values that satisfy `included` is read back from what is written for it, if that
has no more containers inside each other than a reader opens; otherwise that is malformed. -/
def RoundTrips (form : Form α) (write : α → Json) (included : α → Prop) : Prop :=
  ∀ a, included a → grammar.readDocument form (write a).document =
    if (write a).nesting ≤ Grammar.maxDepth then .ok a else malformed

theorem RoundTrips.of_spells {form : Form α} {write : α → Json} {included : α → Prop}
    (spells : ∀ {a}, included a → grammar.Spells form (write a) a) :
    RoundTrips form write included := by
  intro a holds
  show (grammar.read Grammar.maxDepth .text form (write a).outline >>= .ok) =
    limited (write a).nesting Grammar.maxDepth a
  rw [spells holds]
  exact limited_then rfl

/-- The case in which no value is left out. -/
theorem RoundTrips.of_spells_all {form : Form α} {write : α → Json}
    (spells : ∀ a, grammar.Spells form (write a) a) : RoundTrips form write fun _ => True :=
  .of_spells fun {a} _ => spells a

/-- Every node of a tree comes back from what is written for it, up to the limit on nesting. -/
theorem round_trips :
    RoundTrips compilation Compilation.toJson Compilation.WithoutDoubles ∧
      RoundTrips «namespace» Namespace.toJson Namespace.WithoutDoubles ∧
      RoundTrips namespaceElement NamespaceElement.toJson NamespaceElement.WithoutDoubles ∧
      RoundTrips callable Callable.toJson Callable.WithoutDoubles ∧
      RoundTrips customType CustomType.toJson CustomType.WithoutDoubles ∧
      RoundTrips specialization Specialization.toJson Specialization.WithoutDoubles ∧
      RoundTrips specializationImplementation SpecializationImplementation.toJson
        (fun _ => True) ∧
      RoundTrips resolvedSignature ResolvedSignature.toJson (fun _ => True) ∧
      RoundTrips declarationAttribute DeclarationAttribute.toJson
        DeclarationAttribute.WithoutDoubles ∧
      RoundTrips localSymbol LocalSymbol.toJson (fun _ => True) ∧
      RoundTrips argumentTuple ArgumentTuple.toJson (fun _ => True) ∧
      RoundTrips (deferred argumentTuple) (Deferred.toJson ArgumentTuple.toJson)
        (fun _ => True) ∧
      RoundTrips (deferred typeItems) TypeItem.deferredToJson (fun _ => True) ∧
      RoundTrips typeItems (Tuple.toJson TypeItem.toJson) (fun _ => True) ∧
      RoundTrips typeItem TypeItem.toJson (fun _ => True) ∧
      RoundTrips typedExpression TypedExpression.toJson TypedExpression.WithoutDoubles ∧
      RoundTrips typeArgument TypeArgument.toJson (fun _ => True) ∧
      RoundTrips inferredExpressionInformation InferredExpressionInformation.toJson
        (fun _ => True) ∧
      RoundTrips identifier Identifier.toJson (fun _ => True) ∧
      RoundTrips resolvedType ResolvedType.toJson (fun _ => True) ∧
      RoundTrips characteristics ResolvedCharacteristics.toJson (fun _ => True) ∧
      RoundTrips callableInformation CallableInformation.toJson (fun _ => True) ∧
      RoundTrips inferredCallableInformation InferredCallableInformation.toJson
        (fun _ => True) ∧
      RoundTrips (localVariableDeclaration Format.string)
        (LocalVariableDeclaration.toJson .text) (fun _ => True) ∧
      RoundTrips (localVariableDeclaration localSymbol)
        (LocalVariableDeclaration.toJson LocalSymbol.toJson) (fun _ => True) ∧
      RoundTrips comments Comments.toJson (fun _ => True) ∧
      RoundTrips modifiers Modifiers.toJson (fun _ => True) ∧
      RoundTrips source Source.toJson (fun _ => True) ∧
      RoundTrips Format.position Position.toJson (fun _ => True) ∧
      RoundTrips Format.range Range.toJson (fun _ => True) ∧
      RoundTrips Format.location Location.toJson (fun _ => True) ∧
      RoundTrips Format.qualifiedName QualifiedName.toJson (fun _ => True) ∧
      RoundTrips Format.userDefinedType UserDefinedType.toJson (fun _ => True) ∧
      RoundTrips Format.typeParameter TypeParameter.toJson (fun _ => True) := by
  refine ⟨?_, ?_, ?_, ?_, ?_, ?_, ?_, ?_, ?_, ?_, ?_, ?_, ?_, ?_, ?_, ?_, ?_, ?_, ?_, ?_, ?_, ?_,
    ?_, ?_, ?_, ?_, ?_, ?_, ?_, ?_, ?_, ?_, ?_, ?_⟩
  · exact .of_spells spells_compilation
  · exact .of_spells spells_namespace
  · exact .of_spells spells_namespaceElement
  · exact .of_spells spells_callable
  · exact .of_spells spells_customType
  · exact .of_spells spells_specialization
  · exact .of_spells_all spells_specializationImplementation
  · exact .of_spells_all spells_resolvedSignature
  · exact .of_spells spells_declarationAttribute
  · exact .of_spells_all spells_localSymbol
  · exact .of_spells_all spells_argumentTuple
  · exact .of_spells_all (spells_deferred spells_argumentTuple)
  · exact .of_spells_all (spells_deferred spells_typeItems)
  · exact .of_spells_all spells_typeItems
  · exact .of_spells_all spells_typeItem
  · exact .of_spells spells_typedExpression
  · exact .of_spells_all spells_typeArgument
  · exact .of_spells_all spells_inferredExpressionInformation
  · exact .of_spells_all spells_identifier
  · exact .of_spells_all spells_resolvedType
  · exact .of_spells_all spells_characteristics
  · exact .of_spells_all spells_callableInformation
  · exact .of_spells_all spells_inferredCallableInformation
  · exact .of_spells_all (spells_localVariableDeclaration Format.spells_string)
  · exact .of_spells_all (spells_localVariableDeclaration spells_localSymbol)
  · exact .of_spells_all spells_comments
  · exact .of_spells_all spells_modifiers
  · exact .of_spells_all spells_source
  · exact .of_spells_all Format.spells_position
  · exact .of_spells_all Format.spells_range
  · exact .of_spells_all Format.spells_location
  · exact .of_spells_all Format.spells_qualifiedName
  · exact .of_spells_all Format.spells_userDefinedType
  · exact .of_spells_all Format.spells_typeParameter

/-- With 126 arrays around it a type is as deep as can be. -/
example :
    (Nat.repeat (fun t => ResolvedType.mk (.arrayType t)) 126 (.mk .int)).toJson.nesting =
      Grammar.maxDepth := by
  decide +kernel

end TreeFormat

end WireTree
