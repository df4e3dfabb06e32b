import WireTree.Proofs.Depth.Attained
import WireTree.Proofs.Depth.Mirror

/-!
# How deep recursion over what was read can go

Decoding follows the nesting of expressions, types and characteristics and has no limit of its own;
the limit on the containers that reading opens bounds it, on the wire and in the decoded tree.
Main statement: `nesting_bounded`.
-/

namespace WireTree

deriving instance DecidableEq for Wire.Format.Node

deriving instance DecidableEq for TreeFormat.Node

/-- A chain in a value is shallow if all nodes that the value contains are afforded. -/
theorem Grammar.Chain.shallow {ι : Type} [DecidableEq ι] {g : Grammar ι} {α : Type}
    {schema : Schema g.Carrier α} {a : α} {nodes : List ((i : ι) × g.Carrier i)}
    {has : Nat → ((i : ι) × g.Carrier i) → Prop} {outermost : ι}
    (chain : g.Chain schema a nodes) (rations : Rations g.Directly has Sigma.fst outermost)
    (first : ∀ x, schema.Contains x a → Afforded has Sigma.fst outermost x) :
    Shallow (nodes.map Sigma.fst) := by
  refine rations.shallow chain.nested ?_
  intro x member
  obtain ⟨y, contains, inside⟩ := chain.held x member
  exact rations.afforded (first y contains) inside

/-! ## Trees -/

/-- A node of a tree may spend what the one on the wire may that it was decoded from. -/
def TreeFormat.Has (n : Nat) (y : TreeFormat.AnyNode) : Prop :=
  ∃ x, Wire.Format.Has n x ∧ NodeDecodes x y

theorem NodeDecodes.isExpression_iff {x : Wire.Format.AnyNode} {y : TreeFormat.AnyNode}
    (decodes : NodeDecodes x y) : x.1 = .typedExpression ↔ y.1 = .typedExpression := by
  cases decodes <;> simp

theorem TreeFormat.rations : Rations TreeFormat.grammar.Directly TreeFormat.Has Sigma.fst
    TreeFormat.Node.typedExpression where
  step := by
    rintro n y y' ⟨x, own, decodes⟩ inside
    obtain ⟨x', inside, decodes'⟩ := decodes.exists_directly inside
    obtain ⟨m, own', less⟩ := Wire.Format.rations.step own inside
    exact ⟨m, ⟨x', own', decodes'⟩, less⟩
  needs := by
    rintro n y ⟨x, own, decodes⟩
    exact Wire.Format.rations.needs own
  needs_outermost := by
    rintro n y ⟨x, own, decodes⟩ same
    exact Wire.Format.rations.needs_outermost own (decodes.isExpression_iff.mpr same)

theorem NodeDecodes.afforded {x : Wire.Format.AnyNode} {y : TreeFormat.AnyNode}
    (decodes : NodeDecodes x y)
    (afforded : Afforded Wire.Format.Has Sigma.fst Wire.Format.Node.typedExpression x) :
    Afforded TreeFormat.Has Sigma.fst TreeFormat.Node.typedExpression y := by
  obtain ⟨n, own, most, less⟩ := afforded
  exact ⟨n, ⟨x, own, decodes⟩, most, fun other => less fun same =>
    other (decodes.isExpression_iff.mp same)⟩

/-! ## Decoding -/

/-- The records of the wire that are decoded, each with the trees that it is decoded to. -/
inductive Decoding :
    {α β : Type} → Wire.Format.Form α → (α → Decoded β) → TreeFormat.Form β → Prop where
  | characteristics : Decoding Wire.Format.characteristics Wire.ResolvedCharacteristics.decode
      TreeFormat.characteristics
  | resolvedType :
      Decoding Wire.Format.resolvedType Wire.ResolvedType.decode TreeFormat.resolvedType
  | typedExpression :
      Decoding Wire.Format.typedExpression Wire.TypedExpression.decode TreeFormat.typedExpression
  | callableInformation : Decoding Wire.Format.callableInformation Wire.CallableInformation.decode
      TreeFormat.callableInformation
  | typeArgument :
      Decoding Wire.Format.typeArgument Wire.decodeTypeArgument TreeFormat.typeArgument
  | identifier : Decoding Wire.Format.identifier Wire.Identifier.decode TreeFormat.identifier
  | localSymbol : Decoding Wire.Format.localSymbol Wire.LocalSymbol.decode TreeFormat.localSymbol
  | declarationAttribute : Decoding Wire.Format.declarationAttribute
      Wire.DeclarationAttribute.decode TreeFormat.declarationAttribute
  | resolvedSignature : Decoding Wire.Format.resolvedSignature Wire.ResolvedSignature.decode
      TreeFormat.resolvedSignature
  | specialization :
      Decoding Wire.Format.specialization Wire.Specialization.decode TreeFormat.specialization
  | callable : Decoding Wire.Format.callable Wire.Callable.decode TreeFormat.callable
  | customType : Decoding Wire.Format.customType Wire.CustomType.decode TreeFormat.customType
  | namespaceElement : Decoding Wire.Format.namespaceElement Wire.NamespaceElement.decode
      TreeFormat.namespaceElement
  | namespace_ : Decoding Wire.Format.namespace Wire.Namespace.decode TreeFormat.namespace
  | compilation (options : Options) : Decoding Wire.Format.compilation
      (fun c => c.decodeWith options) TreeFormat.compilation

namespace Decoding

variable {α β : Type} {form : Wire.Format.Form α} {decode : α → Decoded β}
  {treeForm : TreeFormat.Form β}

theorem wired (decoding : Decoding form decode treeForm) : Wire.Format.Wired form := by
  cases decoding with
  | characteristics | resolvedType | typedExpression => exact .node _
  | _ => constructor

theorem mirrors (decoding : Decoding form decode treeForm) {a : α} {tree : β}
    (decoded : decode a = .ok tree) :
    Mirrors (form.Contains · a) (treeForm.Contains · tree) := by
  cases decoding with
  | characteristics => exact .node (.characteristics decoded)
  | resolvedType => exact .node (.resolvedType decoded)
  | typedExpression => exact .node (.typedExpression decoded)
  | callableInformation =>
    simp only [Wire.Format.contains_callableInformation, TreeFormat.contains_callableInformation]
    exact mirrors_callableInformation decoded
  | typeArgument =>
    simp only [Wire.Format.contains_typeArgument, TreeFormat.contains_typeArgument]
    exact mirrors_typeArgument decoded
  | identifier =>
    intro y contains
    exact absurd contains (TreeFormat.not_contains_identifier tree)
  | localSymbol =>
    intro y contains
    exact absurd contains (TreeFormat.not_contains_localSymbol tree)
  | declarationAttribute =>
    simp only [Wire.Format.contains_declarationAttribute, TreeFormat.contains_declarationAttribute]
    exact mirrors_declarationAttribute decoded
  | resolvedSignature => exact mirrors_resolvedSignature decoded
  | specialization => exact mirrors_specialization decoded
  | callable => exact mirrors_callable decoded
  | customType => exact mirrors_customType decoded
  | namespaceElement => exact mirrors_namespaceElement decoded
  | namespace_ => exact mirrors_namespace decoded
  | compilation options => exact mirrors_compilation decoded

end Decoding

namespace Wire.Format

/-- Chains of nodes in what was read from a text are shallow. -/
theorem shallow_of_readText {α : Type} {form : Form α} (wired : Wired form) {text : String} {a : α}
    (read : grammar.readText form text = .ok a) {nodes : List AnyNode}
    (chain : grammar.Chain form a nodes) : Shallow (nodes.map Sigma.fst) :=
  chain.shallow rations fun _ => afforded_of_readText wired read

/-- Chains of nodes in what it is decoded to are, too. -/
theorem shallow_of_decoded {α β : Type} {form : Form α} {decode : α → Decoded β}
    {treeForm : TreeFormat.Form β} (decoding : Decoding form decode treeForm) {text : String}
    {a : α} {tree : β} (read : grammar.readText form text = .ok a) (decoded : decode a = .ok tree)
    {nodes : List TreeFormat.AnyNode} (chain : TreeFormat.grammar.Chain treeForm tree nodes) :
    Shallow (nodes.map Sigma.fst) := by
  refine chain.shallow TreeFormat.rations ?_
  intro y contains
  obtain ⟨x, contains, decodes⟩ := decoding.mirrors decoded y contains
  exact decodes.afforded (afforded_of_readText decoding.wired read contains)

/-- Whatever a text is read as, and whatever that is decoded to, expressions, types and
characteristics are nested in it in chains of at most 64, of which at most 63 are of one type; this
counts what is in slots that are not selected, too. Both bounds are attained: 62 arrays around a
type without payload are read and decoded, and so is an expression of that type, and one more array
is refused. -/
theorem nesting_bounded :
    (∀ {α : Type} {form : Form α}, Wired form →
      ∀ {text : String} {a : α}, grammar.readText form text = .ok a →
      ∀ {nodes : List AnyNode}, grammar.Chain form a nodes → Shallow (nodes.map Sigma.fst)) ∧
    (∀ {α β : Type} {form : Form α} {decode : α → Decoded β} {treeForm : TreeFormat.Form β},
      Decoding form decode treeForm →
      ∀ {text : String} {a : α} {tree : β}, grammar.readText form text = .ok a →
      decode a = .ok tree → ∀ {nodes : List TreeFormat.AnyNode},
      TreeFormat.grammar.Chain treeForm tree nodes → Shallow (nodes.map Sigma.fst)) ∧
    (∀ n : Nat,
      (grammar.readText resolvedType (String.ofList (arraysText n)) =
        if n ≤ 62 then .ok (arrays n) else malformed) ∧
      (arrays n).decode = .ok (arraysTree n) ∧
      (∃ nodes, grammar.Chain resolvedType (arrays n) nodes ∧
        nodes.map Sigma.fst = List.replicate (n + 1) .resolvedType) ∧
      ∃ nodes, TreeFormat.grammar.Chain TreeFormat.resolvedType (arraysTree n) nodes ∧
        nodes.map Sigma.fst = List.replicate (n + 1) .resolvedType) ∧
    ∀ n : Nat,
      (grammar.readText typedExpression (String.ofList (unitText (arraysText n))) =
        if n ≤ 62 then .ok (unitOf (arrays n)) else malformed) ∧
      (unitOf (arrays n)).decode = .ok (unitTree (arraysTree n)) ∧
      (∃ nodes, grammar.Chain typedExpression (unitOf (arrays n)) nodes ∧
        nodes.map Sigma.fst = .typedExpression :: List.replicate (n + 1) .resolvedType) ∧
      ∃ nodes, TreeFormat.grammar.Chain TreeFormat.typedExpression (unitTree (arraysTree n)) nodes ∧
        nodes.map Sigma.fst = .typedExpression :: List.replicate (n + 1) .resolvedType := by
  refine ⟨shallow_of_readText, shallow_of_decoded, ?_, ?_⟩
  · intro n
    exact ⟨readText_arrays n, decode_arrays n, exists_chain_arrays n, exists_chain_arraysTree n⟩
  · intro n
    exact ⟨readText_unit n, decode_unit (decode_arrays n), exists_chain_unit n,
      exists_chain_unitTree n⟩

/-- The deepest arrays that are read, as a text, on the wire and in the tree: 63 types inside each
other, which is what a chain may have of one type. -/
theorem nesting_bounded_arrays :
    grammar.readText resolvedType (String.ofList (arraysText 62)) = .ok (arrays 62) ∧
      (∃ nodes, grammar.Chain resolvedType (arrays 62) nodes ∧
        nodes.map Sigma.fst = List.replicate 63 .resolvedType ∧ Shallow (nodes.map Sigma.fst)) ∧
      ∃ nodes, TreeFormat.grammar.Chain TreeFormat.resolvedType (arraysTree 62) nodes ∧
        nodes.map Sigma.fst = List.replicate 63 .resolvedType ∧
          Shallow (nodes.map Sigma.fst) := by
  obtain ⟨onWire, inTree, attained, -⟩ := nesting_bounded
  obtain ⟨read, decoded, ⟨nodes, chain, types⟩, nodes', chain', types'⟩ := attained 62
  replace read := read.trans (if_pos (Nat.le_refl 62))
  refine ⟨read, ⟨nodes, chain, types, ?_⟩, nodes', chain', types', ?_⟩
  · exact onWire (.node Node.resolvedType) read chain
  · exact inTree .resolvedType read decoded chain'

end Wire.Format

end WireTree
