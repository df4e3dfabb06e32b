import WireTree.Proofs.Zeros.Declaration

/-!
# The law of zeros for all decoders

Namespaces and compilations hold the doubles of their declarations. Records without doubles have an
equality of their own, and so every decoder respects it.
Main statement: every decoder respects equality up to the sign of zero
(`decoders_respect_equality`).
-/

namespace WireTree

open Doubles LawfulDoubles

instance {α : Type} [Doubles α] : Doubles (Option α) where
  unsigned := Option.map unsigned
  active slot := slot.elim [] active
  all slot := slot.elim [] all

theorem compares_option {W : Type} [BEq W] [Doubles W]
    (each : ∀ a : W, ComparesNumbers (· == ·) a) (slot : Option W) :
    ComparesNumbers (· == ·) slot := by
  intro other
  show (slot == other) = true ↔ slot.map unsigned = other.map unsigned ∧ ∀ d ∈ slot.elim [] all, _
  cases slot with
  | none => cases other <;> simp
  | some a =>
    cases other with
    | none => simp
    | some b =>
      have compared : (a == b) = true ↔ _ := each a b
      simpa using compared

namespace Wire

/-! ## Namespaces and compilations -/

namespace Declared

instance : Doubles Declared where
  unsigned
    | callable c => callable (unsigned c)
    | customType t => customType (unsigned t)
  active
    | callable c => active c
    | customType t => active t
  all
    | callable c => all c
    | customType t => all t

theorem decode_unsigned (declared : Declared) :
    (unsigned declared).decode = unsigned <$> declared.decode := by
  cases declared with
  | callable c =>
    show decode (callable (unsigned c)) = _
    simp only [decode, Callable.keepsZeros.decode_unsigned, map_bind, bind_map_left, map_pure]
    rfl
  | customType t =>
    show decode (customType (unsigned t)) = _
    simp only [decode, CustomType.keepsZeros.decode_unsigned, map_bind, bind_map_left, map_pure]
    rfl

theorem active_decode {declared : Declared} {tree : WireTree.NamespaceElement}
    (decoded : declared.decode = .ok tree) : active tree = active declared := by
  cases declared with
  | callable c =>
    obtain ⟨callable, each, same⟩ := bind_eq_ok_iff.mp decoded
    cases same
    exact Callable.keepsZeros.active_decode each
  | customType t =>
    obtain ⟨customType, each, same⟩ := bind_eq_ok_iff.mp decoded
    cases same
    exact CustomType.keepsZeros.active_decode each

end Declared

namespace NamespaceElement

instance : Doubles NamespaceElement where
  unsigned element :=
    { element with
      callable := unsigned element.callable
      customType := unsigned element.customType }
  active element := active element.children
  all element := all element.callable ++ all element.customType

theorem select_unsigned (element : NamespaceElement) :
    (unsigned element).select = unsigned <$> element.select := by
  obtain ⟨kind, callable, customType⟩ := element
  cases kind with
  | unrecognized text => rfl
  | known tag =>
    cases tag with
    | callable => cases callable <;> rfl
    | customType => cases customType <;> rfl

theorem keepsZeros : KeepsZeros decode where
  compares a b := by
    obtain ⟨kind, callable, customType⟩ := a
    obtain ⟨kind', callable', customType'⟩ := b
    have callables : (callable == callable') = true ↔ _ :=
      compares_option Callable.keepsZeros.compares callable callable'
    have types : (customType == customType') = true ↔ _ :=
      compares_option CustomType.keepsZeros.compares customType customType'
    show (_ && _) = true ↔ mk _ _ _ = mk _ _ _ ∧ ∀ d ∈ all callable ++ all customType, _
    simp only [Bool.and_eq_true, beq_iff_eq, callables, types, mk.injEq, List.forall_mem_append]
    tauto
  decode_unsigned element := by
    rw [decode_eq_bind, decode_eq_bind, select_unsigned, bind_map_left, map_bind]
    simp only [Declared.decode_unsigned]
  active_decode {element tree} decoded := by
    rw [decode_eq_bind, bind_eq_ok_iff] at decoded
    obtain ⟨declared, selected, decoded⟩ := decoded
    have selects := element.select_selects
    rw [selected] at selects
    show active tree = active element.children
    rw [← selects.2.1, Declared.active_decode decoded]
    exact (List.append_nil _).symm

theorem keepsZeros_list : KeepsZeros (List.mapM decode) :=
  .mapM keepsZeros

end NamespaceElement

namespace Namespace

instance : Doubles Namespace where
  unsigned ns := { ns with elements := unsigned ns.elements }
  active ns := active ns.elements
  all ns := all ns.elements

theorem keepsZeros : KeepsZeros decode where
  compares a b := by
    obtain ⟨name, elements, documentation⟩ := a
    obtain ⟨name', elements', documentation'⟩ := b
    have each : (elements == elements') = true ↔ _ :=
      NamespaceElement.keepsZeros_list.compares elements elements'
    show (_ && _) = true ↔ mk _ _ _ = mk _ _ _ ∧ ∀ d ∈ all elements, _
    simp only [Bool.and_eq_true, beq_iff_eq, each, mk.injEq]
    tauto
  decode_unsigned a := by
    show decode { a with elements := unsigned a.elements } = _
    simp only [decode_eq, NamespaceElement.keepsZeros_list.decode_unsigned, map_bind,
      bind_map_left, map_pure]
    rfl
  active_decode decoded :=
    NamespaceElement.keepsZeros_list.active_decode (decode_eq_ok_iff.mp decoded).elements

theorem keepsZeros_list : KeepsZeros (List.mapM decode) :=
  .mapM keepsZeros

end Namespace

namespace Compilation

instance : Doubles Compilation where
  unsigned compilation := { compilation with namespaces := unsigned compilation.namespaces }
  active compilation := active compilation.namespaces
  all compilation := all compilation.namespaces

theorem keepsZeros : KeepsZeros decode where
  compares a b := by
    obtain ⟨namespaces, entryPoints⟩ := a
    obtain ⟨namespaces', entryPoints'⟩ := b
    have each : (namespaces == namespaces') = true ↔ _ :=
      Namespace.keepsZeros_list.compares namespaces namespaces'
    show (_ && _) = true ↔ mk _ _ = mk _ _ ∧ ∀ d ∈ all namespaces, _
    simp only [Bool.and_eq_true, beq_iff_eq, each, mk.injEq]
    tauto
  decode_unsigned a := by
    show decode { a with namespaces := unsigned a.namespaces } = _
    simp only [decode, decodeWith_eq, Namespace.keepsZeros_list.decode_unsigned, map_bind,
      bind_map_left, map_pure]
    rfl
  active_decode decoded :=
    Namespace.keepsZeros_list.active_decode (decode_eq_ok_iff.mp decoded).1

end Compilation

end Wire

/-! ## Records without doubles -/

/-- A decoder of values that have an equality of their own respects it. -/
theorem respectsEquality_of_lawful {W T : Type} [BEq W] [LawfulBEq W] (decode : W → Decoded T) :
    @RespectsEquality W T _ .absent .absent decode :=
  letI : Doubles W := .absent
  letI : Doubles T := .absent
  have lawful : LawfulDoubles T :=
    { active_unsigned := fun _ => rfl
      eq_of_active := fun same _ => same }
  have keeps : KeepsZeros decode :=
    { compares := fun a b => by
        show (a == b) = true ↔ a = b ∧ ∀ d ∈ [], _
        simp
      decode_unsigned := fun a => (id_map (decode a)).symm
      active_decode := fun _ => rfl }
  keeps.respectsEquality

instance : Doubles ResolvedCharacteristics := .absent
instance : Doubles CallableInformation := .absent
instance : Doubles ResolvedType := .absent
instance {T : Type} : Doubles (TypeArgument T) := .absent
instance : Doubles Identifier := .absent
instance : Doubles LocalSymbol := .absent
instance : Doubles ResolvedSignature := .absent
instance {C : Type} : Doubles (CharacteristicsKind C) := .absent
instance {T U P C : Type} : Doubles (TypeKind T U P C) := .absent

namespace Wire

instance : Doubles ResolvedCharacteristics := .absent
instance : Doubles CallableInformation := .absent
instance : Doubles ResolvedType := .absent
instance : Doubles Identifier := .absent
instance : Doubles LocalSymbol := .absent
instance : Doubles ResolvedSignature := .absent
instance {C : Type} : Doubles (CharacteristicsSlots C) := .absent
instance {T U P C : Type} : Doubles (TypeSlots T U P C) := .absent

/-- Every decoder respects equality up to the sign of zero: of compilations and what is in them,
and of the unions, for the parts that they have there. -/
theorem decoders_respect_equality :
    RespectsEquality Compilation.decode ∧
      RespectsEquality Namespace.decode ∧
      RespectsEquality NamespaceElement.decode ∧
      RespectsEquality CustomType.decode ∧
      RespectsEquality Callable.decode ∧
      RespectsEquality Specialization.decode ∧
      RespectsEquality DeclarationAttribute.decode ∧
      RespectsEquality TypedExpression.decode ∧
      RespectsEquality (fun slots : ExpressionSlots TypedExpression Identifier ResolvedType =>
        slots.decodeWith TypedExpression.decode Identifier.decode ResolvedType.decode) ∧
      RespectsEquality ResolvedSignature.decode ∧
      RespectsEquality LocalSymbol.decode ∧
      RespectsEquality Identifier.decode ∧
      RespectsEquality decodeTypeArgument ∧
      RespectsEquality ResolvedType.decode ∧
      RespectsEquality (fun slots : ResolvedType.Slots ResolvedType =>
        slots.decodeWith ResolvedType.decode pure pure CallableInformation.decode) ∧
      RespectsEquality CallableInformation.decode ∧
      RespectsEquality ResolvedCharacteristics.decode ∧
      RespectsEquality (fun slots : CharacteristicsSlots ResolvedCharacteristics =>
        slots.decodeWith ResolvedCharacteristics.decode) := by
  refine ⟨?_, ?_, ?_, ?_, ?_, ?_, ?_, ?_, ?_, ?_, ?_, ?_, ?_, ?_, ?_, ?_, ?_, ?_⟩
  · exact Compilation.keepsZeros.respectsEquality
  · exact Namespace.keepsZeros.respectsEquality
  · exact NamespaceElement.keepsZeros.respectsEquality
  · exact CustomType.keepsZeros.respectsEquality
  · exact Callable.keepsZeros.respectsEquality
  · exact Specialization.keepsZeros.respectsEquality
  · exact DeclarationAttribute.keepsZeros.respectsEquality
  · exact TypedExpression.keepsZeros.respectsEquality
  · exact (ExpressionSlots.keepsZeros TypedExpression.keepsZeros _ _).respectsEquality
  · exact respectsEquality_of_lawful ResolvedSignature.decode
  · exact respectsEquality_of_lawful LocalSymbol.decode
  · exact respectsEquality_of_lawful Identifier.decode
  · exact respectsEquality_of_lawful decodeTypeArgument
  · exact respectsEquality_of_lawful ResolvedType.decode
  · exact respectsEquality_of_lawful _
  · exact respectsEquality_of_lawful CallableInformation.decode
  · exact respectsEquality_of_lawful ResolvedCharacteristics.decode
  · exact respectsEquality_of_lawful _

/-- A literal of positive zero equals one of negative zero; they decode to trees that differ, but
not once zeros are unsigned. -/
theorem decoders_respect_equality_literal :
    let slots (d : Binary64) : ExpressionSlots TypedExpression Identifier ResolvedType :=
      { ExpressionSlots.ofKind .doubleLiteral with doubleLiteral := d }
    let decode (slots : ExpressionSlots TypedExpression Identifier ResolvedType) :=
      slots.decodeWith TypedExpression.decode Identifier.decode ResolvedType.decode
    (slots .zero == slots .negativeZero) = true ∧
      Outcomes (fun t u => unsigned t = unsigned u ∧ t ≠ u) (decode (slots .zero))
        (decode (slots .negativeZero)) := by
  intro slots decode
  have equal : (slots .zero == slots .negativeZero) = true := rfl
  have opposite : Binary64.OppositeZeros (active (slots .zero)) (active (slots .negativeZero)) :=
    ⟨0, .inl ⟨rfl, rfl⟩⟩
  obtain ⟨-, -, -, -, -, -, -, -, respects, -⟩ := decoders_respect_equality
  refine ⟨equal, (respects.equal _ _ equal).imp ?_⟩
  rintro t u ⟨same, exact_⟩
  exact ⟨same, fun alike => exact_.mp alike opposite⟩

end Wire

end WireTree
