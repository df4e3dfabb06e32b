import WireTree.Proofs.Zeros.Expression

/-!
# The doubles in declarations, namespaces and compilations

They are those in the arguments of attributes; the other records on the wire hold none.
Main statements: decoding keeps the doubles that count, up to the signs of zeros, in each record
with attributes (`Wire.Callable.keepsZeros`, `Wire.CustomType.keepsZeros`).
-/

namespace WireTree

open Doubles LawfulDoubles

/-! ## Trees -/

instance : Doubles DeclarationAttribute where
  unsigned declared := { declared with argument := unsigned declared.argument }
  active declared := active declared.argument
  all declared := all declared.argument

instance : LawfulDoubles DeclarationAttribute where
  active_unsigned declared := active_unsigned declared.argument
  eq_of_active {a b} same sameActive :=
    have arguments : a.argument = b.argument :=
      eq_of_active (congrArg DeclarationAttribute.argument same) sameActive
    calc a = { unsigned a with argument := a.argument } := rfl
      _ = { unsigned b with argument := b.argument } := by rw [same, arguments]
      _ = b := rfl

instance : Doubles Specialization where
  unsigned specialization :=
    { specialization with attributes := unsigned specialization.attributes }
  active specialization := active specialization.attributes
  all specialization := all specialization.attributes

instance : LawfulDoubles Specialization where
  active_unsigned specialization := active_unsigned specialization.attributes
  eq_of_active {a b} same sameActive :=
    have attributes : a.attributes = b.attributes :=
      eq_of_active (congrArg Specialization.attributes same) sameActive
    calc a = { unsigned a with attributes := a.attributes } := rfl
      _ = { unsigned b with attributes := b.attributes } := by rw [same, attributes]
      _ = b := rfl

instance : Doubles Callable where
  unsigned callable :=
    { callable with
      attributes := unsigned callable.attributes
      specializations := unsigned callable.specializations }
  active callable := active callable.attributes ++ active callable.specializations
  all callable := all callable.attributes ++ all callable.specializations

instance : LawfulDoubles Callable where
  active_unsigned callable := by
    show active (unsigned callable.attributes) ++ active (unsigned callable.specializations) = _
    rw [active_unsigned, active_unsigned, ← List.map_append]
    rfl
  eq_of_active {a b} same sameActive := by
    have sameAttributes := congrArg Callable.attributes same
    have sameSpecializations := congrArg Callable.specializations same
    obtain ⟨first, second⟩ :=
      List.append_inj sameActive (length_active_eq active_unsigned sameAttributes)
    have attributes : a.attributes = b.attributes := eq_of_active sameAttributes first
    have specializations : a.specializations = b.specializations :=
      eq_of_active sameSpecializations second
    calc a = { unsigned a with
            attributes := a.attributes, specializations := a.specializations } := rfl
      _ = { unsigned b with
            attributes := b.attributes, specializations := b.specializations } := by
          rw [same, attributes, specializations]
      _ = b := rfl

instance : Doubles CustomType where
  unsigned customType := { customType with attributes := unsigned customType.attributes }
  active customType := active customType.attributes
  all customType := all customType.attributes

instance : LawfulDoubles CustomType where
  active_unsigned customType := active_unsigned customType.attributes
  eq_of_active {a b} same sameActive :=
    have attributes : a.attributes = b.attributes :=
      eq_of_active (congrArg CustomType.attributes same) sameActive
    calc a = { unsigned a with attributes := a.attributes } := rfl
      _ = { unsigned b with attributes := b.attributes } := by rw [same, attributes]
      _ = b := rfl

instance : Doubles NamespaceElement where
  unsigned
    | .callable c => .callable (unsigned c)
    | .customType t => .customType (unsigned t)
  active
    | .callable c => active c
    | .customType t => active t
  all
    | .callable c => all c
    | .customType t => all t

instance : LawfulDoubles NamespaceElement where
  active_unsigned
    | .callable c => active_unsigned c
    | .customType t => active_unsigned t
  eq_of_active {a b} same sameActive := by
    cases a with
    | callable c =>
      cases b with
      | callable c' =>
        exact congrArg _ (eq_of_active (NamespaceElement.callable.inj same) sameActive)
      | customType t => cases same
    | customType t =>
      cases b with
      | callable c => cases same
      | customType t' =>
        exact congrArg _ (eq_of_active (NamespaceElement.customType.inj same) sameActive)

instance : Doubles Namespace where
  unsigned ns := { ns with elements := unsigned ns.elements }
  active ns := active ns.elements
  all ns := all ns.elements

instance : LawfulDoubles Namespace where
  active_unsigned ns := active_unsigned ns.elements
  eq_of_active {a b} same sameActive :=
    have elements : a.elements = b.elements :=
      eq_of_active (congrArg Namespace.elements same) sameActive
    calc a = { unsigned a with elements := a.elements } := rfl
      _ = { unsigned b with elements := b.elements } := by rw [same, elements]
      _ = b := rfl

instance : Doubles Compilation where
  unsigned compilation := { compilation with namespaces := unsigned compilation.namespaces }
  active compilation := active compilation.namespaces
  all compilation := all compilation.namespaces

instance : LawfulDoubles Compilation where
  active_unsigned compilation := active_unsigned compilation.namespaces
  eq_of_active {a b} same sameActive :=
    have namespaces : a.namespaces = b.namespaces :=
      eq_of_active (congrArg Compilation.namespaces same) sameActive
    calc a = { unsigned a with namespaces := a.namespaces } := rfl
      _ = { unsigned b with namespaces := b.namespaces } := by rw [same, namespaces]
      _ = b := rfl

namespace Wire

/-! ## Records on the wire -/

namespace DeclarationAttribute

instance : Doubles DeclarationAttribute where
  unsigned declared := { declared with argument := unsigned declared.argument }
  active declared := active declared.argument
  all declared := all declared.argument

theorem keepsZeros : KeepsZeros decode where
  compares a b := by
    obtain ⟨typeId, typeIdRange, argument, offset, comments⟩ := a
    obtain ⟨typeId', typeIdRange', argument', offset', comments'⟩ := b
    have arguments : (argument == argument') = true ↔ _ :=
      TypedExpression.keepsZeros.compares argument argument'
    show (_ && _) = true ↔ mk _ _ _ _ _ = mk _ _ _ _ _ ∧ ∀ d ∈ all argument, _
    simp only [Bool.and_eq_true, beq_iff_eq, arguments, mk.injEq]
    tauto
  decode_unsigned a := by
    show decode { a with argument := unsigned a.argument } = _
    simp only [decode, TypedExpression.keepsZeros.decode_unsigned, map_bind, bind_map_left,
      map_pure]
    rfl
  active_decode decoded :=
    TypedExpression.keepsZeros.active_decode (decode_eq_ok_iff.mp decoded).argument

theorem keepsZeros_list : KeepsZeros (List.mapM decode) :=
  .mapM keepsZeros

end DeclarationAttribute

namespace Specialization

instance : Doubles Specialization where
  unsigned specialization :=
    { specialization with attributes := unsigned specialization.attributes }
  active specialization := active specialization.attributes
  all specialization := all specialization.attributes

theorem keepsZeros : KeepsZeros decode where
  compares a b := by
    obtain ⟨kind, parent, attributes, source, location, typeArguments⟩ := a
    obtain ⟨kind', parent', attributes', source', location', typeArguments'⟩ := b
    have each : (attributes == attributes') = true ↔ _ :=
      DeclarationAttribute.keepsZeros_list.compares attributes attributes'
    show (_ && _) = true ↔ mk _ _ _ _ _ _ = mk _ _ _ _ _ _ ∧ ∀ d ∈ all attributes, _
    simp only [Bool.and_eq_true, beq_iff_eq, each, mk.injEq]
    tauto
  decode_unsigned a := by
    show decode { a with attributes := unsigned a.attributes } = _
    simp only [decode, DeclarationAttribute.keepsZeros_list.decode_unsigned, map_bind,
      bind_map_left, map_pure]
    rfl
  active_decode decoded :=
    DeclarationAttribute.keepsZeros_list.active_decode (decode_eq_ok_iff.mp decoded).attributes

theorem keepsZeros_list : KeepsZeros (List.mapM decode) :=
  .mapM keepsZeros

end Specialization

namespace Callable

instance : Doubles Callable where
  unsigned callable :=
    { callable with
      attributes := unsigned callable.attributes
      specializations := unsigned callable.specializations }
  active callable := active callable.attributes ++ active callable.specializations
  all callable := all callable.attributes ++ all callable.specializations

theorem keepsZeros : KeepsZeros decode where
  compares a b := by
    obtain ⟨kind, fullName, attributes, modifiers, source, location, signature, specializations,
      documentation, comments⟩ := a
    obtain ⟨kind', fullName', attributes', modifiers', source', location', signature',
      specializations', documentation', comments'⟩ := b
    have declared : (attributes == attributes') = true ↔ _ :=
      DeclarationAttribute.keepsZeros_list.compares attributes attributes'
    have bodies : (specializations == specializations') = true ↔ _ :=
      Specialization.keepsZeros_list.compares specializations specializations'
    show (_ && _) = true ↔ mk _ _ _ _ _ _ _ _ _ _ = mk _ _ _ _ _ _ _ _ _ _ ∧
      ∀ d ∈ all attributes ++ all specializations, _
    simp only [Bool.and_eq_true, beq_iff_eq, declared, bodies, mk.injEq, List.forall_mem_append]
    tauto
  decode_unsigned a := by
    show decode { a with
      attributes := unsigned a.attributes, specializations := unsigned a.specializations } = _
    simp only [decode, DeclarationAttribute.keepsZeros_list.decode_unsigned,
      Specialization.keepsZeros_list.decode_unsigned, map_bind, bind_map_left, map_pure]
    rfl
  active_decode decoded := by
    have decodes := decode_eq_ok_iff.mp decoded
    exact congrArg₂ (· ++ ·)
      (DeclarationAttribute.keepsZeros_list.active_decode decodes.attributes)
      (Specialization.keepsZeros_list.active_decode decodes.specializations)

end Callable

namespace CustomType

instance : Doubles CustomType where
  unsigned customType := { customType with attributes := unsigned customType.attributes }
  active customType := active customType.attributes
  all customType := all customType.attributes

theorem keepsZeros : KeepsZeros decode where
  compares a b := by
    obtain ⟨fullName, attributes, modifiers, source, location, type, documentation, comments⟩ := a
    obtain ⟨fullName', attributes', modifiers', source', location', type', documentation',
      comments'⟩ := b
    have each : (attributes == attributes') = true ↔ _ :=
      DeclarationAttribute.keepsZeros_list.compares attributes attributes'
    show (_ && _) = true ↔ mk _ _ _ _ _ _ _ _ = mk _ _ _ _ _ _ _ _ ∧ ∀ d ∈ all attributes, _
    simp only [Bool.and_eq_true, beq_iff_eq, each, mk.injEq]
    tauto
  decode_unsigned a := by
    show decode { a with attributes := unsigned a.attributes } = _
    simp only [decode, DeclarationAttribute.keepsZeros_list.decode_unsigned, map_bind,
      bind_map_left, map_pure]
    rfl
  active_decode decoded :=
    DeclarationAttribute.keepsZeros_list.active_decode (decode_eq_ok_iff.mp decoded).attributes

end CustomType

end Wire

end WireTree
