import WireTree.Declaration.Decode
import WireTree.Proofs.Selection.Basic

/-!
# The slots of the other unions

Identifiers, local symbols and declarations of a namespace do not hold unions of their own kind.
Main statements: for each of them, what decoding reports, and that two of one kind agree on what
counts exactly if they select what is related (`agree_iff`).
-/

namespace WireTree

/-- The kind on the wire that selects an identifier. -/
def Identifier.tag : Identifier → Wire.IdentifierTag
  | localVariable _ => .localVariable
  | globalCallable _ => .globalCallable
  | invalidIdentifier => .invalidIdentifier

/-- The kind on the wire that selects a local symbol. -/
def LocalSymbol.tag : LocalSymbol → Wire.LocalSymbolTag
  | validName _ => .validName
  | invalidName => .invalidName

namespace Wire

/-- The payload slots of an identifier union. -/
inductive IdentifierSlot where
  | localVariable
  | globalCallable

instance : SlotTag IdentifierTag IdentifierSlot where
  demand
    | .localVariable => .slot .localVariable
    | .globalCallable => .slot .globalCallable
    | .invalidIdentifier => .nothing
  field
    | .localVariable => "localVariable"
    | .globalCallable => "globalCallable"

namespace Identifier

/-- Whether a slot holds a payload. -/
def holds (identifier : Identifier) : IdentifierSlot → Bool
  | .localVariable => identifier.localVariable.isSome
  | .globalCallable => identifier.globalCallable.isSome

/-- The faults of an identifier: its own one, if there is one. -/
def faults (identifier : Identifier) : List Fault :=
  unionFaults (identifier.kind.fault? identifier.holds) []

/-- Two identifiers hold the same payload in a slot. -/
def Payloads (a b : Identifier) : IdentifierSlot → Prop
  | .localVariable => a.localVariable = b.localVariable
  | .globalCallable => a.globalCallable = b.globalCallable

/-- Two identifiers agree on what counts. -/
def Agree (a b : Identifier) : Prop :=
  a.kind.Agree b.kind (Payloads a b)

theorem decode_selects (identifier : Identifier) :
    Selects WireTree.Identifier.tag (fun _ => ([] : List Empty)) identifier.kind
      (identifier.kind.fault? identifier.holds) [] identifier.decode := by
  obtain ⟨kind, localVariable, globalCallable⟩ := identifier
  cases kind with
  | unrecognized text => rfl
  | known tag =>
    cases tag with
    | localVariable => exact .leaf _ localVariable (fun _ => rfl) fun _ => rfl
    | globalCallable => exact .leaf _ globalCallable (fun _ => rfl) fun _ => rfl
    | invalidIdentifier => exact .bare rfl rfl

theorem decode_reports (identifier : Identifier) :
    Reports identifier.decode identifier.faults :=
  identifier.decode_selects.reports_leaf

theorem agree_iff {a b : Identifier} (sameKind : a.kind = b.kind) :
    a.Agree b ↔ Outcomes (· = ·) a.decode b.decode := by
  obtain ⟨kind, localVariable, globalCallable⟩ := a
  obtain ⟨_, localVariable', globalCallable'⟩ := b
  obtain rfl := sameKind
  cases kind with
  | unrecognized text =>
    exact iff_of_true (Discriminator.agree_unrecognized _) (.error _)
  | known tag =>
    cases tag with
    | localVariable =>
      refine Discriminator.agree_known_iff.trans (Outcomes.leaf_iff _ _ ?_)
      exact fun _ _ => (WireTree.Identifier.localVariable.injEq ..).symm ▸ Iff.rfl
    | globalCallable =>
      refine Discriminator.agree_known_iff.trans (Outcomes.leaf_iff _ _ ?_)
      exact fun _ _ => (WireTree.Identifier.globalCallable.injEq ..).symm ▸ Iff.rfl
    | invalidIdentifier =>
      exact Discriminator.agree_known_iff.trans (iff_of_true trivial (.ok rfl))

theorem Agree.decode_eq {a b : Identifier} (agree : a.Agree b) : a.decode = b.decode :=
  ((agree_iff agree.1).mp agree).eq

theorem agree_of_decode_eq_ok {a b : Identifier} {tree : WireTree.Identifier}
    (first : a.decode = .ok tree) (second : b.decode = .ok tree) : a.Agree b := by
  have sameKind := a.decode_selects.kind_eq b.decode_selects first second rfl
  rw [agree_iff sameKind, first, second]
  exact .ok rfl

end Identifier

/-- The payload slot of a local symbol union. -/
inductive LocalSymbolSlot where
  | name

instance : SlotTag LocalSymbolTag LocalSymbolSlot where
  demand
    | .validName => .slot .name
    | .invalidName => .nothing
  field
    | .name => "name"

namespace LocalSymbol

/-- Whether a slot holds a payload. -/
def holds (symbol : LocalSymbol) : LocalSymbolSlot → Bool
  | .name => symbol.name.isSome

/-- The faults of a local symbol: its own one, if there is one. -/
def faults (symbol : LocalSymbol) : List Fault :=
  unionFaults (symbol.kind.fault? symbol.holds) []

/-- Two local symbols hold the same payload in a slot. -/
def Payloads (a b : LocalSymbol) : LocalSymbolSlot → Prop
  | .name => a.name = b.name

/-- Two local symbols agree on what counts. -/
def Agree (a b : LocalSymbol) : Prop :=
  a.kind.Agree b.kind (Payloads a b)

theorem decode_selects (symbol : LocalSymbol) :
    Selects WireTree.LocalSymbol.tag (fun _ => ([] : List Empty)) symbol.kind
      (symbol.kind.fault? symbol.holds) [] symbol.decode := by
  obtain ⟨kind, name⟩ := symbol
  cases kind with
  | unrecognized text => rfl
  | known tag =>
    cases tag with
    | validName => exact .leaf _ name (fun _ => rfl) fun _ => rfl
    | invalidName => exact .bare rfl rfl

theorem decode_reports (symbol : LocalSymbol) : Reports symbol.decode symbol.faults :=
  symbol.decode_selects.reports_leaf

theorem agree_iff {a b : LocalSymbol} (sameKind : a.kind = b.kind) :
    a.Agree b ↔ Outcomes (· = ·) a.decode b.decode := by
  obtain ⟨kind, name⟩ := a
  obtain ⟨_, name'⟩ := b
  obtain rfl := sameKind
  cases kind with
  | unrecognized text =>
    exact iff_of_true (Discriminator.agree_unrecognized _) (.error _)
  | known tag =>
    cases tag with
    | validName =>
      refine Discriminator.agree_known_iff.trans (Outcomes.leaf_iff _ _ ?_)
      exact fun _ _ => (WireTree.LocalSymbol.validName.injEq ..).symm ▸ Iff.rfl
    | invalidName =>
      exact Discriminator.agree_known_iff.trans (iff_of_true trivial (.ok rfl))

theorem Agree.decode_eq {a b : LocalSymbol} (agree : a.Agree b) : a.decode = b.decode :=
  ((agree_iff agree.1).mp agree).eq

theorem agree_of_decode_eq_ok {a b : LocalSymbol} {tree : WireTree.LocalSymbol}
    (first : a.decode = .ok tree) (second : b.decode = .ok tree) : a.Agree b := by
  have sameKind := a.decode_selects.kind_eq b.decode_selects first second rfl
  rw [agree_iff sameKind, first, second]
  exact .ok rfl

end LocalSymbol

/-- The payload slots of a declaration union. -/
inductive NamespaceElementSlot where
  | callable
  | customType

instance : SlotTag NamespaceElementTag NamespaceElementSlot where
  demand
    | .callable => .slot .callable
    | .customType => .slot .customType
  field
    | .callable => "callable"
    | .customType => "customType"

/-- A declaration of either kind. -/
inductive Declared where
  | callable (callable : Callable)
  | customType (customType : CustomType)

namespace Declared

/-- The kind that selects a declaration. -/
def tag : Declared → NamespaceElementTag
  | callable _ => .callable
  | customType _ => .customType

/-- The tree of a declaration. -/
def decode : Declared → Decoded WireTree.NamespaceElement
  | callable c => do return .callable (← c.decode)
  | customType t => do return .customType (← t.decode)

/-- The faults of a declaration, given those of each kind. -/
def faultsWith (callableFaults : Callable → List Fault) (typeFaults : CustomType → List Fault) :
    Declared → List Fault
  | callable c => callableFaults c
  | customType t => typeFaults t

/-- Two declarations of the same kind that are related. -/
inductive Related (RC : Callable → Callable → Prop) (RT : CustomType → CustomType → Prop) :
    Declared → Declared → Prop where
  | callable {c c' : Callable} (related : RC c c') : Related RC RT (callable c) (callable c')
  | customType {t t' : CustomType} (related : RT t t') :
      Related RC RT (customType t) (customType t')

end Declared

namespace NamespaceElement

/-- Whether a slot holds a payload. -/
def holds (element : NamespaceElement) : NamespaceElementSlot → Bool
  | .callable => element.callable.isSome
  | .customType => element.customType.isSome

/-- The union's own fault. -/
def ownFault (element : NamespaceElement) : Option Fault :=
  element.kind.fault? element.holds

/-- The declaration in a slot. -/
def contents (element : NamespaceElement) : NamespaceElementSlot → List Declared
  | .callable => element.callable.elim [] fun c => [.callable c]
  | .customType => element.customType.elim [] fun t => [.customType t]

/-- The declaration in the slot that counts. -/
def children (element : NamespaceElement) : List Declared :=
  element.kind.slot?.elim [] element.contents

/-- The faults of a declaration union, given those of the declarations. -/
def faultsWith (callable : Callable → List Fault) (customType : CustomType → List Fault)
    (element : NamespaceElement) : List Fault :=
  unionFaults element.ownFault (element.children.flatMap (Declared.faultsWith callable customType))

/-- Two declaration unions hold related payloads in a slot. -/
def Payloads (RC : Callable → Callable → Prop) (RT : CustomType → CustomType → Prop)
    (a b : NamespaceElement) : NamespaceElementSlot → Prop
  | .callable => Option.Rel RC a.callable b.callable
  | .customType => Option.Rel RT a.customType b.customType

/-- Two declaration unions agree on what counts, up to relations of the declarations. -/
def AgreeWith (RC : Callable → Callable → Prop) (RT : CustomType → CustomType → Prop)
    (a b : NamespaceElement) : Prop :=
  a.kind.Agree b.kind (Payloads RC RT a b)

/-- The declaration that the kind selects. -/
def select (element : NamespaceElement) : Decoded Declared :=
  match element.kind with
  | .unrecognized _ => .error (UnionTag.unsupported element.kind)
  | .known .callable =>
    (UnionTag.payload NamespaceElementTag.callable "callable" element.callable).map .callable
  | .known .customType =>
    (UnionTag.payload NamespaceElementTag.customType "customType" element.customType).map
      .customType

theorem select_selects (element : NamespaceElement) :
    Selects Declared.tag (fun declared => [declared]) element.kind element.ownFault
      element.children element.select := by
  obtain ⟨kind, callable, customType⟩ := element
  cases kind with
  | unrecognized text => rfl
  | known tag =>
    cases tag with
    | callable => exact .payload _ callable (fun _ => rfl) fun _ => rfl
    | customType => exact .payload _ customType (fun _ => rfl) fun _ => rfl

/-- Decoding selects first and then decodes the declaration. -/
theorem decode_eq_bind (element : NamespaceElement) :
    element.decode = element.select >>= Declared.decode := by
  obtain ⟨kind, callable, customType⟩ := element
  cases kind with
  | unrecognized text => rfl
  | known tag =>
    cases tag with
    | callable => cases callable <;> rfl
    | customType => cases customType <;> rfl

theorem agree_iff {RC : Callable → Callable → Prop} {RT : CustomType → CustomType → Prop}
    {a b : NamespaceElement} (sameKind : a.kind = b.kind) :
    a.AgreeWith RC RT b ↔ Outcomes (Declared.Related RC RT) a.select b.select := by
  obtain ⟨kind, callable, customType⟩ := a
  obtain ⟨_, callable', customType'⟩ := b
  obtain rfl := sameKind
  cases kind with
  | unrecognized text =>
    exact iff_of_true (Discriminator.agree_unrecognized _) (.error _)
  | known tag =>
    cases tag with
    | callable =>
      refine Discriminator.agree_known_iff.trans (Outcomes.payload_iff _ _ ?_)
      exact fun _ _ => ⟨.callable, fun | .callable related => related⟩
    | customType =>
      refine Discriminator.agree_known_iff.trans (Outcomes.payload_iff _ _ ?_)
      exact fun _ _ => ⟨.customType, fun | .customType related => related⟩

end NamespaceElement

end Wire

end WireTree
