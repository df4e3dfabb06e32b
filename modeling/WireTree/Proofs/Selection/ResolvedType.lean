import WireTree.Proofs.Selection.Basic
import WireTree.ResolvedType.Decode

/-!
# The slots of a type union

For each of them it is said what decoding makes of it if it is the one that counts.
Main statements: selecting follows the table of slots (`select_selects`), two unions of one kind
agree on what counts exactly if they select related types (`agree_iff`), and a type is decoded
exactly if its parts are (`traverse_eq_ok_iff`).
-/

namespace WireTree

/-- A part of a type, in the role that it has there. -/
inductive TypePart (T U P C : Type) where
  | type (t : T)
  | userDefinedType (reference : U)
  | typeParameter (parameter : P)
  | characteristics (c : C)

/-- Replace a part that is a type. -/
def TypePart.map {T T' U P C : Type} (f : T → T') : TypePart T U P C → TypePart T' U P C
  | .type t => .type (f t)
  | .userDefinedType reference => .userDefinedType reference
  | .typeParameter parameter => .typeParameter parameter
  | .characteristics c => .characteristics c

/-- What decoding a part reports, given how the parts of each role are decoded. -/
def TypePart.fault? {T T' U U' P P' C C' : Type} (type : T → Decoded T')
    (reference : U → Decoded U') (parameter : P → Decoded P')
    (characteristics : C → Decoded C') : TypePart T U P C → Option Fault
  | .type t => WireTree.fault? (type t)
  | .userDefinedType r => WireTree.fault? (reference r)
  | .typeParameter p => WireTree.fault? (parameter p)
  | .characteristics c => WireTree.fault? (characteristics c)

namespace TypeKind

variable {T T' T'' U U' U'' P P' P'' C C' C'' : Type}

/-- The kind on the wire that selects a type. -/
def tag : TypeKind T U P C → Wire.TypeTag
  | unitType => .unitType
  | int => .int
  | bigInt => .bigInt
  | double => .double
  | bool => .bool
  | string => .string
  | qubit => .qubit
  | result => .result
  | pauli => .pauli
  | range => .range
  | arrayType _ => .arrayType
  | tupleType _ => .tupleType
  | userDefinedType _ => .userDefinedType
  | typeParameter _ => .typeParameter
  | operation _ _ _ => .operation
  | function _ _ => .function
  | missingType => .missingType
  | invalidType => .invalidType

/-- The parts of a type, in the order in which they are decoded. -/
def parts : TypeKind T U P C → List (TypePart T U P C)
  | arrayType item => [.type item]
  | tupleType items => items.map .type
  | userDefinedType reference => [.userDefinedType reference]
  | typeParameter parameter => [.typeParameter parameter]
  | operation domain codomain c => [.type domain, .type codomain, .characteristics c]
  | function domain codomain => [.type domain, .type codomain]
  | _ => []

/-- Two types of the same form whose parts are related. -/
inductive Related (RT : T → T' → Prop) (RU : U → U' → Prop) (RP : P → P' → Prop)
    (RC : C → C' → Prop) : TypeKind T U P C → TypeKind T' U' P' C' → Prop where
  | unitType : Related RT RU RP RC .unitType .unitType
  | int : Related RT RU RP RC .int .int
  | bigInt : Related RT RU RP RC .bigInt .bigInt
  | double : Related RT RU RP RC .double .double
  | bool : Related RT RU RP RC .bool .bool
  | string : Related RT RU RP RC .string .string
  | qubit : Related RT RU RP RC .qubit .qubit
  | result : Related RT RU RP RC .result .result
  | pauli : Related RT RU RP RC .pauli .pauli
  | range : Related RT RU RP RC .range .range
  | arrayType {item : T} {item' : T'} (related : RT item item') :
      Related RT RU RP RC (.arrayType item) (.arrayType item')
  | tupleType {items : List T} {items' : List T'} (related : List.Forall₂ RT items items') :
      Related RT RU RP RC (.tupleType items) (.tupleType items')
  | userDefinedType {reference : U} {reference' : U'} (related : RU reference reference') :
      Related RT RU RP RC (.userDefinedType reference) (.userDefinedType reference')
  | typeParameter {parameter : P} {parameter' : P'} (related : RP parameter parameter') :
      Related RT RU RP RC (.typeParameter parameter) (.typeParameter parameter')
  | operation {domain codomain : T} {domain' codomain' : T'} {c : C} {c' : C'}
      (first : RT domain domain') (second : RT codomain codomain') (third : RC c c') :
      Related RT RU RP RC (.operation domain codomain c) (.operation domain' codomain' c')
  | function {domain codomain : T} {domain' codomain' : T'} (first : RT domain domain')
      (second : RT codomain codomain') :
      Related RT RU RP RC (.function domain codomain) (.function domain' codomain')
  | missingType : Related RT RU RP RC .missingType .missingType
  | invalidType : Related RT RU RP RC .invalidType .invalidType

namespace Related

variable {RT : T → T' → Prop} {RU : U → U' → Prop} {RP : P → P' → Prop} {RC : C → C' → Prop}
  {kind : TypeKind T U P C} {kind' : TypeKind T' U' P' C'}

theorem tag_eq (related : kind.Related RT RU RP RC kind') : kind.tag = kind'.tag := by
  cases related <;> rfl

theorem join {QT : T → T'' → Prop} {QU : U → U'' → Prop} {QP : P → P'' → Prop}
    {QC : C → C'' → Prop} {QT' : T' → T'' → Prop} {QU' : U' → U'' → Prop}
    {QP' : P' → P'' → Prop} {QC' : C' → C'' → Prop} {tree : TypeKind T'' U'' P'' C''}
    (first : kind.Related QT QU QP QC tree) (second : kind'.Related QT' QU' QP' QC' tree) :
    kind.Related (fun a b => ∃ c, QT a c ∧ QT' b c) (fun a b => ∃ c, QU a c ∧ QU' b c)
      (fun a b => ∃ c, QP a c ∧ QP' b c) (fun a b => ∃ c, QC a c ∧ QC' b c) kind' := by
  cases first with
  | arrayType related =>
    cases second with
    | arrayType related' => exact .arrayType ⟨_, related, related'⟩
  | tupleType related =>
    cases second with
    | tupleType related' => exact .tupleType (forall₂_join related related')
  | userDefinedType related =>
    cases second with
    | userDefinedType related' => exact .userDefinedType ⟨_, related, related'⟩
  | typeParameter related =>
    cases second with
    | typeParameter related' => exact .typeParameter ⟨_, related, related'⟩
  | operation domain codomain c =>
    cases second with
    | operation domain' codomain' c' =>
      exact .operation ⟨_, domain, domain'⟩ ⟨_, codomain, codomain'⟩ ⟨_, c, c'⟩
  | function domain codomain =>
    cases second with
    | function domain' codomain' => exact .function ⟨_, domain, domain'⟩ ⟨_, codomain, codomain'⟩
  | _ => cases second; constructor

theorem traverse_congr {type : T → Decoded T''} {type' : T' → Decoded T''}
    {reference : U → Decoded U''} {reference' : U' → Decoded U''}
    {parameter : P → Decoded P''} {parameter' : P' → Decoded P''}
    {characteristics : C → Decoded C''} {characteristics' : C' → Decoded C''}
    (alike : kind.Related (fun a b => type a = type' b) (fun a b => reference a = reference' b)
      (fun a b => parameter a = parameter' b)
      (fun a b => characteristics a = characteristics' b) kind') :
    kind.traverse type reference parameter characteristics =
      kind'.traverse type' reference' parameter' characteristics' := by
  cases alike with
  | arrayType related | userDefinedType related | typeParameter related =>
    simp only [traverse, related]
  | tupleType related => simp only [traverse, mapM_congr_forall₂ related]
  | operation domain codomain c => simp only [traverse, domain, codomain, c]
  | function domain codomain => simp only [traverse, domain, codomain]
  | _ => rfl

end Related

theorem traverse_map {m : Type → Type} [Monad m] [LawfulMonad m] (f : T → T')
    (type : T' → m T'') (reference : U → m U') (parameter : P → m P')
    (characteristics : C → m C') (kind : TypeKind T U P C) :
    (kind.map f).traverse type reference parameter characteristics =
      kind.traverse (fun t => type (f t)) reference parameter characteristics := by
  cases kind with
  | tupleType items => simp only [map, traverse, List.mapM_map]; rfl
  | _ => rfl

theorem traverse_reports {type : T → Decoded T'} {reference : U → Decoded U'}
    {parameter : P → Decoded P'} {characteristics : C → Decoded C'}
    {faults : TypePart T U P C → List Fault} (kind : TypeKind T U P C)
    (each : ∀ part ∈ kind.parts,
      part.fault? type reference parameter characteristics = (faults part).head?) :
    Reports (kind.traverse type reference parameter characteristics)
      (kind.parts.flatMap faults) := by
  cases kind with
  | arrayType item =>
    have first : Reports (type item) (faults (.type item)) := each (.type item) (by simp [parts])
    exact first.bind fun _ => .ok _
  | tupleType items =>
    have all : ∀ t ∈ items, Reports (type t) (faults (.type t)) := by
      intro t member
      exact each (.type t) (List.mem_map_of_mem member)
    rw [parts, List.flatMap_map]
    exact (Reports.mapM all).bind_ok
  | userDefinedType r =>
    have first : Reports (reference r) (faults (.userDefinedType r)) :=
      each (.userDefinedType r) (by simp [parts])
    exact first.bind fun _ => .ok _
  | typeParameter p =>
    have first : Reports (parameter p) (faults (.typeParameter p)) :=
      each (.typeParameter p) (by simp [parts])
    exact first.bind fun _ => .ok _
  | operation domain codomain c =>
    have first : Reports (type domain) (faults (.type domain)) :=
      each (.type domain) (by simp [parts])
    have second : Reports (type codomain) (faults (.type codomain)) :=
      each (.type codomain) (by simp [parts])
    have third : Reports (characteristics c) (faults (.characteristics c)) :=
      each (.characteristics c) (by simp [parts])
    exact first.bind fun _ => second.bind fun _ => third.bind fun _ => .ok _
  | function domain codomain =>
    have first : Reports (type domain) (faults (.type domain)) :=
      each (.type domain) (by simp [parts])
    have second : Reports (type codomain) (faults (.type codomain)) :=
      each (.type codomain) (by simp [parts])
    exact first.bind fun _ => second.bind fun _ => .ok _
  | _ => exact .ok _

theorem traverse_eq_ok_iff {type : T → Decoded T'} {reference : U → Decoded U'}
    {parameter : P → Decoded P'} {characteristics : C → Decoded C'} {kind : TypeKind T U P C}
    {tree : TypeKind T' U' P' C'} :
    kind.traverse type reference parameter characteristics = .ok tree ↔
      kind.Related (fun a b => type a = .ok b) (fun a b => reference a = .ok b)
        (fun a b => parameter a = .ok b) (fun a b => characteristics a = .ok b) tree := by
  constructor
  · intro decoded
    cases kind with
    | arrayType item | userDefinedType item | typeParameter item =>
      obtain ⟨item', related, same⟩ := bind_eq_ok_iff.mp decoded
      cases same
      constructor
      exact related
    | tupleType items =>
      obtain ⟨items', related, same⟩ := bind_eq_ok_iff.mp decoded
      cases same
      exact .tupleType (mapM_eq_ok_iff.mp related)
    | operation domain codomain c =>
      obtain ⟨domain', first, rest⟩ := bind_eq_ok_iff.mp decoded
      obtain ⟨codomain', second, rest⟩ := bind_eq_ok_iff.mp rest
      obtain ⟨c', third, same⟩ := bind_eq_ok_iff.mp rest
      cases same
      exact .operation first second third
    | function domain codomain =>
      obtain ⟨domain', first, rest⟩ := bind_eq_ok_iff.mp decoded
      obtain ⟨codomain', second, same⟩ := bind_eq_ok_iff.mp rest
      cases same
      exact .function first second
    | _ => cases decoded; constructor
  · intro related
    cases related with
    | arrayType related | userDefinedType related | typeParameter related =>
      exact bind_eq_ok_iff.mpr ⟨_, related, rfl⟩
    | tupleType related => exact bind_eq_ok_iff.mpr ⟨_, mapM_eq_ok_iff.mpr related, rfl⟩
    | operation first second third =>
      refine bind_eq_ok_iff.mpr ⟨_, first, bind_eq_ok_iff.mpr ⟨_, second, ?_⟩⟩
      exact bind_eq_ok_iff.mpr ⟨_, third, rfl⟩
    | function first second =>
      exact bind_eq_ok_iff.mpr ⟨_, first, bind_eq_ok_iff.mpr ⟨_, second, rfl⟩⟩
    | _ => rfl

end TypeKind

namespace Wire

/-- The payload slots of a type union. -/
inductive TypeSlot where
  | arrayType
  | tupleType
  | userDefinedType
  | typeParameter
  | operation
  | function

instance : SlotTag TypeTag TypeSlot where
  demand
    | .arrayType => .slot .arrayType
    | .tupleType => .slot .tupleType
    | .userDefinedType => .slot .userDefinedType
    | .typeParameter => .slot .typeParameter
    | .operation => .slot .operation
    | .function => .slot .function
    | _ => .nothing
  field
    | .arrayType => "arrayType"
    | .tupleType => "tupleType"
    | .userDefinedType => "userDefinedType"
    | .typeParameter => "typeParameter"
    | .operation => "operation"
    | .function => "function"

namespace TypeSlots

variable {T T' T'' U U' U'' P P' P'' C C' C'' : Type}

/-- Whether a slot holds a payload. -/
def holds (slots : TypeSlots T U P C) : TypeSlot → Bool
  | .arrayType => slots.arrayType.isSome
  | .tupleType => slots.tupleType.isSome
  | .userDefinedType => slots.userDefinedType.isSome
  | .typeParameter => slots.typeParameter.isSome
  | .operation => slots.operation.isSome
  | .function => slots.function.isSome

/-- The union's own fault. -/
def ownFault (slots : TypeSlots T U P C) : Option Fault :=
  slots.kind.fault? slots.holds

/-- The parts in a slot: of an operation or a function first the domain, then the codomain and
then what is known of it. -/
def contents (slots : TypeSlots T U P C) : TypeSlot → List (TypePart T U P C)
  | .arrayType => slots.arrayType.elim [] fun item => [.type item]
  | .tupleType => slots.tupleType.elim [] fun items => items.map .type
  | .userDefinedType => slots.userDefinedType.elim [] fun reference => [.userDefinedType reference]
  | .typeParameter => slots.typeParameter.elim [] fun parameter => [.typeParameter parameter]
  | .operation => slots.operation.elim [] fun operation =>
    [.type operation.domain, .type operation.codomain,
      .characteristics operation.characteristics]
  | .function => slots.function.elim [] fun function =>
    [.type function.domain, .type function.codomain]

/-- The parts in the slot that counts. -/
def children (slots : TypeSlots T U P C) : List (TypePart T U P C) :=
  slots.kind.slot?.elim [] slots.contents

/-- The faults of a union, given those of its parts. -/
def faultsWith (part : TypePart T U P C → List Fault) (slots : TypeSlots T U P C) :
    List Fault :=
  unionFaults slots.ownFault (slots.children.flatMap part)

/-- Two unions hold related payloads in a slot. -/
def Payloads (RT : T → T' → Prop) (RU : U → U' → Prop) (RP : P → P' → Prop)
    (RC : C → C' → Prop) (a : TypeSlots T U P C) (b : TypeSlots T' U' P' C') : TypeSlot → Prop
  | .arrayType => Option.Rel RT a.arrayType b.arrayType
  | .tupleType => Option.Rel (List.Forall₂ RT) a.tupleType b.tupleType
  | .userDefinedType => Option.Rel RU a.userDefinedType b.userDefinedType
  | .typeParameter => Option.Rel RP a.typeParameter b.typeParameter
  | .operation => Option.Rel (fun o o' => RT o.domain o'.domain ∧ RT o.codomain o'.codomain ∧
      RC o.characteristics o'.characteristics) a.operation b.operation
  | .function => Option.Rel (fun g g' => RT g.domain g'.domain ∧ RT g.codomain g'.codomain)
      a.function b.function

/-- Two unions agree on what counts, up to relations of their parts. -/
def Agree (RT : T → T' → Prop) (RU : U → U' → Prop) (RP : P → P' → Prop) (RC : C → C' → Prop)
    (a : TypeSlots T U P C) (b : TypeSlots T' U' P' C') : Prop :=
  a.kind.Agree b.kind (Payloads RT RU RP RC a b)

theorem mem_types_of_mem_children {slots : TypeSlots T U P C} {t : T}
    (member : .type t ∈ slots.children) : t ∈ slots.types := by
  obtain ⟨kind, array, tuple, reference, parameter, operation, function⟩ := slots
  unfold children at member
  simp only at member
  cases selected : kind.slot? with
  | none => simp [selected] at member
  | some s =>
    rw [selected] at member
    cases s with
    | arrayType => cases array <;> simp_all [contents, types]
    | tupleType => cases tuple <;> simp_all [contents, types]
    | userDefinedType => cases reference <;> simp_all [contents]
    | typeParameter => cases parameter <;> simp_all [contents]
    | operation =>
      cases operation with
      | none => cases member
      | some o => rcases (by simpa [contents] using member) with rfl | rfl <;> simp [types]
    | function =>
      cases function with
      | none => cases member
      | some g => rcases (by simpa [contents] using member) with rfl | rfl <;> simp [types]

theorem faultsWith_map (f : T → T') (part : TypePart T' U P C → List Fault)
    (slots : TypeSlots T U P C) :
    (slots.map f).faultsWith part = slots.faultsWith fun p => part (p.map f) := by
  have sameHolds : (slots.map f).holds = slots.holds := by
    funext s
    cases s <;> simp [holds, map]
  have sameContents : (slots.map f).contents = fun s => (slots.contents s).map (.map f) := by
    obtain ⟨kind, array, tuple, reference, parameter, operation, function⟩ := slots
    funext s
    cases s with
    | tupleType => cases tuple <;> simp [contents, map, TypePart.map]
    | arrayType => cases array <;> rfl
    | userDefinedType => cases reference <;> rfl
    | typeParameter => cases parameter <;> rfl
    | operation => cases operation <;> rfl
    | function => cases function <;> rfl
  have sameKind : (slots.map f).kind = slots.kind := rfl
  unfold faultsWith ownFault children
  rw [sameHolds, sameContents, sameKind]
  cases slots.kind.slot? with
  | none => rfl
  | some s => rw [Option.elim_some, Option.elim_some, List.flatMap_map]

theorem agree_map_iff {f : T'' → T} {RT : T → T' → Prop} {RU : U → U' → Prop}
    {RP : P → P' → Prop} {RC : C → C' → Prop} {a : TypeSlots T'' U P C}
    {b : TypeSlots T' U' P' C'} :
    (a.map f).Agree RT RU RP RC b ↔ a.Agree (fun t t' => RT (f t) t') RU RP RC b := by
  have same : Payloads RT RU RP RC (a.map f) b =
      Payloads (fun t t' => RT (f t) t') RU RP RC a b := by
    funext s
    cases s <;> simp only [Payloads, map, rel_map_left_iff, List.forall₂_map_left_iff]
  unfold Agree
  rw [same]
  rfl

/-- Only the parts of the first union matter for what the relations are asked of. -/
theorem Agree.imp_of_mem {RT QT : T → T' → Prop} {RU QU : U → U' → Prop} {RP QP : P → P' → Prop}
    {RC QC : C → C' → Prop} {a : TypeSlots T U P C} {b : TypeSlots T' U' P' C'}
    (types : ∀ t ∈ a.types, ∀ t', RT t t' → QT t t') (references : ∀ r r', RU r r' → QU r r')
    (parameters : ∀ p p', RP p p' → QP p p') (characteristics : ∀ c c', RC c c' → QC c c')
    (agree : a.Agree RT RU RP RC b) : a.Agree QT QU QP QC b := by
  refine Discriminator.Agree.imp ?_ agree
  intro s payloads
  cases s with
  | arrayType =>
    refine rel_imp_of_mem ?_ payloads
    intro item held
    exact types item (by simp [TypeSlots.types, held])
  | tupleType =>
    refine rel_imp_of_mem ?_ payloads
    intro items held items' related
    refine forall₂_imp_of_mem ?_ related
    intro t member
    exact types t (by simp [TypeSlots.types, held, member])
  | userDefinedType => exact rel_imp_of_mem (fun r _ => references r) payloads
  | typeParameter => exact rel_imp_of_mem (fun p _ => parameters p) payloads
  | operation =>
    refine rel_imp_of_mem ?_ payloads
    intro operation held operation' related
    have members : operation.domain ∈ a.types ∧ operation.codomain ∈ a.types := by
      simp [TypeSlots.types, held]
    obtain ⟨domain, codomain, known⟩ := related
    exact ⟨types _ members.1 _ domain, types _ members.2 _ codomain, characteristics _ _ known⟩
  | function =>
    refine rel_imp_of_mem ?_ payloads
    intro function held function' related
    have members : function.domain ∈ a.types ∧ function.codomain ∈ a.types := by
      simp [TypeSlots.types, held]
    exact ⟨types _ members.1 _ related.1, types _ members.2 _ related.2⟩

theorem select_selects (slots : TypeSlots T U P C) :
    Selects TypeKind.tag TypeKind.parts slots.kind slots.ownFault slots.children
      slots.select := by
  obtain ⟨kind, array, tuple, reference, parameter, operation, function⟩ := slots
  cases kind with
  | unrecognized text => rfl
  | known tag =>
    cases tag with
    | arrayType => exact .payload _ array (fun _ => rfl) fun _ => rfl
    | tupleType => exact .payload _ tuple (fun _ => rfl) fun _ => rfl
    | userDefinedType => exact .payload _ reference (fun _ => rfl) fun _ => rfl
    | typeParameter => exact .payload _ parameter (fun _ => rfl) fun _ => rfl
    | operation => exact .payload _ operation (fun _ => rfl) fun _ => rfl
    | function => exact .payload _ function (fun _ => rfl) fun _ => rfl
    | _ => exact .bare rfl rfl

theorem agree_iff {RT : T → T' → Prop} {RU : U → U' → Prop} {RP : P → P' → Prop}
    {RC : C → C' → Prop} {a : TypeSlots T U P C} {b : TypeSlots T' U' P' C'}
    (sameKind : a.kind = b.kind) :
    a.Agree RT RU RP RC b ↔ Outcomes (TypeKind.Related RT RU RP RC) a.select b.select := by
  obtain ⟨kind, array, tuple, reference, parameter, operation, function⟩ := a
  obtain ⟨_, array', tuple', reference', parameter', operation', function'⟩ := b
  obtain rfl := sameKind
  cases kind with
  | unrecognized text =>
    exact iff_of_true (Discriminator.agree_unrecognized _) (.error _)
  | known tag =>
    cases tag with
    | arrayType =>
      refine Discriminator.agree_known_iff.trans (Outcomes.payload_iff _ _ ?_)
      exact fun _ _ => ⟨.arrayType, fun | .arrayType related => related⟩
    | tupleType =>
      refine Discriminator.agree_known_iff.trans (Outcomes.payload_iff _ _ ?_)
      exact fun _ _ => ⟨.tupleType, fun | .tupleType related => related⟩
    | userDefinedType =>
      refine Discriminator.agree_known_iff.trans (Outcomes.payload_iff _ _ ?_)
      exact fun _ _ => ⟨.userDefinedType, fun | .userDefinedType related => related⟩
    | typeParameter =>
      refine Discriminator.agree_known_iff.trans (Outcomes.payload_iff _ _ ?_)
      exact fun _ _ => ⟨.typeParameter, fun | .typeParameter related => related⟩
    | operation =>
      refine Discriminator.agree_known_iff.trans (Outcomes.payload_iff _ _ ?_)
      exact fun _ _ => ⟨fun all => .operation all.1 all.2.1 all.2.2,
        fun | .operation first second third => ⟨first, second, third⟩⟩
    | function =>
      refine Discriminator.agree_known_iff.trans (Outcomes.payload_iff _ _ ?_)
      exact fun _ _ => ⟨fun both => .function both.1 both.2,
        fun | .function first second => ⟨first, second⟩⟩
    | _ =>
      exact Discriminator.agree_known_iff.trans (iff_of_true trivial (.ok (by constructor)))

theorem select_map (f : T → T') (slots : TypeSlots T U P C) :
    (slots.map f).select = slots.select.map (TypeKind.map f) := by
  obtain ⟨kind, array, tuple, reference, parameter, operation, function⟩ := slots
  cases kind with
  | unrecognized text => rfl
  | known tag =>
    cases tag with
    | arrayType => cases array <;> rfl
    | tupleType => cases tuple <;> rfl
    | userDefinedType => cases reference <;> rfl
    | typeParameter => cases parameter <;> rfl
    | operation => cases operation <;> rfl
    | function => cases function <;> rfl
    | _ => rfl

/-- Decoding selects first and then decodes the parts. -/
theorem decodeWith_eq_bind (type : T → Decoded T') (reference : U → Decoded U')
    (parameter : P → Decoded P') (characteristics : C → Decoded C')
    (slots : TypeSlots T U P C) :
    slots.decodeWith type reference parameter characteristics =
      slots.select >>= fun kind => kind.traverse type reference parameter characteristics := by
  unfold decodeWith
  cases slots.select <;> rfl

theorem decodeWith_map (f : T → T') (type : T' → Decoded T'') (reference : U → Decoded U')
    (parameter : P → Decoded P') (characteristics : C → Decoded C')
    (slots : TypeSlots T U P C) :
    (slots.map f).decodeWith type reference parameter characteristics =
      slots.decodeWith (fun t => type (f t)) reference parameter characteristics := by
  rw [decodeWith_eq_bind, decodeWith_eq_bind, select_map]
  cases slots.select with
  | error fault => rfl
  | ok kind => exact kind.traverse_map f type reference parameter characteristics

theorem decodeWith_reports {type : T → Decoded T'} {reference : U → Decoded U'}
    {parameter : P → Decoded P'} {characteristics : C → Decoded C'}
    {faults : TypePart T U P C → List Fault} (slots : TypeSlots T U P C)
    (each : ∀ part ∈ slots.children,
      part.fault? type reference parameter characteristics = (faults part).head?) :
    Reports (slots.decodeWith type reference parameter characteristics)
      (slots.faultsWith faults) := by
  rw [decodeWith_eq_bind]
  refine slots.select_selects.reports ?_
  intro kind same
  exact kind.traverse_reports fun part member => each part (same ▸ member)

/-- Unions that agree, with parts that decode alike, decode alike. -/
theorem Agree.decodeWith_eq {type : T → Decoded T''} {type' : T' → Decoded T''}
    {reference : U → Decoded U''} {reference' : U' → Decoded U''}
    {parameter : P → Decoded P''} {parameter' : P' → Decoded P''}
    {characteristics : C → Decoded C''} {characteristics' : C' → Decoded C''}
    {a : TypeSlots T U P C} {b : TypeSlots T' U' P' C'}
    (agree : a.Agree (fun t t' => type t = type' t') (fun r r' => reference r = reference' r')
      (fun p p' => parameter p = parameter' p')
      (fun c c' => characteristics c = characteristics' c') b) :
    a.decodeWith type reference parameter characteristics =
      b.decodeWith type' reference' parameter' characteristics' := by
  rw [decodeWith_eq_bind, decodeWith_eq_bind]
  refine ((agree_iff agree.1).mp agree).bind_congr ?_
  intro kind kind' related
  exact related.traverse_congr

/-- Unions that decode to the same tree agree, with parts that decode to the same trees. -/
theorem agree_of_decodeWith_eq_ok {type : T → Decoded T''} {type' : T' → Decoded T''}
    {reference : U → Decoded U''} {reference' : U' → Decoded U''}
    {parameter : P → Decoded P''} {parameter' : P' → Decoded P''}
    {characteristics : C → Decoded C''} {characteristics' : C' → Decoded C''}
    {a : TypeSlots T U P C} {b : TypeSlots T' U' P' C'} {tree : TypeKind T'' U'' P'' C''}
    (first : a.decodeWith type reference parameter characteristics = .ok tree)
    (second : b.decodeWith type' reference' parameter' characteristics' = .ok tree) :
    a.Agree (fun t t' => ∃ x, type t = .ok x ∧ type' t' = .ok x)
      (fun r r' => ∃ x, reference r = .ok x ∧ reference' r' = .ok x)
      (fun p p' => ∃ x, parameter p = .ok x ∧ parameter' p' = .ok x)
      (fun c c' => ∃ x, characteristics c = .ok x ∧ characteristics' c' = .ok x) b := by
  rw [decodeWith_eq_bind, bind_eq_ok_iff] at first second
  obtain ⟨kind, selected, traversed⟩ := first
  obtain ⟨kind', selected', traversed'⟩ := second
  have related := TypeKind.traverse_eq_ok_iff.mp traversed
  have related' := TypeKind.traverse_eq_ok_iff.mp traversed'
  have sameTag := related.tag_eq.trans related'.tag_eq.symm
  have sameKind := a.select_selects.kind_eq b.select_selects selected selected' sameTag
  rw [agree_iff sameKind, selected, selected', Outcomes.ok_iff]
  exact related.join related'

end TypeSlots

theorem ResolvedType.decode_mk (slots : Slots ResolvedType) :
    decode (mk slots) =
      slots.decodeWith decode pure pure CallableInformation.decode >>= fun kind =>
        .ok (.mk kind) := by
  rw [decode, fold_mk, TypeSlots.decodeWith_map]
  rfl

end Wire

end WireTree
