import WireTree.Characteristics.Decode
import WireTree.Proofs.Selection.Basic

/-!
# The slots of a characteristics union

For each of them it is said what decoding makes of it if it is the one that counts.
Main statements: selecting follows the table of slots (`select_selects`), two unions of one kind
agree on what counts exactly if they select related expressions (`agree_iff`), and an expression is
decoded exactly if its operands are (`traverse_eq_ok_iff`).
-/

namespace WireTree

namespace CharacteristicsKind

variable {C D B : Type}

/-- The kind on the wire that selects an expression. -/
def tag : CharacteristicsKind C → Wire.CharacteristicsTag
  | emptySet => .emptySet
  | simpleSet _ => .simpleSet
  | union _ _ => .union
  | intersection _ _ => .intersection
  | invalidSetExpr => .invalidSetExpr

/-- Two expressions of the same form whose operands are related. -/
inductive Related (R : C → D → Prop) : CharacteristicsKind C → CharacteristicsKind D → Prop where
  | emptySet : Related R .emptySet .emptySet
  | simpleSet {property property' : OpProperty} (same : property = property') :
      Related R (.simpleSet property) (.simpleSet property')
  | union {left right : C} {left' right' : D} (first : R left left') (second : R right right') :
      Related R (.union left right) (.union left' right')
  | intersection {left right : C} {left' right' : D} (first : R left left')
      (second : R right right') :
      Related R (.intersection left right) (.intersection left' right')
  | invalidSetExpr : Related R .invalidSetExpr .invalidSetExpr

namespace Related

variable {R : C → D → Prop} {kind : CharacteristicsKind C} {kind' : CharacteristicsKind D}

theorem tag_eq (related : kind.Related R kind') : kind.tag = kind'.tag := by
  cases related <;> rfl

theorem join {P : C → B → Prop} {Q : D → B → Prop} {tree : CharacteristicsKind B}
    (first : kind.Related P tree) (second : kind'.Related Q tree) :
    kind.Related (fun c d => ∃ b, P c b ∧ Q d b) kind' := by
  cases first with
  | emptySet | invalidSetExpr => cases second; constructor
  | simpleSet same =>
    cases second with
    | simpleSet same' => exact .simpleSet (same.trans same'.symm)
  | union left right =>
    cases second with
    | union left' right' => exact .union ⟨_, left, left'⟩ ⟨_, right, right'⟩
  | intersection left right =>
    cases second with
    | intersection left' right' => exact .intersection ⟨_, left, left'⟩ ⟨_, right, right'⟩

theorem traverse_congr {decode : C → Decoded B} {decode' : D → Decoded B}
    (alike : kind.Related (fun c d => decode c = decode' d) kind') :
    kind.traverse decode = kind'.traverse decode' := by
  cases alike with
  | emptySet | invalidSetExpr => rfl
  | simpleSet same => rw [same]; rfl
  | union left right | intersection left right => simp only [traverse, left, right]

end Related

theorem traverse_map {m : Type → Type} [Monad m] (f : C → D) (decode : D → m B)
    (kind : CharacteristicsKind C) :
    (kind.map f).traverse decode = kind.traverse fun c => decode (f c) := by
  cases kind <;> rfl

theorem traverse_reports {decode : C → Decoded D} {faults : C → List Fault}
    (kind : CharacteristicsKind C) (each : ∀ c ∈ kind.operands, Reports (decode c) (faults c)) :
    Reports (kind.traverse decode) (kind.operands.flatMap faults) := by
  cases kind with
  | union left right | intersection left right =>
    have first := each left (by simp [operands])
    have second := each right (by simp [operands])
    exact first.bind fun _ => second.bind fun _ => .ok _
  | _ => exact .ok _

theorem traverse_eq_ok_iff {decode : C → Decoded D} {kind : CharacteristicsKind C}
    {tree : CharacteristicsKind D} :
    kind.traverse decode = .ok tree ↔ kind.Related (fun c d => decode c = .ok d) tree := by
  constructor
  · intro decoded
    cases kind with
    | union left right | intersection left right =>
      obtain ⟨left', first, rest⟩ := bind_eq_ok_iff.mp decoded
      obtain ⟨right', second, same⟩ := bind_eq_ok_iff.mp rest
      cases same
      constructor <;> assumption
    | simpleSet property => cases decoded; exact .simpleSet rfl
    | _ => cases decoded; constructor
  · intro related
    cases related with
    | emptySet | invalidSetExpr => rfl
    | simpleSet same => rw [same]; rfl
    | union first second | intersection first second =>
      exact bind_eq_ok_iff.mpr ⟨_, first, bind_eq_ok_iff.mpr ⟨_, second, rfl⟩⟩

end CharacteristicsKind

namespace Wire

/-- The payload slots of a characteristics union. -/
inductive CharacteristicsSlot where
  | simpleSet
  | setOperation

instance : SlotTag CharacteristicsTag CharacteristicsSlot where
  demand
    | .emptySet => .nothing
    | .simpleSet => .slot .simpleSet
    | .union => .slot .setOperation
    | .intersection => .slot .setOperation
    | .invalidSetExpr => .nothing
  field
    | .simpleSet => "simpleSet"
    | .setOperation => "setOperation"

namespace CharacteristicsSlots

variable {C D B : Type}

/-- Whether a slot holds a payload. -/
def holds (slots : CharacteristicsSlots C) : CharacteristicsSlot → Bool
  | .simpleSet => slots.simpleSet.isSome
  | .setOperation => slots.setOperation.isSome

/-- The union's own fault. -/
def ownFault (slots : CharacteristicsSlots C) : Option Fault :=
  slots.kind.fault? slots.holds

/-- The operands in a slot. -/
def contents (slots : CharacteristicsSlots C) : CharacteristicsSlot → List C
  | .simpleSet => []
  | .setOperation => slots.setOperation.elim [] fun operation => [operation.left, operation.right]

/-- The operands in the slot that counts, from left to right. -/
def children (slots : CharacteristicsSlots C) : List C :=
  slots.kind.slot?.elim [] slots.contents

/-- The faults of a union, given those of its operands. -/
def faultsWith (operand : C → List Fault) (slots : CharacteristicsSlots C) : List Fault :=
  unionFaults slots.ownFault (slots.children.flatMap operand)

/-- Two unions hold related payloads in a slot. -/
def Payloads (R : C → D → Prop) (a : CharacteristicsSlots C) (b : CharacteristicsSlots D) :
    CharacteristicsSlot → Prop
  | .simpleSet => a.simpleSet = b.simpleSet
  | .setOperation =>
    Option.Rel (fun p q => R p.left q.left ∧ R p.right q.right) a.setOperation b.setOperation

/-- Two unions agree on what counts, up to a relation of their operands. -/
def Agree (R : C → D → Prop) (a : CharacteristicsSlots C) (b : CharacteristicsSlots D) : Prop :=
  a.kind.Agree b.kind (Payloads R a b)

theorem mem_operands_of_mem_children {slots : CharacteristicsSlots C} {c : C}
    (member : c ∈ slots.children) : c ∈ slots.operands := by
  unfold children at member
  cases selected : slots.kind.slot? with
  | none => simp [selected] at member
  | some s =>
    rw [selected] at member
    cases s with
    | simpleSet => cases member
    | setOperation =>
      unfold operands
      cases held : slots.setOperation <;> simp_all [contents]

theorem faultsWith_map (f : C → D) (operand : D → List Fault) (slots : CharacteristicsSlots C) :
    (slots.map f).faultsWith operand = slots.faultsWith fun c => operand (f c) := by
  obtain ⟨kind, simpleSet, setOperation⟩ := slots
  have sameHolds : (map f ⟨kind, simpleSet, setOperation⟩).holds =
      holds ⟨kind, simpleSet, setOperation⟩ := by
    funext s
    cases s <;> simp [holds, map]
  have sameContents : (map f ⟨kind, simpleSet, setOperation⟩).contents =
      fun s => (contents ⟨kind, simpleSet, setOperation⟩ s).map f := by
    funext s
    cases s <;> cases setOperation <;> rfl
  unfold faultsWith ownFault children
  rw [sameHolds, sameContents]
  cases selected : kind.slot? <;> simp [map, selected, List.flatMap_map]

theorem agree_map_iff {f : B → C} {R : C → D → Prop} {a : CharacteristicsSlots B}
    {b : CharacteristicsSlots D} :
    (a.map f).Agree R b ↔ a.Agree (fun c d => R (f c) d) b := by
  have same : Payloads R (a.map f) b = Payloads (fun c d => R (f c) d) a b := by
    funext s
    cases s <;> simp only [Payloads, map, rel_map_left_iff]
  unfold Agree
  rw [same]
  rfl

/-- Only the operands of the first union matter for what a relation is asked of. -/
theorem Agree.imp_of_mem {R Q : C → D → Prop} {a : CharacteristicsSlots C}
    {b : CharacteristicsSlots D} (weaker : ∀ c ∈ a.operands, ∀ d, R c d → Q c d)
    (agree : a.Agree R b) : a.Agree Q b := by
  refine Discriminator.Agree.imp ?_ agree
  intro s payloads
  cases s with
  | simpleSet => exact payloads
  | setOperation =>
    refine rel_imp_of_mem ?_ payloads
    intro operation held other related
    have members : operation.left ∈ a.operands ∧ operation.right ∈ a.operands := by
      simp [operands, held]
    exact ⟨weaker _ members.1 _ related.1, weaker _ members.2 _ related.2⟩

theorem select_selects (slots : CharacteristicsSlots C) :
    Selects CharacteristicsKind.tag CharacteristicsKind.operands slots.kind slots.ownFault
      slots.children slots.select := by
  obtain ⟨kind, simpleSet, setOperation⟩ := slots
  cases kind with
  | unrecognized text => rfl
  | known tag =>
    cases tag with
    | simpleSet => exact .leaf _ simpleSet (fun _ => rfl) fun _ => rfl
    | union | intersection => exact .payload _ setOperation (fun _ => rfl) fun _ => rfl
    | _ => exact .bare rfl rfl

theorem agree_iff {R : C → D → Prop} {a : CharacteristicsSlots C} {b : CharacteristicsSlots D}
    (sameKind : a.kind = b.kind) :
    a.Agree R b ↔ Outcomes (CharacteristicsKind.Related R) a.select b.select := by
  obtain ⟨kind, simpleSet, setOperation⟩ := a
  obtain ⟨_, simpleSet', setOperation'⟩ := b
  obtain rfl := sameKind
  cases kind with
  | unrecognized text =>
    exact iff_of_true (Discriminator.agree_unrecognized _) (.error _)
  | known tag =>
    cases tag with
    | simpleSet =>
      refine Discriminator.agree_known_iff.trans (Outcomes.leaf_iff _ _ ?_)
      exact fun _ _ => ⟨.simpleSet, fun | .simpleSet same => same⟩
    | union =>
      refine Discriminator.agree_known_iff.trans (Outcomes.payload_iff _ _ ?_)
      exact fun _ _ =>
        ⟨fun both => .union both.1 both.2, fun | .union first second => ⟨first, second⟩⟩
    | intersection =>
      refine Discriminator.agree_known_iff.trans (Outcomes.payload_iff _ _ ?_)
      exact fun _ _ =>
        ⟨fun both => .intersection both.1 both.2,
          fun | .intersection first second => ⟨first, second⟩⟩
    | _ =>
      exact Discriminator.agree_known_iff.trans (iff_of_true trivial (.ok (by constructor)))

theorem select_map (f : C → D) (slots : CharacteristicsSlots C) :
    (slots.map f).select = slots.select.map (CharacteristicsKind.map f) := by
  obtain ⟨kind, simpleSet, setOperation⟩ := slots
  cases kind with
  | unrecognized text => rfl
  | known tag => cases tag <;> cases simpleSet <;> cases setOperation <;> rfl

/-- Decoding selects first and then decodes the operands. -/
theorem decodeWith_eq_bind (decode : C → Decoded D) (slots : CharacteristicsSlots C) :
    slots.decodeWith decode = slots.select >>= fun kind => kind.traverse decode := by
  unfold decodeWith
  cases slots.select <;> rfl

theorem decodeWith_map (f : C → D) (decode : D → Decoded B) (slots : CharacteristicsSlots C) :
    (slots.map f).decodeWith decode = slots.decodeWith fun c => decode (f c) := by
  rw [decodeWith_eq_bind, decodeWith_eq_bind, select_map]
  cases slots.select with
  | error fault => rfl
  | ok kind => exact kind.traverse_map f decode

theorem decodeWith_reports {decode : C → Decoded D} {faults : C → List Fault}
    (slots : CharacteristicsSlots C)
    (each : ∀ c ∈ slots.children, Reports (decode c) (faults c)) :
    Reports (slots.decodeWith decode) (slots.faultsWith faults) := by
  rw [decodeWith_eq_bind]
  refine slots.select_selects.reports ?_
  intro kind same
  exact kind.traverse_reports fun c member => each c (same ▸ member)

/-- Unions that agree, with operands that decode alike, decode alike. -/
theorem Agree.decodeWith_eq {decode : C → Decoded B} {decode' : D → Decoded B}
    {a : CharacteristicsSlots C} {b : CharacteristicsSlots D}
    (agree : a.Agree (fun c d => decode c = decode' d) b) :
    a.decodeWith decode = b.decodeWith decode' := by
  rw [decodeWith_eq_bind, decodeWith_eq_bind]
  refine ((agree_iff agree.1).mp agree).bind_congr ?_
  intro kind kind' related
  exact related.traverse_congr

/-- Unions that decode to the same tree agree, with operands that decode to the same trees. -/
theorem agree_of_decodeWith_eq_ok {decode : C → Decoded B} {decode' : D → Decoded B}
    {a : CharacteristicsSlots C} {b : CharacteristicsSlots D} {tree : CharacteristicsKind B}
    (first : a.decodeWith decode = .ok tree) (second : b.decodeWith decode' = .ok tree) :
    a.Agree (fun c d => ∃ t, decode c = .ok t ∧ decode' d = .ok t) b := by
  rw [decodeWith_eq_bind, bind_eq_ok_iff] at first second
  obtain ⟨kind, selected, traversed⟩ := first
  obtain ⟨kind', selected', traversed'⟩ := second
  have related := CharacteristicsKind.traverse_eq_ok_iff.mp traversed
  have related' := CharacteristicsKind.traverse_eq_ok_iff.mp traversed'
  have sameTag := related.tag_eq.trans related'.tag_eq.symm
  have sameKind := a.select_selects.kind_eq b.select_selects selected selected' sameTag
  rw [agree_iff sameKind, selected, selected', Outcomes.ok_iff]
  exact related.join related'

end CharacteristicsSlots

theorem ResolvedCharacteristics.decode_mk (slots : CharacteristicsSlots ResolvedCharacteristics) :
    decode (mk slots) = slots.decodeWith decode >>= fun kind => .ok (.mk kind) := by
  rw [decode, fold_mk, CharacteristicsSlots.decodeWith_map]
  rfl

end Wire

end WireTree
