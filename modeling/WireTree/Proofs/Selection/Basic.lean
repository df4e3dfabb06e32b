import WireTree.Discriminator
import WireTree.Proofs.Outcome
import WireTree.Proofs.Relation

/-!
# Which slot of a wire union counts

The kind selects at most one slot; the other slots are there to be read and are never looked at
again. What is said of a union below is said in terms of a table from kinds to slots and not in
terms of decoding.
Main statement: a payload that a kind selects is either there and gives the parts of the tree, or is
missing and gives the union's own fault (`Selects.payload`).
-/

namespace WireTree

/-- A part in a slot is a part of the payload that the slot holds. -/
theorem exists_of_mem_elim {α P : Type} {slot : Option α} {contents : α → List P} {part : P}
    (inside : part ∈ slot.elim [] contents) : ∃ a, slot = some a ∧ part ∈ contents a := by
  cases slot with
  | none => cases inside
  | some a => exact ⟨a, rfl, inside⟩

/-- What the kind of a union asks of the slots. -/
inductive Demand (σ : Type) where
  /-- the kind has no payload -/
  | nothing
  /-- this slot has to hold a payload -/
  | slot (s : σ)
  /-- trees have no place for the kind -/
  | unsupported

/-- The kinds of a union over the slots `σ`: the slot that each kind asks for, and the names of
the slots on the wire. -/
class SlotTag (κ : Type) (σ : outParam Type) extends UnionTag κ where
  demand : κ → Demand σ
  field : σ → String

namespace Discriminator

variable {κ σ : Type} [SlotTag κ σ]

/-- The slot that a kind selects. -/
def slot? : Discriminator κ → Option σ
  | known kind =>
    match SlotTag.demand kind with
    | .slot s => some s
    | _ => none
  | unrecognized _ => none

/-- A union's own fault, given which slots hold a payload: the kind is not supported, or the
slot that it selects is empty. -/
def fault? (kind : Discriminator κ) (holds : σ → Bool) : Option Fault :=
  match kind with
  | unrecognized text => some (.unsupported (UnionTag.union κ) text)
  | known kind =>
    match SlotTag.demand kind with
    | .nothing => none
    | .unsupported => some (.unsupported (UnionTag.union κ) (Named.name kind))
    | .slot s =>
      if holds s then none
      else some (.inconsistent (UnionTag.union κ) (SlotTag.field κ s) (Named.name kind))

/-- Two unions agree on what counts: they have the same kind, and their payloads in the slot
that it selects agree. -/
def Agree (kind kind' : Discriminator κ) (payloads : σ → Prop) : Prop :=
  kind = kind' ∧ ∀ s, kind.slot? = some s → payloads s

theorem Agree.imp {kind kind' : Discriminator κ} {payloads payloads' : σ → Prop}
    (weaker : ∀ s, payloads s → payloads' s) (agree : kind.Agree kind' payloads) :
    kind.Agree kind' payloads' :=
  ⟨agree.1, fun s selected => weaker s (agree.2 s selected)⟩

/-- Unions of one kind agree if their payloads in the slot do, if it selects one. -/
theorem agree_known_iff {tag : κ} {payloads : σ → Prop} :
    (known tag).Agree (known tag) payloads ↔
      match SlotTag.demand tag with
      | .slot s => payloads s
      | _ => True := by
  unfold Agree slot?
  cases demanded : SlotTag.demand tag <;> simp [demanded]

theorem agree_unrecognized {text : String} (payloads : σ → Prop) :
    (unrecognized text : Discriminator κ).Agree (unrecognized text) payloads := by
  simp [Agree, slot?]

end Discriminator

/-- A union's faults: its own one, and only if it has none those of its children. -/
def unionFaults (own : Option Fault) (children : List Fault) : List Fault :=
  match own with
  | some fault => [fault]
  | none => children

/-- A selection fits what the table says of a union of some kind: it fails with the union's own
fault, or there is no such fault and it yields a tree of this kind with these children. -/
def Selects {κ K P : Type} (tag : K → κ) (parts : K → List P) (kind : Discriminator κ)
    (own : Option Fault) (children : List P) (selection : Decoded K) : Prop :=
  match selection with
  | .error fault => own = some fault
  | .ok tree => own = none ∧ parts tree = children ∧ kind = .known (tag tree)

namespace Selects

variable {κ K P α : Type} {tag : K → κ} {parts : K → List P}

/-- A kind without payload. -/
theorem bare {kind : κ} {tree : K} (sameTag : tag tree = kind) (childless : parts tree = []) :
    Selects tag parts (.known kind) none [] (.ok tree) :=
  ⟨rfl, childless, congrArg Discriminator.known sameTag.symm⟩

/-- The payload in a slot. -/
theorem payload [UnionTag κ] {kind : κ} (field : String) (slot : Option α) {make : α → K}
    {contents : α → List P} (sameTag : ∀ a, tag (make a) = kind)
    (sameParts : ∀ a, parts (make a) = contents a) :
    Selects tag parts (.known kind)
      (if slot.isSome then none
        else some (.inconsistent (UnionTag.union κ) field (Named.name kind)))
      (slot.elim [] contents) ((UnionTag.payload kind field slot).map make) := by
  cases slot with
  | none => rfl
  | some a => exact ⟨rfl, sameParts a, congrArg Discriminator.known (sameTag a).symm⟩

/-- A payload that holds no parts of the tree. -/
theorem leaf [UnionTag κ] {kind : κ} (field : String) (slot : Option α) {make : α → K}
    (sameTag : ∀ a, tag (make a) = kind) (childless : ∀ a, parts (make a) = []) :
    Selects tag parts (.known kind)
      (if slot.isSome then none
        else some (.inconsistent (UnionTag.union κ) field (Named.name kind)))
      [] ((UnionTag.payload kind field slot).map make) := by
  cases slot with
  | none => rfl
  | some a => exact ⟨rfl, childless a, congrArg Discriminator.known (sameTag a).symm⟩

/-- Unions that yield trees of the same kind are of the same kind themselves. -/
theorem kind_eq {K' P' : Type} {tag' : K' → κ} {parts' : K' → List P'}
    {kind kind' : Discriminator κ} {own own' : Option Fault} {children : List P}
    {children' : List P'} {selection : Decoded K} {selection' : Decoded K'} {tree : K} {tree' : K'}
    (selects : Selects tag parts kind own children selection)
    (selects' : Selects tag' parts' kind' own' children' selection')
    (first : selection = .ok tree) (second : selection' = .ok tree')
    (sameTag : tag tree = tag' tree') : kind = kind' := by
  subst first second
  obtain ⟨-, -, tagged⟩ := selects
  obtain ⟨-, -, tagged'⟩ := selects'
  rw [tagged, tagged', sameTag]

/-- A union reports its own fault, and otherwise what decoding its children reports. -/
theorem reports {β : Type} {kind : Discriminator κ} {own : Option Fault} {children : List P}
    {selection : Decoded K} {traverse : K → Decoded β} {faults : P → List Fault}
    (selects : Selects tag parts kind own children selection)
    (traversed : ∀ tree, parts tree = children →
      Reports (traverse tree) ((parts tree).flatMap faults)) :
    Reports (selection >>= traverse) (unionFaults own (children.flatMap faults)) := by
  cases selection with
  | error fault =>
    obtain rfl : own = some fault := selects
    exact .error fault []
  | ok tree =>
    obtain ⟨rfl, same, -⟩ := selects
    rw [← same]
    exact traversed tree same

/-- A union without children reports its own fault. -/
theorem reports_leaf {kind : Discriminator κ} {own : Option Fault} {selection : Decoded K}
    (selects : Selects tag parts kind own [] selection) :
    Reports selection (unionFaults own []) := by
  cases selection with
  | error fault =>
    obtain rfl : own = some fault := selects
    exact .error fault []
  | ok tree =>
    obtain ⟨rfl, -⟩ := selects
    exact .ok tree

end Selects

/-! ## Related outcomes -/

/-- Two outcomes are related: both report the same fault, or both are values that are
related. -/
inductive Outcomes {α β : Type} (R : α → β → Prop) : Decoded α → Decoded β → Prop where
  | error (fault : Fault) : Outcomes R (.error fault) (.error fault)
  | ok {a : α} {b : β} (related : R a b) : Outcomes R (.ok a) (.ok b)

namespace Outcomes

variable {α β α' β' κ : Type} {R : α → β → Prop} {Q : α' → β' → Prop}

theorem ok_iff {a : α} {b : β} : Outcomes R (.ok a) (.ok b) ↔ R a b :=
  ⟨fun | .ok related => related, .ok⟩

theorem refl {R : α → α → Prop} (each : ∀ a, R a a) (x : Decoded α) : Outcomes R x x := by
  cases x with
  | error fault => exact .error fault
  | ok a => exact .ok (each a)

theorem eq {x y : Decoded α} (outcomes : Outcomes (· = ·) x y) : x = y := by
  cases outcomes with
  | error fault => rfl
  | ok same => rw [same]

theorem imp {R' : α → β → Prop} {x : Decoded α} {y : Decoded β}
    (weaker : ∀ a b, R a b → R' a b) (outcomes : Outcomes R x y) : Outcomes R' x y := by
  cases outcomes with
  | error fault => exact .error fault
  | ok related => exact .ok (weaker _ _ related)

/-- Going on alike from related values comes to the same. -/
theorem bind_congr {γ : Type} {x : Decoded α} {y : Decoded β} {f : α → Decoded γ}
    {g : β → Decoded γ} (outcomes : Outcomes R x y) (alike : ∀ a b, R a b → f a = g b) :
    (x >>= f) = (y >>= g) := by
  cases outcomes with
  | error fault => rfl
  | ok related => exact alike _ _ related

/-- What is made of two values is related exactly if they are. -/
theorem bind_ok_iff {x : Decoded α} {y : Decoded β} {make : α → α'} {make' : β → β'}
    (exact_ : ∀ a b, R a b ↔ Q (make a) (make' b)) :
    Outcomes R x y ↔
      Outcomes Q (x >>= fun a => .ok (make a)) (y >>= fun b => .ok (make' b)) := by
  constructor
  · intro outcomes
    cases outcomes with
    | error fault => exact .error fault
    | ok related => exact .ok ((exact_ _ _).mp related)
  · intro outcomes
    cases x with
    | error fault =>
      cases y with
      | error fault' => cases outcomes; exact .error fault
      | ok b => cases outcomes
    | ok a =>
      cases y with
      | error fault' => cases outcomes
      | ok b => exact .ok ((exact_ a b).mpr (ok_iff.mp outcomes))

/-- The payloads in two slots are related exactly if what is made of them is. -/
theorem payload_iff [UnionTag κ] (tag : κ) (field : String) {slot : Option α} {slot' : Option β}
    {make : α → α'} {make' : β → β'} (exact_ : ∀ a b, R a b ↔ Q (make a) (make' b)) :
    Option.Rel R slot slot' ↔
      Outcomes Q ((UnionTag.payload tag field slot).map make)
        ((UnionTag.payload tag field slot').map make') := by
  constructor
  · intro related
    cases related with
    | none => exact .error _
    | some related => exact .ok ((exact_ _ _).mp related)
  · intro related
    cases slot with
    | none =>
      cases slot' with
      | none => exact .none
      | some b => cases related
    | some a =>
      cases slot' with
      | none => cases related
      | some b => exact .some ((exact_ a b).mpr (ok_iff.mp related))

/-- Equal payloads, for those that hold no parts of the tree. -/
theorem leaf_iff [UnionTag κ] (tag : κ) (field : String) {slot slot' : Option α} {make : α → α'}
    {make' : α → β'} (exact_ : ∀ a b, a = b ↔ Q (make a) (make' b)) :
    slot = slot' ↔
      Outcomes Q ((UnionTag.payload tag field slot).map make)
        ((UnionTag.payload tag field slot').map make') :=
  rel_eq_iff.symm.trans (payload_iff tag field exact_)

end Outcomes

end WireTree
