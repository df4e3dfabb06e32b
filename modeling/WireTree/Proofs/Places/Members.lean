import Mathlib.Data.List.Perm.Basic
import Mathlib.Logic.Relation
import WireTree.Format.Wire
import WireTree.Proofs.Conformance.Reading
import WireTree.Proofs.Places.Congruence

/-!
# The members of records

In which order an object gives them does not matter for whether it is read and as what, and members
under unknown keys do not matter at all: what they hold is neither read nor counted, only its text
has to be well formed.
Main statement: `Wire.Format.members_irrelevant`, for any number of such changes anywhere in a
document.
-/

namespace WireTree

open Json (Outline)

variable {S : Type → Type 1} {ι α β σ τ : Type} {inside : Inside S} {feed : Feed}

/-! ## The order of members -/

section Order

variable {κ ν : Type} [DecidableEq κ] {members members' : List (κ × ν)}

theorem valuesOf_perm (order : members.Perm members') (key : κ) :
    (valuesOf members key).Perm (valuesOf members' key) :=
  (order.filter _).map _

theorem valuesOf_eq_nil_iff_of_perm (order : members.Perm members') (key : κ) :
    valuesOf members key = [] ↔ valuesOf members' key = [] := by
  have own := valuesOf_perm order key
  exact ⟨fun none => (none ▸ own).nil_eq.symm, fun none => (none ▸ own).eq_nil⟩

theorem valuesOf_eq_singleton_iff_of_perm (order : members.Perm members') (key : κ) (value : ν) :
    valuesOf members key = [value] ↔ valuesOf members' key = [value] := by
  have own := valuesOf_perm order key
  exact ⟨fun one => List.perm_singleton.mp (one ▸ own.symm),
    fun one => List.perm_singleton.mp (one ▸ own)⟩

theorem besides_perm (order : members.Perm members') (key : κ) :
    (besides members key).Perm (besides members' key) :=
  order.filter _

end Order

/-- A record takes the same values from its members in any order. -/
theorem Fields.readObject_sameValues {fields : Fields S σ τ}
    {members members' : List Outline.Member} (order : members.Perm members') (closed : Bool) :
    SameValues (fields.readObject inside feed members closed)
      (fields.readObject inside feed members' closed) := by
  intro values
  induction fields generalizing members members' with
  | nil =>
    rw [readObject_nil_eq_ok_iff, readObject_nil_eq_ok_iff]
    simp only [order.mem_iff]
  | cons key presence schema rest ih =>
    obtain ⟨a, values⟩ := values
    rw [readObject_cons_eq_ok_iff, readObject_cons_eq_ok_iff,
      ih (besides_perm order (some key)) values, valuesOf_eq_nil_iff_of_perm order]
    simp only [valuesOf_eq_singleton_iff_of_perm order]

/-! ## Unknown members -/

namespace Fields

theorem readMember_of_not_mem_keys {fields : Fields S σ τ} {key : String}
    (unknown : key ∉ fields.keys) (value : Outline) (slots : σ) :
    fields.readMember inside feed key value slots = .ok none := by
  induction fields with
  | nil => rfl
  | cons name presence schema rest ih =>
    obtain ⟨slot, slots⟩ := slots
    rw [keys, List.mem_cons, not_or] at unknown
    rw [readMember, if_neg (Ne.symm unknown.1), ih unknown.2]
    rfl

/-- A member under an unknown key is skipped. -/
theorem readMembers_of_unknown {fields : Fields S σ τ} {key : String} {value : Outline}
    (unknown : key ∉ fields.keys) (intact : value.intact = true)
    (before after : List Outline.Member) (slots : σ) :
    fields.readMembers inside feed slots (before ++ (some key, value) :: after) =
      fields.readMembers inside feed slots (before ++ after) := by
  rw [readMembers_append, readMembers_append]
  refine congrArg _ (funext fun slots => ?_)
  rw [readMembers, readMember_of_not_mem_keys unknown]
  show (if value.intact then _ else _) = _
  rw [intact]
  rfl

end Fields

/-! ## Changes anywhere in a value -/

variable {g : Grammar ι}

/-- One of two values has the members of a record, anywhere inside, in another order. -/
inductive Reordered (g : Grammar ι) {α : Type} (schema : Schema g.Carrier α) :
    Outline → Outline → Prop where
  | intro {β σ τ : Type} {name : String} {fields : Fields (Schema g.Carrier) σ τ} {make : τ → β}
      {gap : Outline → Outline} {members members' : List Outline.Member} {closed : Bool}
      (place : Place g schema (.shape (.record name fields make)) gap)
      (order : members.Perm members') :
      Reordered g schema (gap (.object members closed)) (gap (.object members' closed))

/-- The second value has one more member than the first in a record anywhere inside, under a key
that the record does not know. -/
inductive Extended (g : Grammar ι) {α : Type} (schema : Schema g.Carrier α) :
    Outline → Outline → Prop where
  | intro {β σ τ : Type} {name key : String} {fields : Fields (Schema g.Carrier) σ τ}
      {make : τ → β} {gap : Outline → Outline} {before after : List Outline.Member}
      {value : Outline} {closed : Bool}
      (place : Place g schema (.shape (.record name fields make)) gap)
      (unknown : key ∉ fields.keys) (intact : value.intact = true) :
      Extended g schema (gap (.object (before ++ after) closed))
        (gap (.object (before ++ (some key, value) :: after) closed))

theorem Reordered.alike {schema : Schema g.Carrier α} {o o' : Outline}
    (reordered : Reordered g schema o o') : Alike SameValues g schema o o' := by
  obtain ⟨place, order⟩ := reordered
  refine place.alike congruence_sameValues ?_
  refine .container congruence_sameValues.refl nofun nofun (fun _ => rfl) fun depth feed => ?_
  exact congruence_sameValues.map (Fields.readObject_sameValues order _)

theorem Extended.alike {schema : Schema g.Carrier α} {o o' : Outline}
    (extended : Extended g schema o o') :
    Alike (fun first second => first = second) g schema o o' := by
  obtain ⟨place, unknown, intact⟩ := extended
  refine place.alike congruence_eq ?_
  refine .container congruence_eq.refl nofun nofun (fun _ => rfl) fun depth feed => ?_
  refine congruence_eq.map (congruence_eq.bind_left ?_)
  exact (Fields.readMembers_of_unknown unknown intact _ _ _).symm

theorem Alike.readDocument {R : {α : Type} → Reading α → Reading α → Prop}
    (congruence : Congruence R) {schema : Schema g.Carrier α} {o o' : Outline}
    (alike : Alike R g schema o o') (trailing : Bool) :
    R (g.readDocument schema ⟨o, trailing⟩) (g.readDocument schema ⟨o', trailing⟩) :=
  congruence.bind_left (alike.read Grammar.maxDepth .text)

namespace Wire.Format

open Relation (ReflTransGen)

/-- Whether a wire record is read, and as which value, does not depend on the order of the members
of the records in it; and a member under an unknown key changes nothing, not even the report of
why a record is not read. -/
theorem members_irrelevant (form : Form α) (trailing : Bool) {o o' : Outline} :
    (ReflTransGen (Reordered grammar form) o o' →
      ∀ a, grammar.readDocument form ⟨o, trailing⟩ = .ok a ↔
        grammar.readDocument form ⟨o', trailing⟩ = .ok a) ∧
    (ReflTransGen (Extended grammar form) o o' →
      grammar.readDocument form ⟨o, trailing⟩ = grammar.readDocument form ⟨o', trailing⟩) := by
  constructor
  · intro changes a
    induction changes with
    | refl => exact Iff.rfl
    | tail _ change ih =>
      exact ih.trans (change.alike.readDocument congruence_sameValues trailing a)
  · intro changes
    induction changes with
    | refl => rfl
    | tail _ change ih => exact ih.trans (change.alike.readDocument congruence_eq trailing)

/-- A range whose start has its members in either order, or has a third one that holds a number
beyond the doubles. -/
theorem members_irrelevant_range :
    let line : Outline.Member := (some "line", .number (.ofInt 1))
    let column : Outline.Member := (some "column", .number (.ofInt 2))
    let unit : Outline.Member := (some "unit", .array [.number ⟨false, 1, none, some 999⟩] true)
    let range (start : List Outline.Member) : Outline :=
      .object [(some "start", .object start true), (some "end", .object [line, column] true)] true
    let read (o : Outline) := grammar.readDocument WireTree.Format.range ⟨o, false⟩
    (ReflTransGen (Reordered grammar WireTree.Format.range) (range [line, column])
        (range [column, line]) ∧
      ∀ a, read (range [line, column]) = .ok a ↔ read (range [column, line]) = .ok a) ∧
    (ReflTransGen (Extended grammar WireTree.Format.range) (range [line, column])
        (range [line, unit, column]) ∧
      read (range [line, column]) = read (range [line, unit, column])) := by
  intro line column unit range read
  have start : Place grammar WireTree.Format.range WireTree.Format.position fun o =>
      .object [(some "start", o), (some "end", .object [line, column] true)] true :=
    .inside (.member .head [] [(some "end", .object [line, column] true)] true) .here
  have reordered : Reordered grammar WireTree.Format.range (range [line, column])
      (range [column, line]) := .intro start (.swap column line [])
  have extended : Extended grammar WireTree.Format.range (range ([line] ++ [column]))
      (range ([line] ++ unit :: [column])) := .intro start (by decide) rfl
  exact ⟨⟨.single reordered, (members_irrelevant _ _).1 (.single reordered)⟩,
    ⟨.single extended, (members_irrelevant _ _).2 (.single extended)⟩⟩

end Wire.Format

end WireTree
