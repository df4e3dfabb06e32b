import Mathlib.Logic.Relation
import WireTree.Proofs.Places.Acceptance
import WireTree.Proofs.Places.Members
import WireTree.Proofs.Records.Wire

/-!
# Members that an object may leave out

A member is as good as absent if it gives the value that stands for an absent one: `null` where a
member is optional, the default where it has one. A member with a default never is `null`.
Main statement: `Wire.Format.absence_irrelevant`, for any number of omissions anywhere in a
document.
-/

namespace WireTree

open Json (Outline)
open Relation (ReflTransGen)

variable {S : Type → Type 1} {ι α β σ τ : Type} {inside : Inside S} {feed : Feed}

/-! ## One record -/

namespace Fields

/-- What has been found, but under one key: there it is either nothing or, if `given`, the value
that stands for an absent member. -/
def assume (key : String) (given : Bool) {σ τ : Type} : Fields S σ τ → σ → σ
  | nil, _ => ()
  | cons name presence _ rest, (slot, slots) =>
    if name = key then (if given then presence.absent? else none, slots)
    else (slot, rest.assume key given slots)

variable {fields : Fields S σ τ} {key name : String} {given : Bool} {value : Outline}
  {members before after : List Outline.Member} {slots : σ}

theorem assume_blank (fields : Fields S σ τ) (key : String) :
    fields.assume key false fields.blank = fields.blank := by
  induction fields with
  | nil => rfl
  | cons name presence schema rest ih =>
    rw [blank, assume, ih]
    split <;> rfl

/-- Once the object has ended, it does not matter whether the value that stands for an absent
member was given. -/
theorem complete_assume (fields : Fields S σ τ) (key : String) (slots : σ) :
    fields.complete (fields.assume key true slots) =
      fields.complete (fields.assume key false slots) := by
  induction fields with
  | nil => rfl
  | cons name presence schema rest ih =>
    obtain ⟨slot, slots⟩ := slots
    rw [assume, assume]
    by_cases here : name = key
    · rw [if_pos here, if_pos here]
      cases presence <;> rfl
    · rw [if_neg here, if_neg here, complete, complete, ih]

theorem assume_cons_self {presence : Presence α} {schema : S α} {rest : Fields S σ τ}
    {slot : Option α} :
    (cons key presence schema rest).assume key given (slot, slots) =
      (if given then presence.absent? else none, slots) :=
  if_pos rfl

theorem assume_cons_of_ne {presence : Presence α} {schema : S α} {rest : Fields S σ τ}
    {slot : Option α} (different : name ≠ key) :
    (cons name presence schema rest).assume key given (slot, slots) =
      (slot, rest.assume key given slots) :=
  if_neg different

/-- Members under other keys are taken as before. -/
theorem readMember_assume (different : name ≠ key) :
    fields.readMember inside feed name value (fields.assume key given slots) =
      Option.map (fields.assume key given) <$> fields.readMember inside feed name value slots := by
  induction fields with
  | nil => rfl
  | cons other presence schema rest ih =>
    obtain ⟨slot, slots⟩ := slots
    by_cases here : other = key
    · subst here
      rw [assume_cons_self, readMember, readMember, if_neg different.symm, if_neg different.symm]
      cases rest.readMember inside feed name value slots with
      | error e => rfl
      | ok found =>
        cases found with
        | none => rfl
        | some slots' =>
          exact congrArg (fun slots => (Except.ok (some slots) : Reading _)) assume_cons_self.symm
    · rw [assume_cons_of_ne here, readMember, readMember]
      by_cases this : other = name
      · rw [if_pos this, if_pos this]
        cases slot.isSome with
        | true => rfl
        | false =>
          cases inside.read feed schema value with
          | error e => rfl
          | ok b =>
            exact congrArg (fun slots => (Except.ok (some slots) : Reading _))
              (assume_cons_of_ne here).symm
      · rw [if_neg this, if_neg this, ih]
        cases rest.readMember inside feed name value slots with
        | error e => rfl
        | ok found =>
          cases found with
          | none => rfl
          | some slots' =>
            exact congrArg (fun slots => (Except.ok (some slots) : Reading _))
              (assume_cons_of_ne here).symm

theorem readMembers_assume (alone : ∀ member ∈ members, member.1 ≠ some key) :
    fields.readMembers inside feed (fields.assume key given slots) members =
      fields.assume key given <$> fields.readMembers inside feed slots members := by
  induction members generalizing slots with
  | nil => rfl
  | cons member members ih =>
    obtain ⟨name, value⟩ := member
    obtain ⟨different, others⟩ := List.forall_mem_cons.mp alone
    cases name with
    | none => rfl
    | some name =>
      rw [readMembers, readMembers, readMember_assume fun same => different (congrArg some same)]
      cases fields.readMember inside feed name value slots with
      | error e => rfl
      | ok found =>
        cases found with
        | some slots' => exact ih others
        | none =>
          show (if value.intact then _ else _) = _ <$> (if value.intact then _ else _)
          cases value.intact with
          | true => exact ih others
          | false => rfl

/-- A member under the key that gives the value for an absent one. -/
theorem readMember_of_under {presence : Presence β} {schema : S β} {b : β}
    (under : fields.Under key presence schema) (absent : presence.absent? = some b)
    (read : inside.read feed schema value = .ok b) :
    fields.readMember inside feed key value (fields.assume key false slots) =
      .ok (some (fields.assume key true slots)) := by
  induction under with
  | head =>
    obtain ⟨slot, slots⟩ := slots
    rw [assume_cons_self, assume_cons_self, readMember, if_pos rfl, read, if_pos rfl, absent]
    rfl
  | tail different _ ih =>
    obtain ⟨slot, slots⟩ := slots
    rw [assume_cons_of_ne different, assume_cons_of_ne different, readMember, if_neg different, ih]
    rfl

/-- An object is read alike with and without a member that gives the value for an absent one. -/
theorem readObject_of_absent {presence : Presence β} {schema : S β} {b : β}
    (under : fields.Under key presence schema) (absent : presence.absent? = some b)
    (read : inside.read feed schema value = .ok b)
    (alone : ∀ member ∈ before ++ after, member.1 ≠ some key) (closed : Bool) :
    fields.readObject inside feed (before ++ (some key, value) :: after) closed =
      fields.readObject inside feed (before ++ after) closed := by
  obtain ⟨alone, others⟩ := List.forall_mem_append.mp alone
  have first := @readMembers_assume _ _ _ inside feed fields key false before fields.blank alone
  rw [assume_blank] at first
  rw [readObject, readObject, readMembers_append, readMembers_append, first]
  cases fields.readMembers inside feed fields.blank before with
  | error e => rfl
  | ok slots =>
    show (fields.readMembers inside feed (fields.assume key false slots)
        ((some key, value) :: after) >>= _) =
      fields.readMembers inside feed (fields.assume key false slots) after >>= _
    rw [readMembers, readMember_of_under under absent read]
    show (fields.readMembers inside feed (fields.assume key true slots) after >>= _) = _
    rw [readMembers_assume others, readMembers_assume others]
    cases fields.readMembers inside feed slots after with
    | error e => rfl
    | ok slots =>
      show (if closed then fields.complete _ else _) = (if closed then fields.complete _ else _)
      rw [complete_assume]

/-- An object is not read if a member under one of the keys of the record is not. -/
theorem readObject_ne_ok {presence : Presence β} {schema : S β}
    (under : fields.Under key presence schema)
    (refused : ∀ b, inside.read feed schema value ≠ .ok b) (closed : Bool) (values : τ) :
    fields.readObject inside feed (before ++ (some key, value) :: after) closed ≠ .ok values := by
  intro read
  rw [readObject, readMembers_append, bind_assoc, bind_eq_ok_iff] at read
  obtain ⟨slots, -, read⟩ := read
  rw [readMembers, bind_assoc, bind_eq_ok_iff] at read
  obtain ⟨found, taken, -⟩ := read
  rcases Congruence.readMember_cases under slots with again | ⟨keep, each⟩
  · rw [again] at taken
    cases taken
  · rw [each, bind_eq_ok_iff] at taken
    obtain ⟨b, read, -⟩ := taken
    exact refused b read

end Fields

/-! ## Records anywhere in a value -/

variable {g : Grammar ι}

/-- The second value lacks a member that the first one has, in a record anywhere inside: one that is
optional and `null`, or one that has a default and is read as it, given how many containers may be
opened by then. The record has no other member under that key. -/
inductive Omitted (g : Grammar ι) (room : Nat) {α : Type} (schema : Schema g.Carrier α) :
    Outline → Outline → Prop where
  | null {β γ σ τ : Type} {name key : String} {fields : Fields (Schema g.Carrier) σ τ}
      {make : τ → β} {absent : γ} {part : Schema g.Carrier γ} {gap : Outline → Outline}
      {before after : List Outline.Member} {closed : Bool}
      (place : Place g schema (.shape (.record name fields make)) gap)
      (optional : fields.Under key (.absentAs absent) part)
      (alone : ∀ member ∈ before ++ after, member.1 ≠ some key) :
      Omitted g room schema (gap (.object (before ++ (some key, .null) :: after) closed))
        (gap (.object (before ++ after) closed))
  | default {β γ σ τ : Type} {name key : String} {fields : Fields (Schema g.Carrier) σ τ}
      {make : τ → β} {default : γ} {part : Schema g.Carrier γ} {gap : Outline → Outline}
      {before after : List Outline.Member} {closed : Bool} {value : Outline}
      {containers inner : Nat}
      (place : PlaceWithin g containers schema (.shape (.record name fields make)) gap)
      (defaulted : fields.Under key (.defaultsTo default) part)
      (alone : ∀ member ∈ before ++ after, member.1 ≠ some key)
      (fits : inner + 1 + containers = room)
      (read : g.read inner .text part value = .ok default) :
      Omitted g room schema (gap (.object (before ++ (some key, value) :: after) closed))
        (gap (.object (before ++ after) closed))

/-- A record is read alike with and without a member that always gives the value for an absent
one. -/
theorem alike_of_absent {name key : String} {fields : Fields (Schema g.Carrier) σ τ} {make : τ → α}
    {presence : Presence β} {part : Schema g.Carrier β} {b : β} {value : Outline}
    (under : fields.Under key presence part) (absent : presence.absent? = some b)
    (read : ∀ depth feed, g.read depth feed part value = .ok b)
    {before after : List Outline.Member} (alone : ∀ member ∈ before ++ after, member.1 ≠ some key)
    (closed : Bool) :
    Alike (fun first second => first = second) g (.shape (.record name fields make))
      (.object (before ++ (some key, value) :: after) closed)
      (.object (before ++ after) closed) := by
  refine .container congruence_eq.refl nofun nofun (fun _ => rfl) fun depth feed => ?_
  exact congruence_eq.map (Fields.readObject_of_absent under absent (read depth feed) alone closed)

theorem Omitted.read_eq (nodes : ∀ i, Regular g (.shape (g.shape i))) {schema : Schema g.Carrier α}
    (regular : Regular g schema) {room : Nat} {o o' : Outline}
    (omitted : Omitted g room schema o o') :
    g.read room .text schema o = g.read room .text schema o' := by
  cases omitted with
  | null place optional alone =>
    obtain ⟨-, fit⟩ := (regular.place nodes place).here
    refine (place.alike congruence_eq ?_).read room .text
    exact alike_of_absent optional rfl (fit.under optional) alone _
  | default place defaulted alone fits read =>
    rw [← fits]
    refine place.read_alike congruence_eq (iff_of_false nofun nofun) ?_
    exact congruence_eq.map (Fields.readObject_of_absent defaulted rfl read alone _)

namespace Wire.Format

/-- A document may leave out any members that are optional and `null`, or have a default and are
read as it; it is read alike, down to why it is not. Each default is the one of its type. Where a
member has a default, `null` is never accepted for it. -/
theorem absence_irrelevant {form : Form α} (wired : Wired form) :
    (∀ {o o' : Outline}, ReflTransGen (Omitted grammar Grammar.maxDepth form) o o' →
      ∀ trailing,
        grammar.readDocument form ⟨o, trailing⟩ = grammar.readDocument form ⟨o', trailing⟩) ∧
    ∀ {β γ σ τ : Type} {name key : String} {fields : Fields (Schema Node.Carrier) σ τ}
      {make : τ → β} {default : γ} {part : Form γ} {gap : Outline → Outline},
      Place grammar form (.shape (.record name fields make)) gap →
      fields.Under key (.defaultsTo default) part →
        (∀ depth feed, grammar.read (depth + 1) feed part part.zero.outline = .ok default) ∧
        ∀ depth feed before after closed a,
          grammar.read depth feed (.shape (.record name fields make))
            (.object (before ++ (some key, .null) :: after) closed) ≠ .ok a := by
  refine ⟨?_, ?_⟩
  · intro o o' omissions trailing
    induction omissions with
    | refl => rfl
    | tail _ omitted ih =>
      rw [ih]
      unfold Grammar.readDocument
      rw [omitted.read_eq regular_shape wired.regular]
  · intro β γ σ τ name key fields make default part gap place defaulted
    obtain ⟨-, fit⟩ := (wired.regular.place regular_shape place).here
    obtain ⟨proper, zero⟩ := fit.under defaulted
    refine ⟨zero, ?_⟩
    intro depth feed before after closed a read
    cases depth with
    | zero => cases read
    | succ depth =>
      obtain ⟨values, read, -⟩ := map_eq_ok_iff.mp read
      exact Fields.readObject_ne_ok defaulted (read_null_ne_ok proper depth feed) closed values read

/-- What is known of a callable, with an optional member that is `null` and a default inside a
default, and without them; and with `null` for what was inferred. -/
theorem absence_irrelevant_callableInformation :
    let kind : Outline.Member := (some "kind", .text (some "EmptySet"))
    let around (expression inferred : List Outline.Member) : Outline :=
      .object
        ((some "characteristics", .object [(some "expression", .object expression true)] true) ::
          inferred) true
    let full : Outline :=
      around [kind, (some "simpleSet", .null)]
        [(some "inferredInformation", .object [(some "isSelfAdjoint", .boolean false)] true)]
    let least : Outline := around [kind] []
    let refused : Outline := around [kind] [(some "inferredInformation", .null)]
    (ReflTransGen (Omitted grammar Grammar.maxDepth callableInformation) full least ∧
      grammar.readDocument callableInformation ⟨full, false⟩ =
        grammar.readDocument callableInformation ⟨least, false⟩) ∧
    ∀ a, grammar.read Grammar.maxDepth .text callableInformation refused ≠ .ok a := by
  intro kind around full least refused
  let inferred (members : List Outline.Member) : Outline.Member :=
    (some "inferredInformation", .object members true)
  let self : Outline.Member := (some "isSelfAdjoint", .boolean false)
  let characteristics : Outline.Member :=
    (some "characteristics", .object [(some "expression", .object [kind] true)] true)
  have slots : Place grammar callableInformation (characteristicsSlots Format.characteristics)
      fun o => .object [(some "characteristics", .object [(some "expression", o)] true),
        inferred [self]] true :=
    .inside (.member .head [] [inferred [self]] true) <|
      .inside (.node Node.characteristics) <| .inside (.member .head [] [] true) .here
  have information : PlaceWithin grammar 1 callableInformation inferredCallableInformation
      fun o => .object [characteristics, (some "inferredInformation", o)] true :=
    .inside (.member (.tail (by decide) .head) [characteristics] [] true) .here
  have first : Omitted grammar Grammar.maxDepth callableInformation
      (around ([kind] ++ (some "simpleSet", .null) :: []) [inferred [self]])
      (around ([kind] ++ []) [inferred [self]]) :=
    .null slots (.tail (by decide) .head) (by decide)
  have second : Omitted grammar Grammar.maxDepth callableInformation
      (around [kind] [inferred ([] ++ self :: [])]) (around [kind] [inferred ([] ++ [])]) :=
    .default information .head nofun (show 125 + 1 + 1 = Grammar.maxDepth from rfl) rfl
  have third : Omitted grammar Grammar.maxDepth callableInformation
      (.object ([characteristics] ++ inferred [] :: []) true)
      (.object ([characteristics] ++ []) true) :=
    .default .here (.tail (by decide) .head) (by decide)
      (show 126 + 1 + 0 = Grammar.maxDepth from rfl) rfl
  have omissions : ReflTransGen (Omitted grammar Grammar.maxDepth callableInformation) full least :=
    .tail (.tail (.single first) second) third
  obtain ⟨alike, defaults⟩ := absence_irrelevant .callableInformation
  have never := (defaults .here (.tail (by decide) .head)).2
  exact ⟨⟨omissions, alike omissions false⟩, never Grammar.maxDepth .text [characteristics] [] true⟩

end Wire.Format

end WireTree
