import Mathlib.Data.Nat.Find
import Mathlib.Logic.Relation
import WireTree.Proofs.Places.Acceptance
import WireTree.Proofs.Places.Members
import WireTree.Proofs.Records.Wire

/-!
# The two notations of a record

They are the array of the values of its fields, and the object that gives them under the keys, in
the order of the fields. They are read alike, and so is an array that ends before fields with
defaults; one that ends earlier is refused.
Main statement: `Wire.Format.notation_irrelevant`, for any number of such changes anywhere in a
document.
-/

namespace WireTree

open Json (Outline)
open Relation (EqvGen)

variable {S : Type → Type 1} {ι α β σ τ : Type} {inside : Inside S} {feed : Feed}

/-! ## One record -/

theorem Presence.eq_defaultsTo_of_cutOff? {presence : Presence α}
    (may : presence.cutOff?.isSome = true) : ∃ a, presence = .defaultsTo a := by
  cases presence with
  | defaultsTo a => exact ⟨a, rfl⟩
  | _ => cases may

namespace Fields

/-- The members that give values to the fields of a record, in order. -/
def named (fields : Fields S σ τ) (items : List Outline) : List Outline.Member :=
  (fields.keys.map some).zip items

/-- For each field, whether an array may end before it. -/
def mayEnd {σ τ : Type} : Fields S σ τ → List Bool
  | nil => []
  | cons _ presence _ rest => presence.cutOff?.isSome :: rest.mayEnd

/-- The field with this number is the first one after so many that an array may not end before. -/
structure FirstNeeded (fields : Fields S σ τ) (taken number : Nat) : Prop where
  after : taken ≤ number
  needed : fields.mayEnd[number]? = some false
  first : ∀ other, taken ≤ other → other < number → fields.mayEnd[other]? = some true

/-- The items are accepted as the values of the fields, as far as there are items. -/
def Takes (fields : Fields S σ τ) (inside : Inside S) (feed : Feed) (items : List Outline) : Prop :=
  ∀ {α : Type} {schema : S α} {number : Nat} {item : Outline}, fields.Nth schema number →
    items[number]? = some item → Accepted (inside.read feed schema item)

variable {key : String} {presence : Presence α} {schema : S α} {rest : Fields S σ τ}
  {fields : Fields S σ τ} {item : Outline} {items : List Outline} {wanted : String}

theorem ne_of_mem_named {name : String} (fresh : name ∉ fields.keys) :
    ∀ member ∈ fields.named items, member.1 ≠ some name := by
  rintro ⟨_, value⟩ member rfl
  have found := (List.of_mem_zip member).1
  exact fresh (by simpa using found)

/-- The first member of an object gives the first field its value, and the other members have
other keys. -/
theorem readObject_cons_of_ne {members : List Outline.Member}
    (different : ∀ member ∈ members, member.1 ≠ some key) :
    (cons key presence schema rest).readObject inside feed ((some key, item) :: members) true =
      inside.read feed schema item >>= fun a =>
        (fun values => (a, values)) <$> rest.readObject inside feed members true := by
  rw [readObject, readMembers, blank, readMember, if_pos rfl]
  cases inside.read feed schema item with
  | error e => rfl
  | ok a =>
    show ((cons key presence schema rest).readMembers inside feed (some a, rest.blank) members >>=
      (cons key presence schema rest).complete) = _
    rw [readMembers_cons_of_ne inside feed (some a) rest.blank different]
    show _ = (fun values => (a, values)) <$>
      (rest.readMembers inside feed rest.blank members >>= rest.complete)
    cases rest.readMembers inside feed rest.blank members with
    | error e => rfl
    | ok slots => cases rest.complete slots <;> rfl

theorem FirstNeeded.tail {taken number : Nat}
    (first : (cons key presence schema rest).FirstNeeded taken (number + 1)) :
    rest.FirstNeeded (taken - 1) number where
  after := Nat.sub_le_of_le_add first.after
  needed := first.needed
  first other after before := first.first (other + 1) (by omega) (Nat.succ_lt_succ before)

theorem takes_nil : fields.Takes inside feed [] := by
  intro _ _ _ _ _ found
  cases found

/-- The elements of an array are read as the members that give them under the keys of the fields,
if an array may end before the fields that are left. -/
theorem readElements_eq_readObject (distinct : fields.keys.Nodup)
    (short : items.length ≤ fields.keys.length)
    (others : ∀ may ∈ fields.mayEnd.drop items.length, may = true) (index : Nat) :
    fields.readElements inside feed wanted true index items =
      (fun values => (values, [])) <$> fields.readObject inside feed (fields.named items) true := by
  induction fields generalizing items index with
  | nil =>
    obtain rfl := List.length_eq_zero_iff.mp (Nat.le_zero.mp short)
    rfl
  | cons key presence schema rest ih =>
    obtain ⟨fresh, distinct'⟩ := List.nodup_cons.mp distinct
    cases items with
    | cons item items =>
      show _ = _ <$> (cons key presence schema rest).readObject inside feed
        ((some key, item) :: rest.named items) true
      rw [readElements, readObject_cons_of_ne (ne_of_mem_named fresh),
        ih distinct' (Nat.le_of_succ_le_succ short) others]
      cases inside.read feed schema item with
      | error e => rfl
      | ok a => cases rest.readObject inside feed (rest.named items) true <;> rfl
    | nil =>
      obtain ⟨may, others'⟩ := List.forall_mem_cons.mp others
      obtain ⟨a, rfl⟩ := Presence.eq_defaultsTo_of_cutOff? may
      have enough : ([] : List Outline).length ≤ rest.keys.length := Nat.zero_le _
      have none : rest.named [] = [] := List.zip_nil_right
      rw [readElements, if_pos rfl, ih distinct' enough others', none]
      show (_ <$> rest.complete rest.blank) >>= _ =
        _ <$> (cons key (.defaultsTo a) schema rest).complete (Option.none, rest.blank)
      rw [complete]
      cases rest.complete rest.blank <;> rfl

theorem accepted_readElements (taken : fields.Takes inside feed items)
    (short : items.length ≤ fields.keys.length)
    (others : ∀ may ∈ fields.mayEnd.drop items.length, may = true) (index : Nat) :
    Accepted (fields.readElements inside feed wanted true index items) := by
  induction fields generalizing items index with
  | nil => exact ⟨((), items), rfl⟩
  | cons key presence schema rest ih =>
    cases items with
    | cons item items =>
      obtain ⟨a, read⟩ := taken .head rfl
      obtain ⟨result, more⟩ := ih (fun nth found => taken (.tail nth) found)
        (Nat.le_of_succ_le_succ short) others (index + 1)
      rw [readElements, read, more]
      exact ⟨_, rfl⟩
    | nil =>
      obtain ⟨may, others'⟩ := List.forall_mem_cons.mp others
      obtain ⟨a, rfl⟩ := Presence.eq_defaultsTo_of_cutOff? may
      obtain ⟨result, more⟩ := ih takes_nil (Nat.zero_le _) others' (index + 1)
      rw [readElements, if_pos rfl, more]
      exact ⟨_, rfl⟩

/-- An array that ends too early is refused with the number of the first field that it lacks. -/
theorem readElements_of_firstNeeded {number : Nat} (taken : fields.Takes inside feed items)
    (first : fields.FirstNeeded items.length number) (index : Nat) :
    fields.readElements inside feed wanted true index items =
      refuse (.invalidLength (index + number) wanted) := by
  induction fields generalizing items index number with
  | nil => cases first.needed
  | cons key presence schema rest ih =>
    cases items with
    | cons item items =>
      cases number with
      | zero => cases first.after
      | succ number =>
        obtain ⟨a, read⟩ := taken .head rfl
        have later : rest.FirstNeeded items.length number := first.tail
        rw [readElements, read]
        show rest.readElements inside feed wanted true (index + 1) items >>= _ = _
        rw [ih (fun nth found => taken (.tail nth) found) later (index + 1),
          Nat.succ_add_eq_add_succ]
        rfl
    | nil =>
      cases number with
      | zero =>
        have may : presence.cutOff?.isSome = false := Option.some.inj first.needed
        cases presence with
        | defaultsTo a => cases may
        | _ => rfl
      | succ number =>
        have may : presence.cutOff?.isSome = true :=
          Option.some.inj (first.first 0 (Nat.le_refl 0) (Nat.succ_pos number))
        obtain ⟨a, rfl⟩ := Presence.eq_defaultsTo_of_cutOff? may
        have later : rest.FirstNeeded ([] : List Outline).length number := first.tail
        rw [readElements, if_pos rfl, ih takes_nil later (index + 1),
          Nat.succ_add_eq_add_succ]
        rfl

/-- An array that ends before fields with defaults is read as the object that gives its elements
under the keys. -/
theorem readArray_eq_readObject (distinct : fields.keys.Nodup)
    (short : items.length ≤ fields.keys.length)
    (others : ∀ may ∈ fields.mayEnd.drop items.length, may = true) (name : String) :
    fields.readArray inside feed name items true =
      fields.readObject inside feed (fields.named items) true := by
  rw [readArray, readElements_eq_readObject distinct short others]
  cases fields.readObject inside feed (fields.named items) true <;> rfl

theorem accepted_readArray (taken : fields.Takes inside feed items) (distinct : fields.keys.Nodup)
    (short : items.length ≤ fields.keys.length)
    (others : ∀ may ∈ fields.mayEnd.drop items.length, may = true) (name : String) :
    Accepted (fields.readArray inside feed name items true) := by
  obtain ⟨result, read⟩ : Accepted (fields.readElements inside feed name true 0 items) :=
    accepted_readElements taken short others 0
  rw [readElements_eq_readObject distinct short others, map_eq_ok_iff] at read
  obtain ⟨values, read, -⟩ := read
  exact ⟨values, (readArray_eq_readObject distinct short others name).trans read⟩

theorem readArray_of_firstNeeded {number : Nat} (taken : fields.Takes inside feed items)
    (first : fields.FirstNeeded items.length number) (name : String) :
    fields.readArray inside feed name items true =
      refuse (.invalidLength number
        ("struct " ++ name ++ " with " ++ elements fields.keys.length)) := by
  rw [readArray, readElements_of_firstNeeded taken first, Nat.zero_add]
  rfl

theorem length_mayEnd (fields : Fields S σ τ) : fields.mayEnd.length = fields.keys.length := by
  induction fields with
  | nil => rfl
  | cons _ _ _ _ ih => exact congrArg Nat.succ ih

theorem exists_firstNeeded {taken : Nat}
    (needed : ¬ ∀ may ∈ fields.mayEnd.drop taken, may = true) :
    ∃ number, fields.FirstNeeded taken number := by
  have lacking : ∃ number, taken ≤ number ∧ fields.mayEnd[number]? = some false := by
    simp only [not_forall, Bool.not_eq_true] at needed
    obtain ⟨_, member, rfl⟩ := needed
    obtain ⟨more, found⟩ := List.getElem?_of_mem member
    exact ⟨taken + more, Nat.le_add_right _ _, by rwa [← List.getElem?_drop]⟩
  obtain ⟨after, needed⟩ := Nat.find_spec lacking
  refine ⟨Nat.find lacking, after, needed, ?_⟩
  intro other after before
  have bound : other < fields.mayEnd.length :=
    Nat.lt_trans before (List.getElem?_eq_some_iff.mp needed).1
  have other_may := Nat.find_min lacking before
  rw [List.getElem?_eq_getElem bound] at other_may ⊢
  simpa [after] using other_may

end Fields

/-! ## Records anywhere in a value -/

variable {g : Grammar ι}

/-- One of two values has a record, anywhere inside, as the array of the values of all its fields,
and the other one as the object of them. -/
inductive Renotated (g : Grammar ι) {α : Type} (schema : Schema g.Carrier α) :
    Outline → Outline → Prop where
  | intro {β σ τ : Type} {name : String} {fields : Fields (Schema g.Carrier) σ τ} {make : τ → β}
      {gap : Outline → Outline} {items : List Outline}
      (place : Place g schema (.shape (.record name fields make)) gap)
      (all : items.length = fields.keys.length) :
      Renotated g schema (gap (.array items true)) (gap (.object (fields.named items) true))

/-- The two notations of a record that has no two fields with one key are read alike. -/
theorem notations_alike {name : String} {fields : Fields (Schema g.Carrier) σ τ} {make : τ → α}
    {items : List Outline} (distinct : fields.keys.Nodup)
    (all : items.length = fields.keys.length) :
    Alike (fun first second => first = second) g (.shape (.record name fields make))
      (.array items true) (.object (fields.named items) true) := by
  refine .container congruence_eq.refl nofun nofun (fun _ => rfl) fun depth feed => ?_
  refine congruence_eq.map (Fields.readArray_eq_readObject distinct (Nat.le_of_eq all) ?_ _)
  rw [all, ← Fields.length_mayEnd, List.drop_length]
  exact nofun

theorem Renotated.alike (nodes : ∀ i, Regular g (.shape (g.shape i))) {schema : Schema g.Carrier α}
    (regular : Regular g schema) {o o' : Outline} (renotated : Renotated g schema o o') :
    Alike (fun first second => first = second) g schema o o' := by
  obtain ⟨place, all⟩ := renotated
  obtain ⟨distinct, -⟩ := (regular.place nodes place).here
  exact place.alike congruence_eq (notations_alike distinct all)

namespace Wire.Format

/-- A document may give any of its records as an array or as an object; it is read alike, down to
why it is not. An array that ends early, after elements that are all accepted, is accepted just if
all fields after its end have defaults, and then it is read as the object of its elements; otherwise
it is refused with the number of the first field after its end that has no default. -/
theorem notation_irrelevant {form : Form α} (wired : Wired form) :
    (∀ {o o' : Outline}, EqvGen (Renotated grammar form) o o' → ∀ trailing,
      grammar.readDocument form ⟨o, trailing⟩ = grammar.readDocument form ⟨o', trailing⟩) ∧
    ∀ {β σ τ : Type} {name : String} {fields : Fields (Schema Node.Carrier) σ τ} {make : τ → β}
      {gap : Outline → Outline}, Place grammar form (.shape (.record name fields make)) gap →
      ∀ {depth : Nat} {feed : Feed} {items : List Outline}, items.length < fields.keys.length →
        fields.Takes (grammar.inside depth) feed items →
        let read := grammar.read (depth + 1) feed (.shape (.record name fields make))
        (Accepted (read (.array items true)) ↔
          ∀ may ∈ fields.mayEnd.drop items.length, may = true) ∧
        (Accepted (read (.array items true)) →
          read (.array items true) = read (.object (fields.named items) true)) ∧
        (¬ Accepted (read (.array items true)) →
          ∃ number, fields.FirstNeeded items.length number ∧
            read (.array items true) =
              refuse (.invalidLength number
                ("struct " ++ name ++ " with " ++ elements fields.keys.length))) := by
  refine ⟨?_, ?_⟩
  · intro o o' changes trailing
    induction changes with
    | rel _ _ change =>
      exact (change.alike regular_shape wired.regular).readDocument congruence_eq trailing
    | refl _ => rfl
    | symm _ _ _ ih => exact ih.symm
    | trans _ _ _ _ _ first second => exact first.trans second
  · intro β σ τ name fields make gap place depth feed items short taken read
    obtain ⟨distinct, -⟩ := (wired.regular.place regular_shape place).here
    have object (others : ∀ may ∈ fields.mayEnd.drop items.length, may = true) :
        read (.array items true) = read (.object (fields.named items) true) :=
      congrArg (make <$> ·)
        (Fields.readArray_eq_readObject distinct (Nat.le_of_lt short) others name)
    have accepted (others : ∀ may ∈ fields.mayEnd.drop items.length, may = true) :
        Accepted (read (.array items true)) :=
      accepted_map_iff.mpr
        (Fields.accepted_readArray taken distinct (Nat.le_of_lt short) others name)
    have refused (needed : ¬ ∀ may ∈ fields.mayEnd.drop items.length, may = true) :
        ∃ number, fields.FirstNeeded items.length number ∧
          read (.array items true) =
            refuse (.invalidLength number
              ("struct " ++ name ++ " with " ++ elements fields.keys.length)) := by
      obtain ⟨number, first⟩ := Fields.exists_firstNeeded needed
      have reading := Fields.readArray_of_firstNeeded taken first name
      exact ⟨number, first, congrArg (make <$> ·) reading⟩
    have others (taken : Accepted (read (.array items true))) :
        ∀ may ∈ fields.mayEnd.drop items.length, may = true := by
      by_contra needed
      obtain ⟨a, taken⟩ := taken
      obtain ⟨number, -, refused⟩ := refused needed
      cases refused.symm.trans taken
    refine ⟨⟨others, accepted⟩, fun taken => object (others taken), ?_⟩
    intro untaken
    exact refused fun all => untaken (accepted all)

/-- What is known of a callable, with what was inferred as an object, as an array, and as an array
that ends before the last field. -/
theorem notation_irrelevant_callableInformation :
    let known : Outline :=
      .object [(some "expression", .object [(some "kind", .text (some "EmptySet"))] true)] true
    let around (inferred : Outline) : Outline :=
      .object [(some "characteristics", known), (some "inferredInformation", inferred)] true
    let array : Outline := .array [.boolean true, .boolean false] true
    let object : Outline :=
      .object [(some "isSelfAdjoint", .boolean true), (some "isIntrinsic", .boolean false)] true
    let short : Outline := .array [.boolean true] true
    (EqvGen (Renotated grammar callableInformation) (.array [known, array] true) (around object) ∧
      grammar.readDocument callableInformation ⟨.array [known, array] true, false⟩ =
        grammar.readDocument callableInformation ⟨around object, false⟩) ∧
    (Place grammar callableInformation inferredCallableInformation around ∧
      grammar.read 1 .text inferredCallableInformation short =
        grammar.read 1 .text inferredCallableInformation
          (.object [(some "isSelfAdjoint", .boolean true)] true)) := by
  intro known around array object short
  have place : Place grammar callableInformation inferredCallableInformation around :=
    .inside (.member (.tail (by decide) .head) [(some "characteristics", known)] [] true) .here
  have outer : Renotated grammar callableInformation (.array [known, array] true) (around array) :=
    .intro .here rfl
  have inner : Renotated grammar callableInformation (around array) (around object) :=
    .intro place rfl
  have changes : EqvGen (Renotated grammar callableInformation) (.array [known, array] true)
      (around object) := .trans _ _ _ (.rel _ _ outer) (.rel _ _ inner)
  obtain ⟨alike, ends⟩ := notation_irrelevant .callableInformation
  refine ⟨⟨changes, alike changes false⟩, place, ?_⟩
  refine ((ends place (by decide : [Outline.boolean true].length < 2) ?_).2.1 ⟨_, rfl⟩)
  intro _ _ number item nth found
  have has := nth.getElem?
  cases number with
  | zero =>
    cases has
    cases found
    exact ⟨true, rfl⟩
  | succ _ => cases found

end Wire.Format

end WireTree
