import WireTree.Proofs.Conformance.Reading
import WireTree.Proofs.Places.Congruence
import WireTree.Proofs.Prefix.Growth

/-!
# What a reader has found out lasts

A value stays that value and a refusal stays that refusal when the text goes on, and only where the
text was found malformed may the reading change. No reader looks at a part of an outline that may
still grow before it has been through with what precedes it.
Main statement: `Grammar.read_grows`, for every grammar, every schema and every outline.
-/

namespace WireTree

open Json (Outline)
open Json.Outline (Grows ItemsGrow MembersGrow)

variable {S : Type → Type 1} {α β σ τ : Type}

/-- What the first reading has found out the second one finds too. -/
def Lasting (first second : Reading α) : Prop :=
  first = malformed ∨ second = first

namespace Lasting

theorem refl (reading : Reading α) : Lasting reading reading := .inr rfl

theorem malformed (second : Reading α) : Lasting malformed second := .inl rfl

theorem trans {first second third : Reading α} (early : Lasting first second)
    (late : Lasting second third) : Lasting first third := by
  rcases early with early | rfl
  · exact .inl early
  · exact late

/-- What follows counts only for the values that are found. -/
theorem bind_of_ok {first second : Reading α} {following following' : α → Reading β}
    (lasting : Lasting first second)
    (each : ∀ a, first = .ok a → Lasting (following a) (following' a)) :
    Lasting (first >>= following) (second >>= following') := by
  rcases lasting with rfl | rfl
  · exact .inl rfl
  · cases found : second with
    | error why => exact .inr rfl
    | ok a => exact each a found

theorem congruence : Congruence Lasting where
  refl := refl
  bind lasting each := bind_of_ok lasting fun a _ => each a

end Lasting

open Lasting (congruence)

/-! ## Values without parts -/

namespace Schema

variable {names : List (String × α)} {members members' : List Outline.Member}
  {closed closed' : Bool} {o o' : Outline}

/-- What stands in the place of a name is seen from its first token. -/
theorem misnamed_grows (check : KeyCheck) (grown : Grows o o') :
    Lasting (misnamed check o : Reading α) (misnamed check o') := by
  cases grown with
  | same => exact .refl _
  | _ => exact .malformed _

theorem readChoiceObject_grows (check : KeyCheck)
    (grown : MembersGrow members closed members' closed') :
    Lasting (readChoiceObject check names members closed)
      (readChoiceObject check names members' closed') := by
  cases grown with
  | same => exact .refl _
  | more => exact .malformed _
  | none _ hollow => exact hollow.elim
  | last _ _ grown =>
    obtain @⟨value, value', key, grown⟩ := grown
    cases key with
    | none => exact misnamed_grows check grown
    | some name =>
      refine congruence.bind_right fun a => ?_
      cases grown with
      | same =>
        cases value with
        | null => exact .malformed _
        | _ => exact .refl _
      | broken => exact .malformed _
      | array => exact .refl _
      | object => exact .refl _
  | @cons member rest rest' _ _ grown =>
    obtain ⟨key, value⟩ := member
    cases key with
    | none => exact .refl _
    | some name =>
      refine congruence.bind_right fun a => ?_
      cases value with
      | null =>
        by_cases complete : rest = [] ∧ closed = true
        · obtain ⟨rfl, rfl⟩ := complete
          obtain ⟨rfl, rfl⟩ := grown.eq_of_closed
          exact .refl _
        · have open_ : (rest.isEmpty && closed) = false := by simpa using complete
          simp only [open_]
          exact .malformed _
      | _ => exact .refl _

theorem readChoice_grows (room : Option KeyCheck) (grown : Grows o o') :
    Lasting (readChoice room .text names o) (readChoice room .text names o') := by
  cases grown with
  | same => exact .refl _
  | broken => exact .malformed _
  | array => exact .malformed _
  | object parts =>
    cases room with
    | none => exact .malformed _
    | some check => exact readChoiceObject_grows check parts

theorem readIdentifier_grows (grown : Grows o o') :
    Lasting (readIdentifier .text names o) (readIdentifier .text names o') := by
  cases grown with
  | same => exact .refl _
  | broken => exact .malformed _
  | array => exact .refl _
  | object => exact .refl _

theorem mem_of_resolveName {name : String} {a : α} (found : resolveName names name = .ok a) :
    (name, a) ∈ names := by
  unfold resolveName at found
  cases listed : names.lookup name with
  | none =>
    rw [listed] at found
    cases found
  | some b =>
    rw [listed] at found
    cases found
    obtain ⟨before, after, rfl, -⟩ := List.lookup_eq_some_iff.mp listed
    simp

theorem exists_mem_of_readChoiceObject {check : KeyCheck} {a : α}
    (chosen : readChoiceObject check names members closed = .ok a) :
    ∃ name, (name, a) ∈ names := by
  match members with
  | [] => cases chosen
  | (none, _) :: _ => exact (misnamed_eq_ok_iff.mp chosen).elim
  | (some name, value) :: rest =>
    obtain ⟨b, resolved, rest⟩ := bind_eq_ok_iff.mp chosen
    split at rest
    · split at rest
      · cases rest
        exact ⟨name, mem_of_resolveName resolved⟩
      · cases rest
    · exact (mismatch_eq_ok_iff.mp rest).elim

/-- What is chosen is one of the alternatives. -/
theorem exists_mem_of_readChoice {room : Option KeyCheck} {a : α}
    (chosen : readChoice room .text names o = .ok a) : ∃ name, (name, a) ∈ names := by
  cases o with
  | text content =>
    cases content with
    | none => cases chosen
    | some name => exact ⟨name, mem_of_resolveName chosen⟩
  | object members closed =>
    cases room with
    | none => cases chosen
    | some check => exact exists_mem_of_readChoiceObject chosen
  | _ => cases chosen

theorem exists_mem_of_readIdentifier {a : α} (chosen : readIdentifier .text names o = .ok a) :
    ∃ name, (name, a) ∈ names := by
  unfold readIdentifier at chosen
  split at chosen
  · exact ⟨_, mem_of_resolveName chosen⟩
  · exact (mismatch_eq_ok_iff.mp chosen).elim

end Schema

/-! ## The parts of a container -/

/-- How the parts of a container are read: what has been found out lasts. -/
structure Enduring (inside : Inside S) : Prop where
  broken : ∀ {α : Type} (schema : S α), inside.read .text schema .broken = malformed
  grows : ∀ {α : Type} (schema : S α) {o o' : Outline}, Grows o o' →
    Lasting (inside.read .text schema o) (inside.read .text schema o')

variable {inside : Inside S} {items items' : List Outline} {members members' : List Outline.Member}
  {closed closed' : Bool}

theorem finishArray_grows (taken : Nat) (a : α)
    (grown : ItemsGrow items closed items' closed') :
    Lasting (finishArray .text taken items closed a)
      (finishArray .text taken items' closed' a) := by
  cases grown with
  | same => exact .refl _
  | _ => exact .malformed _

namespace Fields

/-- The fields that are looked for after an array has broken off cannot be found. -/
theorem readElements_brokenOff (inside : Inside S) (fields : Fields S σ τ) (wanted : String)
    (index taken : Nat) (make : τ → α) :
    (fields.readElements inside .text wanted false index [] >>= fun (values, extra) =>
      finishArray .text taken extra false (make values)) = malformed := by
  cases fields <;> rfl

theorem readElements_grows (enduring : Enduring inside) {fields : Fields S σ τ} {wanted : String}
    {index taken : Nat} (make : τ → α)
    (grown : ItemsGrow items closed items' closed') :
    Lasting
      (fields.readElements inside .text wanted closed index items >>= fun (values, extra) =>
        finishArray .text taken extra closed (make values))
      (fields.readElements inside .text wanted closed' index items' >>= fun (values, extra) =>
        finishArray .text taken extra closed' (make values)) := by
  induction fields generalizing index items items' with
  | nil => exact finishArray_grows taken (make ()) grown
  | cons key presence schema rest ih =>
    cases grown with
    | same => exact .refl _
    | more => exact .malformed _
    | none _ hollow =>
      subst hollow
      rw [readElements, enduring.broken]
      exact .malformed _
    | last parts _ grown =>
      rw [readElements, readElements, bind_assoc, bind_assoc]
      refine congruence.bind (enduring.grows schema grown) fun a => ?_
      rw [bind_assoc]
      exact .inl (rest.readElements_brokenOff inside wanted (index + 1) taken
        fun values => make (a, values))
    | cons item grown =>
      rw [readElements, readElements, bind_assoc, bind_assoc]
      refine congruence.bind_right fun a => ?_
      rw [bind_assoc, bind_assoc]
      exact ih (fun values => make (a, values)) grown

theorem readMember_grows (enduring : Enduring inside) {fields : Fields S σ τ} {o o' : Outline}
    (key : String) (slots : σ) (grown : Grows o o') :
    Lasting (fields.readMember inside .text key o slots)
      (fields.readMember inside .text key o' slots) := by
  induction fields with
  | nil => exact .refl _
  | cons name presence schema rest ih =>
    obtain ⟨slot, slots⟩ := slots
    rw [readMember, readMember]
    split_ifs
    · exact .refl _
    · exact congruence.bind_left (enduring.grows schema grown)
    · exact congruence.bind_left (ih slots)

theorem readObject_grows (enduring : Enduring inside) {fields : Fields S σ τ}
    (grown : MembersGrow members closed members' closed') :
    Lasting (fields.readObject inside .text members closed)
      (fields.readObject inside .text members' closed') := by
  unfold readObject
  generalize fields.blank = slots
  induction grown generalizing slots with
  | same => exact .refl _
  | more => exact .malformed _
  | none _ hollow => exact hollow.elim
  | last parts _ grown =>
    obtain @⟨value, value', key, grown⟩ := grown
    cases key with
    | none => exact .malformed _
    | some key =>
      simp only [readMembers, bind_assoc]
      refine congruence.bind (readMember_grows enduring key slots grown) fun found => ?_
      -- whatever was found, the object has broken off
      cases found with
      | some slots => exact .malformed _
      | none => cases value.intact <;> exact .malformed _
  | cons member grown ih =>
    obtain ⟨key, value⟩ := member
    cases key with
    | none => exact .malformed _
    | some key =>
      simp only [readMembers, bind_assoc]
      refine congruence.bind_right fun found => ?_
      cases found with
      | some slots => exact ih slots
      | none =>
        cases value.intact with
        | true => exact ih slots
        | false => exact .malformed _

end Fields

namespace Items

theorem readElements_brokenOff (inside : Inside S) (components : Items S τ) (counted : String)
    (index taken : Nat) (make : τ → α) :
    (components.readElements inside .text counted false index [] >>= fun (values, extra) =>
      finishArray .text taken extra false (make values)) = malformed := by
  cases components <;> rfl

theorem readElements_grows (enduring : Enduring inside) {components : Items S τ} {counted : String}
    {index taken : Nat} (make : τ → α)
    (grown : ItemsGrow items closed items' closed') :
    Lasting
      (components.readElements inside .text counted closed index items >>= fun (values, extra) =>
        finishArray .text taken extra closed (make values))
      (components.readElements inside .text counted closed' index items' >>= fun (values, extra) =>
        finishArray .text taken extra closed' (make values)) := by
  induction components generalizing index items items' with
  | nil => exact finishArray_grows taken (make ()) grown
  | cons schema rest ih =>
    cases grown with
    | same => exact .refl _
    | more => exact .malformed _
    | none _ hollow =>
      subst hollow
      rw [readElements, enduring.broken]
      exact .malformed _
    | last parts _ grown =>
      rw [readElements, readElements, bind_assoc, bind_assoc]
      refine congruence.bind (enduring.grows schema grown) fun a => ?_
      rw [bind_assoc]
      exact .inl (rest.readElements_brokenOff inside counted (index + 1) taken
        fun values => make (a, values))
    | cons item grown =>
      rw [readElements, readElements, bind_assoc, bind_assoc]
      refine congruence.bind_right fun a => ?_
      rw [bind_assoc, bind_assoc]
      exact ih (fun values => make (a, values)) grown

end Items

namespace Inside

theorem readList_grows (enduring : Enduring inside) (item : S α)
    (grown : ItemsGrow items closed items' closed') :
    Lasting (inside.readList .text item items closed)
      (inside.readList .text item items' closed') := by
  suffices lasting : ∀ finish : List α → Reading (List α),
      Lasting
        (items.mapM (inside.read .text item) >>= fun values =>
          if closed then finish values else malformed)
        (items'.mapM (inside.read .text item) >>= fun values =>
          if closed' then finish values else malformed) from
    lasting pure
  intro finish
  induction grown generalizing finish with
  | same => exact .refl _
  | more => exact .malformed _
  | none _ hollow =>
    subst hollow
    rw [List.mapM_cons, enduring.broken]
    exact .malformed _
  | last parts _ grown =>
    rw [List.mapM_cons, List.mapM_cons, bind_assoc, bind_assoc]
    exact congruence.bind (enduring.grows item grown) fun a => .malformed _
  | cons part grown ih =>
    simp only [List.mapM_cons, bind_assoc, pure_bind]
    exact congruence.bind_right fun a => ih fun values => finish (a :: values)

theorem readTable_grows (enduring : Enduring inside) (item : S α)
    (grown : MembersGrow members closed members' closed') :
    Lasting (inside.readTable .text item members closed)
      (inside.readTable .text item members' closed') := by
  unfold readTable
  generalize Table.empty = entries
  induction grown generalizing entries with
  | same => exact .refl _
  | more => exact .malformed _
  | none _ hollow => exact hollow.elim
  | last parts _ grown =>
    obtain @⟨value, value', key, grown⟩ := grown
    cases key with
    | none => exact .malformed _
    | some key =>
      rw [readEntries, readEntries, bind_assoc, bind_assoc]
      exact congruence.bind (enduring.grows item grown) fun a => .malformed _
  | cons member grown ih =>
    obtain ⟨key, value⟩ := member
    cases key with
    | none => exact .malformed _
    | some key =>
      rw [readEntries, readEntries, bind_assoc, bind_assoc]
      exact congruence.bind_right fun a => ih _

end Inside

/-! ## Unions -/

namespace Arms

/-- What an alternative has found out lasts. -/
structure EnduringAlternative (chosen : Alternative α) : Prop where
  broken : chosen.present .text .broken = malformed
  grows : ∀ {o o' : Outline}, Grows o o' →
    Lasting (chosen.present .text o) (chosen.present .text o')

theorem enduringAlternative_bare (inside : Inside S) (union tag : String) (value : α) :
    EnduringAlternative (.bare inside union tag value) where
  broken := rfl
  grows grown := by
    cases grown with
    | same => exact .refl _
    | broken => exact .malformed _
    | array | object =>
      unfold Alternative.bare
      cases inside.room <;> exact .refl _

theorem enduringAlternative_payload (enduring : Enduring inside) {schema : S β} {make : β → α} :
    EnduringAlternative (.payload inside schema make) where
  broken := by
    show make <$> inside.read .text schema .broken = malformed
    rw [enduring.broken]
    rfl
  grows grown := congruence.map (enduring.grows schema grown)

theorem enduringAlternative_of_mem (enduring : Enduring inside) {union name : String} {n : Nat}
    {arms : Arms S n α} {chosen : Alternative α}
    (member : (name, chosen) ∈ arms.alternatives inside union) : EnduringAlternative chosen := by
  induction arms with
  | nil => cases member
  | bare tag value rest ih =>
    rcases List.mem_cons.mp member with same | later
    · cases same
      exact enduringAlternative_bare inside union _ value
    · exact ih later
  | payload tag schema make rest ih =>
    rcases List.mem_cons.mp member with same | later
    · cases same
      exact enduringAlternative_payload enduring
    · exact ih later

/-- Of the next member of a union and those after it, only the last one may still grow. -/
theorem nextMember_grows (grown : MembersGrow members closed members' closed') :
    nextMember members closed = malformed ∨
      nextMember members closed = .ok none ∧ nextMember members' closed' = .ok none ∨
      ∃ member value value' rest rest',
        nextMember members closed = .ok (some (member, value, rest)) ∧
          nextMember members' closed' = .ok (some (member, value', rest')) ∧
          Grows value value' ∧ MembersGrow rest closed rest' closed' := by
  induction members generalizing members' with
  | nil =>
    cases grown with
    | same =>
      cases closed with
      | true => exact .inr (.inl ⟨rfl, rfl⟩)
      | false => exact .inl rfl
    | more => exact .inl rfl
  | cons member rest ih =>
    obtain ⟨key, value⟩ := member
    cases key with
    | none => exact .inl rfl
    | some key =>
      -- the same key comes first when the text goes on
      obtain ⟨value', rest', rfl, grows, later⟩ : ∃ value' rest',
          members' = (some key, value') :: rest' ∧ Grows value value' ∧
            MembersGrow rest closed rest' closed' := by
        cases grown with
        | same => exact ⟨value, rest, rfl, .same value, .same rest closed⟩
        | none _ hollow => exact hollow.elim
        | last parts closed' grown =>
          cases grown with
          | value _ grown => exact ⟨_, parts, rfl, grown, .more parts closed'⟩
        | cons _ grown => exact ⟨value, _, rfl, .same value, grown⟩
      by_cases tag : key = "type"
      · subst tag
        exact .inr (.inr ⟨.tag, value, value', rest, rest', rfl, rfl, grows, later⟩)
      · by_cases payload : key = "value"
        · subst payload
          exact .inr (.inr ⟨.payload, value, value', rest, rest', rfl, rfl, grows, later⟩)
        · simp only [nextMember, if_neg tag, if_neg payload]
          cases intact : value.intact with
          | false => exact .inl rfl
          | true =>
            obtain rfl := grows.eq_of_intact intact
            rw [intact]
            exact ih later

theorem finishObject_grows (a : α) (grown : MembersGrow members closed members' closed') :
    Lasting (finishObject members closed a) (finishObject members' closed' a) := by
  unfold finishObject
  obtain ended | ⟨ended, ended'⟩ | ⟨member, _, _, _, _, next, next', -, -⟩ :=
    nextMember_grows grown
  · rw [ended]
    exact .malformed _
  · rw [ended, ended']
    exact .refl _
  · rw [next, next']
    exact .refl _

/-- What is well formed throughout is complete. -/
theorem intact_of_soundWithin {depth : Nat} {o : Outline} (sound : o.soundWithin depth = true) :
    o.intact = true := by
  cases o with
  | array items closed =>
    cases depth with
    | zero => cases sound
    | succ depth => exact (Bool.and_eq_true_iff.mp sound).2
  | object members closed =>
    cases depth with
    | zero => cases sound
    | succ depth => exact (Bool.and_eq_true_iff.mp sound).2
  | misplaced | broken => cases depth <;> cases sound
  | _ => rfl

variable {n : Nat} {arms : Arms S n α} {union : String}

theorem readObject_grows (enduring : Enduring inside)
    (grown : MembersGrow members closed members' closed') :
    Lasting (arms.readObject inside .text union members closed)
      (arms.readObject inside .text union members' closed') := by
  unfold readObject
  obtain ended | ⟨ended, ended'⟩ |
    ⟨member, first, first', rest, rest', next, next', grows, later⟩ := nextMember_grows grown
  · rw [ended]
    exact .malformed _
  · rw [ended, ended']
    exact .refl _
  · rw [next, next']
    cases member with
    | tag =>
      show Lasting
        (Schema.readChoice inside.room .text (arms.alternatives inside union) first >>= _)
        (Schema.readChoice inside.room .text (arms.alternatives inside union) first' >>= _)
      refine Lasting.bind_of_ok (Schema.readChoice_grows inside.room grows) fun chosen choice => ?_
      obtain ⟨name, listed⟩ := Schema.exists_mem_of_readChoice choice
      obtain ended | ⟨ended, ended'⟩ |
        ⟨member, second, second', others, others', next, next', grows, later⟩ :=
        nextMember_grows later
      · rw [ended]
        exact .malformed _
      · rw [ended, ended']
        exact .refl _
      · rw [next, next']
        cases member with
        | tag => exact .refl _
        | payload =>
          show Lasting (chosen.present .text second >>= _) (chosen.present .text second' >>= _)
          have present := (enduringAlternative_of_mem enduring listed).grows grows
          exact congruence.bind present fun a => finishObject_grows a later
    | payload =>
      show Lasting (if first.soundWithin inside.depth then _ else malformed) _
      cases sound : first.soundWithin inside.depth with
      | false => exact .malformed _
      | true =>
        -- a payload that was held back was complete
        obtain rfl := grows.eq_of_intact (intact_of_soundWithin sound)
        show Lasting _ (if first'.soundWithin inside.depth then _ else malformed)
        rw [sound]
        obtain ended | ⟨ended, ended'⟩ | ⟨member, second, second', others, others', next, next',
          grows, later⟩ := nextMember_grows later
        · rw [ended]
          exact .malformed _
        · rw [ended, ended']
          exact .refl _
        · rw [next, next']
          cases member with
          | payload => exact .refl _
          | tag =>
            show Lasting
              (Schema.readChoice inside.room .text (arms.alternatives inside union) second >>= _)
              (Schema.readChoice inside.room .text (arms.alternatives inside union) second' >>= _)
            refine congruence.bind (Schema.readChoice_grows inside.room grows) fun chosen => ?_
            exact congruence.bind_right fun a => finishObject_grows a later

theorem readArray_grows (enduring : Enduring inside)
    (grown : ItemsGrow items closed items' closed') :
    Lasting (arms.readArray inside .text union items closed)
      (arms.readArray inside .text union items' closed') := by
  cases grown with
  | same => exact .refl _
  | more => exact .malformed _
  | none _ hollow =>
    subst hollow
    exact .malformed _
  | last parts _ grown =>
    exact congruence.bind (Schema.readIdentifier_grows grown) fun chosen => .malformed _
  | cons tag grown =>
    refine Lasting.bind_of_ok (.refl _) fun chosen choice => ?_
    obtain ⟨name, listed⟩ := Schema.exists_mem_of_readIdentifier choice
    have endures := enduringAlternative_of_mem enduring listed
    cases grown with
    | same => exact .refl _
    | more => exact .malformed _
    | none _ hollow =>
      subst hollow
      show Lasting (chosen.present .text .broken >>= _) _
      rw [endures.broken]
      exact .malformed _
    | last parts _ grown =>
      exact congruence.bind (endures.grows grown) fun a => .malformed _
    | cons value grown => exact congruence.bind_right fun a => finishArray_grows 2 a grown

end Arms

/-! ## Schemas -/

/-- Whether a container may be opened does not change when the text goes on. -/
theorem enter_grows {inside : Option (Inside S)} {use use' : Inside S → Reading α}
    (lasting : ∀ inner ∈ inside, Lasting (use inner) (use' inner)) :
    Lasting (enter inside use) (enter inside use') := by
  cases inside with
  | none => exact .malformed _
  | some inner => exact lasting inner rfl

theorem Shape.read_grows {inside : Option (Inside S)} (enduring : ∀ inner ∈ inside, Enduring inner)
    (shape : Shape S α) {o o' : Outline} (grown : Grows o o') :
    Lasting (shape.read inside .text o) (shape.read inside .text o') := by
  cases grown with
  | same => exact .refl _
  | broken => cases shape <;> exact .malformed _
  | array grown =>
    cases shape with
    | record name fields make =>
      refine enter_grows fun inner opened => congruence.map ?_
      exact Fields.readElements_grows (enduring inner opened) id grown
    | tuple wanted counted components make =>
      refine enter_grows fun inner opened => ?_
      exact Items.readElements_grows (enduring inner opened) make grown
    | union name arms =>
      exact enter_grows fun inner opened => Arms.readArray_grows (enduring inner opened) grown
  | object grown =>
    cases shape with
    | record name fields make =>
      refine enter_grows fun inner opened => congruence.map ?_
      exact Fields.readObject_grows (enduring inner opened) grown
    | tuple wanted counted components make => exact .refl _
    | union name arms =>
      exact enter_grows fun inner opened => Arms.readObject_grows (enduring inner opened) grown

namespace Schema

variable {ι : Type} {K : ι → Type} (shape : (i : ι) → Shape (Schema K) (K i))
  {inside : Option (Inside (Schema K))}

theorem layer_broken {α : Type} (schema : Schema K α) :
    schema.layer shape inside .text .broken = malformed := by
  cases schema with
  | optional inner =>
    show some <$> inner.layer shape inside .text .broken = malformed
    rw [layer_broken inner]
    rfl
  | shape inner => cases inner <;> rfl
  | node i =>
    show (shape i).read inside .text .broken = malformed
    cases shape i <;> rfl
  | _ => rfl

theorem layer_grows (enduring : ∀ inner ∈ inside, Enduring inner) {α : Type} (schema : Schema K α)
    {o o' : Outline} (grown : Grows o o') :
    Lasting (schema.layer shape inside .text o) (schema.layer shape inside .text o') := by
  cases schema with
  | shape inner => exact inner.read_grows enduring grown
  | node i => exact (shape i).read_grows enduring grown
  | choice names => exact readChoice_grows (inside.map Inside.keyCheck) grown
  | optional inner =>
    cases grown with
    | same => exact .refl _
    | broken =>
      rw [layer_broken]
      exact .malformed _
    | array grown => exact congruence.map (layer_grows enduring inner (.array grown))
    | object grown => exact congruence.map (layer_grows enduring inner (.object grown))
  | list wanted item =>
    cases grown with
    | same => exact .refl _
    | broken => exact .malformed _
    | object => exact .refl _
    | array grown =>
      exact enter_grows fun inner opened => inner.readList_grows (enduring inner opened) item grown
  | table item =>
    cases grown with
    | same => exact .refl _
    | broken => exact .malformed _
    | array => exact .refl _
    | object grown =>
      exact enter_grows fun inner opened => inner.readTable_grows (enduring inner opened) item grown
  | integer | double | boolean | text =>
    cases grown with
    | broken => exact .malformed _
    | _ => exact .refl _

end Schema

namespace Grammar

variable {ι : Type} (g : Grammar ι)

theorem enduring (depth : Nat) : Enduring (g.inside depth) := by
  induction depth with
  | zero =>
    have shut (inner : Inside (Schema g.Carrier)) (opened : inner ∈ none) : Enduring inner :=
      nomatch opened
    exact ⟨fun schema => schema.layer_broken g.shape,
      fun schema _ _ grown => schema.layer_grows g.shape shut grown⟩
  | succ depth ih =>
    have parts : ∀ inner ∈ some (g.inside depth), Enduring inner := by
      rintro _ ⟨⟩
      exact ih
    exact ⟨fun schema => schema.layer_broken g.shape,
      fun schema _ _ grown => schema.layer_grows g.shape parts grown⟩

/-- What reading a text has found out lasts when the text goes on. -/
theorem read_grows (depth : Nat) (schema : Schema g.Carrier α) {o o' : Outline}
    (grown : Grows o o') :
    Lasting (g.read depth .text schema o) (g.read depth .text schema o') :=
  (g.enduring depth).grows schema grown

end Grammar

end WireTree
