import Mathlib.Tactic.SplitIfs
import WireTree.Json.Outline
import WireTree.Proofs.Prefix.Scanning

/-!
# How an outline grows with its text

A container whose bracket was not reached may get further parts, and its last part may itself go on;
whatever the text has completed stays as it is.
Main statements: one token makes the outline grow (`State.step_grows`), and where a token could not
be made out everything that stood before it can be seen (`State.step_broken_grows`).
-/

namespace WireTree.Json.Outline

/-- How the parts of a container may change when the text goes on: a part that is `Hollow` may
turn out to be none, and one that goes on changes by `R`. -/
inductive PartsGrow {α : Type} (Hollow : α → Prop) (R : α → α → Prop) :
    List α → Bool → List α → Bool → Prop where
  | same (parts : List α) (closed : Bool) : PartsGrow Hollow R parts closed parts closed
  /-- further parts, or the closing bracket -/
  | more (parts : List α) (closed : Bool) : PartsGrow Hollow R [] false parts closed
  /-- the last part is none -/
  | none {part : α} (closed : Bool) (hollow : Hollow part) :
      PartsGrow Hollow R [part] false [] closed
  /-- the last part goes on -/
  | last {part part' : α} (parts : List α) (closed : Bool) (grown : R part part') :
      PartsGrow Hollow R [part] false (part' :: parts) closed
  | cons (part : α) {parts parts' : List α} {closed closed' : Bool}
      (rest : PartsGrow Hollow R parts closed parts' closed') :
      PartsGrow Hollow R (part :: parts) closed (part :: parts') closed'

/-- A member whose value changes by `R`; its key stays. -/
inductive MemberGrows (R : Outline → Outline → Prop) : Member → Member → Prop where
  | value {o o' : Outline} (key : Option String) (grown : R o o') :
      MemberGrows R (key, o) (key, o')

/-- How an outline may change when the text goes on. -/
inductive Grows : Outline → Outline → Prop where
  | same (o : Outline) : Grows o o
  /-- where no value could be made out there may be any -/
  | broken (o : Outline) : Grows .broken o
  | array {items items' : List Outline} {closed closed' : Bool}
      (parts : PartsGrow (· = .broken) Grows items closed items' closed') :
      Grows (.array items closed) (.array items' closed')
  | object {members members' : List Member} {closed closed' : Bool}
      (parts : PartsGrow (fun _ => False) (MemberGrows Grows) members closed members' closed') :
      Grows (.object members closed) (.object members' closed')

/-- How the items of an array may change. -/
abbrev ItemsGrow : List Outline → Bool → List Outline → Bool → Prop :=
  PartsGrow (· = .broken) Grows

/-- How the members of an object may change. -/
abbrev MembersGrow : List Member → Bool → List Member → Bool → Prop :=
  PartsGrow (fun _ => False) (MemberGrows Grows)

section Parts

variable {α : Type} {Hollow : α → Prop} {R : α → α → Prop} {parts parts' : List α}
  {closed closed' : Bool}

/-- What grows at the end grows after the parts before it. -/
theorem PartsGrow.append (before : List α)
    (grown : PartsGrow Hollow R parts closed parts' closed') :
    PartsGrow Hollow R (before ++ parts) closed (before ++ parts') closed' := by
  induction before with
  | nil => exact grown
  | cons part before ih => exact .cons part ih

/-- Parts listed last first may be followed by more. -/
theorem PartsGrow.reverse_more (before later : List α) (closed : Bool) :
    PartsGrow Hollow R before.reverse false (before.reverse ++ later) closed := by
  have grown : PartsGrow Hollow R _ _ _ _ := .append before.reverse (.more later closed)
  rwa [List.append_nil] at grown

/-- Of parts listed last first, the last one may go on. -/
theorem PartsGrow.reverse_last (before : List α) {part part' : α} (grown : R part part') :
    PartsGrow Hollow R (part :: before).reverse false (part' :: before).reverse false := by
  rw [List.reverse_cons, List.reverse_cons]
  exact .append before.reverse (.last [] false grown)

/-- The parts of a container that was closed are final. -/
theorem PartsGrow.eq_of_closed (grown : PartsGrow Hollow R parts true parts' closed') :
    parts' = parts ∧ closed' = true := by
  generalize reached : true = closed at grown
  induction grown with
  | same =>
    cases reached
    exact ⟨rfl, rfl⟩
  | more | none | last => cases reached
  | cons part _ ih => exact ⟨congrArg _ (ih reached).1, (ih reached).2⟩

end Parts

/-- A value whose text is complete is final. -/
theorem Grows.eq_of_intact {o o' : Outline} (grown : Grows o o') (intact : o.intact = true) :
    o' = o := by
  cases grown with
  | same => rfl
  | broken => cases intact
  | array parts =>
    cases (intact : _ = true)
    obtain ⟨rfl, rfl⟩ := parts.eq_of_closed
    rfl
  | object parts =>
    cases (intact : _ = true)
    obtain ⟨rfl, rfl⟩ := parts.eq_of_closed
    rfl

/-- An outline that breaks off grows when what stands innermost grows. -/
theorem breakOff_grows (frames : List Frame) {inner inner' : Outline} (grown : Grows inner inner') :
    Grows (breakOff frames inner) (breakOff frames inner') := by
  induction frames generalizing inner inner' with
  | nil => exact grown
  | cons frame frames ih =>
    cases frame with
    | item before => exact ih (.array (.reverse_last before grown))
    | member before key => exact ih (.object (.reverse_last before (.value key grown)))

/-- An array that breaks off may be closed, or have a further item. -/
theorem array_closed_grows (before : List Outline) :
    Grows (.array before.reverse false) (.array before.reverse true) := by
  have grown : ItemsGrow _ _ _ _ := .reverse_more before [] true
  rw [List.append_nil] at grown
  exact .array grown

theorem array_item_grows (before : List Outline) (item : Outline) :
    Grows (.array before.reverse false) (.array (item :: before).reverse false) := by
  rw [List.reverse_cons]
  exact .array (.reverse_more before [item] false)

/-- Where an item could not be made out there may be none. -/
theorem array_hollow_grows (before : List Outline) :
    Grows (.array (.broken :: before).reverse false) (.array before.reverse false) := by
  have grown : ItemsGrow _ _ _ _ := .append before.reverse (.none false rfl)
  rw [List.append_nil, ← List.reverse_cons] at grown
  exact .array grown

theorem object_closed_grows (before : List Member) :
    Grows (.object before.reverse false) (.object before.reverse true) := by
  have grown : MembersGrow _ _ _ _ := .reverse_more before [] true
  rw [List.append_nil] at grown
  exact .object grown

theorem object_member_grows (before : List Member) (member : Member) :
    Grows (.object before.reverse false) (.object (member :: before).reverse false) := by
  rw [List.reverse_cons]
  exact .object (.reverse_more before [member] false)

/-- Where a key has to begin another value may stand. -/
theorem unkeyed_grows (before : List Member) (token : Token) :
    Grows (.object before.reverse false) (unkeyed before token) := by
  unfold unkeyed
  cases begun? token with
  | some value => exact object_member_grows before _
  | none => exact .same _

theorem not_intact_unkeyed (before : List Member) (token : Token) :
    (unkeyed before token).intact = false := by
  unfold unkeyed
  cases begun? token <;> rfl

namespace State

/-- A value that is complete stands where it would stand if the text ended after it. -/
theorem outline_place (frames : List Frame) (value : Outline) :
    (place frames value).outline = breakOff frames value := by
  match frames with
  | [] => rfl
  | .item before :: frames => rfl
  | .member before key :: frames => rfl

/-- Where a value has to begin, a token puts something in its place. -/
theorem exists_outline_begin (frames : List Frame) (token : Token) :
    ∃ inner, (begin frames token).outline = breakOff frames inner := by
  cases token
  case null | boolean | number | text => exact ⟨_, outline_place frames _⟩
  all_goals exact ⟨_, rfl⟩

theorem begin_grows (frames : List Frame) (token : Token) :
    Grows (breakOff frames .broken) (begin frames token).outline := by
  obtain ⟨inner, found⟩ := exists_outline_begin frames token
  rw [found]
  exact breakOff_grows frames (.broken inner)

theorem stepArray_grows (frames : List Frame) (before : List Outline) (fresh : Bool)
    (token : Token) :
    Grows (breakOff frames (.array before.reverse false))
      (stepArray frames before fresh token).outline := by
  unfold stepArray
  split_ifs
  · rw [outline_place]
    exact breakOff_grows frames (array_closed_grows before)
  · obtain ⟨inner, found⟩ := exists_outline_begin (.item before :: frames) token
    rw [found]
    exact breakOff_grows frames (array_item_grows before inner)
  · exact breakOff_grows frames (array_item_grows before .broken)
  · exact .same _

theorem stepObject_grows (frames : List Frame) (before : List Member) (stage : MemberStage)
    (token : Token) :
    Grows (breakOff frames (Focus.object before stage).outline)
      (stepObject frames before stage token).outline := by
  have closed := breakOff_grows frames (object_closed_grows before)
  have named (key : Option String) :=
    breakOff_grows frames (object_member_grows before (key, .broken))
  unfold stepObject
  split
  · rw [outline_place]
    exact closed
  · exact named _
  · exact breakOff_grows frames (unkeyed_grows before token)
  · exact named _
  · exact .same _
  · exact .same _
  · exact .same _
  · rw [outline_place]
    exact closed
  · exact .same _
  · exact .same _

/-- One more token lets the outline grow. -/
theorem step_grows (state : State) (token : Token) :
    Grows state.outline (state.step token).outline := by
  match state with
  | .reading frames .value => exact begin_grows frames token
  | .reading frames (.array before fresh) => exact stepArray_grows frames before fresh token
  | .reading frames (.object before stage) => exact stepObject_grows frames before stage token
  | .done root => exact .same root
  | .trailing root => exact .same root
  | .stopped root => exact .same root

/-- Where a token could not be made out everything that stood before it can be seen. -/
theorem step_broken_grows (state : State) :
    Grows (state.step .broken).outline state.outline := by
  match state with
  | .reading frames .value => exact .same _
  | .reading frames (.array before true) => exact breakOff_grows frames (array_hollow_grows before)
  | .reading frames (.array before false) => exact .same _
  | .reading frames (.object before stage) => cases stage <;> exact .same _
  | .done root => exact .same root
  | .trailing root => exact .same root
  | .stopped root => exact .same root

/-! ## The end of the text -/

theorem not_intact_breakOff (frames : List Frame) {inner : Outline}
    (unfinished : inner.intact = false) : (breakOff frames inner).intact = false := by
  induction frames generalizing inner with
  | nil => exact unfinished
  | cons frame frames ih => cases frame <;> exact ih rfl

/-- Where the machine has stopped the value is unfinished. -/
def Sound : State → Prop
  | .stopped root => root.intact = false
  | _ => True

theorem sound_place (frames : List Frame) (value : Outline) : (place frames value).Sound := by
  match frames with
  | [] => trivial
  | .item _ :: _ => trivial
  | .member _ _ :: _ => trivial

theorem sound_begin (frames : List Frame) (token : Token) : (begin frames token).Sound := by
  cases token
  case null | boolean | number | text => exact sound_place frames _
  case openArray | openObject => trivial
  all_goals exact not_intact_breakOff frames rfl

theorem Sound.step {state : State} (sound : state.Sound) (token : Token) :
    (state.step token).Sound := by
  match state with
  | .reading frames .value => exact sound_begin frames token
  | .reading frames (.array before fresh) =>
    show (stepArray frames before fresh token).Sound
    unfold stepArray
    split_ifs
    · exact sound_place frames _
    · exact sound_begin _ token
    · trivial
    · exact not_intact_breakOff frames rfl
  | .reading frames (.object before stage) =>
    show (stepObject frames before stage token).Sound
    unfold stepObject
    split
    case h_1 | h_8 => exact sound_place frames _
    case h_2 | h_4 | h_6 | h_9 => trivial
    case h_3 => exact not_intact_breakOff frames (not_intact_unkeyed before token)
    all_goals exact not_intact_breakOff frames rfl
  | .done root => trivial
  | .trailing root => trivial
  | .stopped root => exact sound

theorem Sound.run {state : State} (sound : state.Sound) (tokens : List Token) :
    (tokens.foldl State.step state).Sound := by
  induction tokens generalizing state with
  | nil => exact sound
  | cons token tokens ih => exact ih (sound.step token)

/-- A value is complete only if the machine is done with it or has found more after it. -/
theorem Sound.eq_of_intact {state : State} (sound : state.Sound)
    (intact : state.outline.intact = true) :
    state = .done state.outline ∨ state = .trailing state.outline := by
  match state with
  | .reading frames focus =>
    have unfinished : focus.outline.intact = false := by
      match focus with
      | .value | .array _ _ => rfl
      | .object _ stage => cases stage <;> rfl
    rw [outline, not_intact_breakOff frames unfinished] at intact
    cases intact
  | .done root => exact .inl rfl
  | .trailing root => exact .inr rfl
  | .stopped root =>
    rw [outline, (sound : root.intact = false)] at intact
    cases intact

/-- Once something follows the value, something follows it. -/
theorem run_trailing (root : Outline) (tokens : List Token) :
    tokens.foldl step (.trailing root) = .trailing root := by
  induction tokens with
  | nil => rfl
  | cons token tokens ih => exact ih

end State

end WireTree.Json.Outline
