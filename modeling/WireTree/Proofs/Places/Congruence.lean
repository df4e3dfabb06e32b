import WireTree.Proofs.Outcome
import WireTree.Proofs.Places.Basic
import WireTree.Proofs.Spelling.Basic

/-!
# What stands in a place counts only by its reading

If two values are read alike, they are read alike in any place. This is said of every way to compare
readings that is kept by sequencing, in particular of readings being the same and of their giving
the same values.
Main statement: `Place.alike`.
-/

namespace WireTree

open Json (Outline)

variable {S : Type → Type 1} {ι α β σ τ : Type}

/-- A comparison of readings that is kept by sequencing. -/
structure Congruence (R : {α : Type} → Reading α → Reading α → Prop) : Prop where
  refl : ∀ {α : Type} (reading : Reading α), R reading reading
  bind : ∀ {α β : Type} {first second : Reading α} {following following' : α → Reading β},
    R first second → (∀ a, R (following a) (following' a)) →
      R (first >>= following) (second >>= following')

/-- Two readings give the same values. What a failed one reports does not matter. -/
def SameValues (first second : Reading α) : Prop :=
  ∀ a, first = .ok a ↔ second = .ok a

theorem congruence_eq : Congruence (fun first second => first = second) where
  refl _ := rfl
  bind same each := by rw [same, funext each]

theorem congruence_sameValues : Congruence SameValues where
  refl _ _ := Iff.rfl
  bind same each b := by
    rw [bind_eq_ok_iff, bind_eq_ok_iff]
    exact exists_congr fun a => and_congr (same a) (each a b)

/-- The members of an object are taken in turn. -/
theorem Fields.readMembers_append {inside : Inside S} {feed : Feed} {fields : Fields S σ τ}
    {slots : σ} {before after : List Outline.Member} :
    fields.readMembers inside feed slots (before ++ after) =
      fields.readMembers inside feed slots before >>= fun slots =>
        fields.readMembers inside feed slots after := by
  induction before generalizing slots with
  | nil => rfl
  | cons member before ih =>
    obtain ⟨name, value⟩ := member
    cases name with
    | none => rfl
    | some name =>
      rw [List.cons_append, readMembers, readMembers, bind_assoc]
      refine congrArg _ (funext fun found => ?_)
      cases found with
      | some slots' => exact ih
      | none =>
        show (if value.intact then _ else _) = (if value.intact then _ else _) >>= _
        cases value.intact with
        | true => exact ih
        | false => rfl

/-! ## What has been found -/

namespace Fields

/-- The member under a key has been found. -/
def Holds (key : String) {σ τ : Type} : Fields S σ τ → σ → Prop
  | nil, _ => False
  | cons name _ _ rest, (slot, slots) =>
    if name = key then slot.isSome = true else rest.Holds key slots

variable {fields : Fields S σ τ} {key name : String} {presence : Presence α} {schema : S α}
  {slot : Option α} {slots : σ}

theorem holds_cons_self :
    (cons key presence schema fields).Holds key (slot, slots) ↔ slot.isSome = true := by
  rw [Holds, if_pos rfl]

theorem holds_cons_of_ne (different : name ≠ key) :
    (cons name presence schema fields).Holds key (slot, slots) ↔ fields.Holds key slots := by
  rw [Holds, if_neg different]

theorem not_holds_blank (fields : Fields S σ τ) (key : String) :
    ¬ fields.Holds key fields.blank := by
  induction fields with
  | nil => exact id
  | cons name presence schema rest ih =>
    by_cases same : name = key
    · subst same
      rw [blank, holds_cons_self]
      exact Bool.false_ne_true
    · rwa [blank, holds_cons_of_ne same]

variable (inside : Inside S) (feed : Feed)

/-- A member that has been found may not come again, whatever its value is. -/
theorem readMember_of_holds (under : fields.Under key presence schema)
    (holds : fields.Holds key slots) (o : Outline) :
    fields.readMember inside feed key o slots = refuse (.duplicateField key) := by
  induction under with
  | head =>
    obtain ⟨slot, slots⟩ := slots
    rw [readMember, if_pos rfl, if_pos (holds_cons_self.mp holds)]
  | tail different under ih =>
    obtain ⟨slot, slots⟩ := slots
    rw [readMember, if_neg different, ih ((holds_cons_of_ne different).mp holds)]
    rfl

/-- The value of a member that has not been found yet is read and kept, and nothing else is found
by that. -/
theorem readMember_of_not_holds (under : fields.Under key presence schema)
    (fresh : ¬ fields.Holds key slots) :
    ∃ keep : α → σ,
      (∀ o, fields.readMember inside feed key o slots =
        inside.read feed schema o >>= fun a => .ok (some (keep a))) ∧
      ∀ a other, fields.Holds other (keep a) ↔ other = key ∨ fields.Holds other slots := by
  induction under with
  | head =>
    obtain ⟨slot, slots⟩ := slots
    rw [holds_cons_self] at fresh
    refine ⟨fun a => (some a, slots), ?_, ?_⟩
    · intro o
      rw [readMember, if_pos rfl, if_neg fresh]
      rfl
    · intro a other
      by_cases same : key = other
      · subst same
        simp [holds_cons_self]
      · rw [holds_cons_of_ne same, holds_cons_of_ne same, or_iff_right (Ne.symm same)]
  | @tail _ _ _ first _ _ _ different under ih =>
    obtain ⟨slot, slots⟩ := slots
    rw [holds_cons_of_ne different] at fresh
    obtain ⟨keep, read, kept⟩ := ih fresh
    refine ⟨fun a => (slot, keep a), ?_, ?_⟩
    · intro o
      rw [readMember, if_neg different, read, bind_assoc]
      rfl
    · intro a other
      by_cases same : first = other
      · subst same
        rw [holds_cons_self, holds_cons_self, or_iff_right different]
      · rw [holds_cons_of_ne same, holds_cons_of_ne same, kept]

end Fields

namespace Congruence

variable {R : {α : Type} → Reading α → Reading α → Prop} {inside : Inside S} {feed : Feed}
  {schema : S β} {o o' : Outline}

theorem bind_left (congruence : Congruence R) {first second : Reading α}
    {following : α → Reading β} (same : R first second) :
    R (first >>= following) (second >>= following) :=
  congruence.bind same fun a => congruence.refl (following a)

theorem bind_right (congruence : Congruence R) {first : Reading α}
    {following following' : α → Reading β} (each : ∀ a, R (following a) (following' a)) :
    R (first >>= following) (first >>= following') :=
  congruence.bind (congruence.refl first) each

theorem map (congruence : Congruence R) {first second : Reading α} {make : α → β}
    (same : R first second) : R (make <$> first) (make <$> second) := by
  rw [← bind_pure_comp, ← bind_pure_comp]
  exact congruence.bind_left same

/-! ## The parts of a container -/

theorem readList (congruence : Congruence R)
    (same : R (inside.read feed schema o) (inside.read feed schema o'))
    (before after : List Outline) (closed : Bool) :
    R (inside.readList feed schema (before ++ o :: after) closed)
      (inside.readList feed schema (before ++ o' :: after) closed) := by
  unfold Inside.readList
  rw [List.mapM_append, List.mapM_append, List.mapM_cons, List.mapM_cons]
  refine congruence.bind_left (congruence.bind_right fun _ => congruence.bind_left ?_)
  exact congruence.bind_left same

theorem readEntries (congruence : Congruence R)
    (same : R (inside.read feed schema o) (inside.read feed schema o'))
    (before : List Outline.Member) (key : String) (after : List Outline.Member)
    (entries : Table β) :
    R (inside.readEntries feed schema entries (before ++ (some key, o) :: after))
      (inside.readEntries feed schema entries (before ++ (some key, o') :: after)) := by
  induction before generalizing entries with
  | nil => exact congruence.bind_left same
  | cons member before ih =>
    obtain ⟨name, value⟩ := member
    cases name with
    | none => exact congruence.refl _
    | some name => exact congruence.bind_right fun a => ih (entries.put name a)

/-- A member under a key of the record either comes again, whatever its value is, or its value is
read and kept. -/
theorem readMember_cases {key : String} {presence : Presence β} {fields : Fields S σ τ}
    (under : fields.Under key presence schema) (slots : σ) :
    (∀ o, fields.readMember inside feed key o slots = refuse (.duplicateField key)) ∨
      ∃ keep : β → σ, ∀ o, fields.readMember inside feed key o slots =
        inside.read feed schema o >>= fun b => .ok (some (keep b)) := by
  by_cases holds : fields.Holds key slots
  · exact .inl (Fields.readMember_of_holds inside feed under holds)
  · obtain ⟨keep, read, -⟩ := Fields.readMember_of_not_holds inside feed under holds
    exact .inr ⟨keep, read⟩

theorem readMembers (congruence : Congruence R) {key : String} {presence : Presence β}
    {fields : Fields S σ τ} (under : fields.Under key presence schema)
    (same : R (inside.read feed schema o) (inside.read feed schema o'))
    (before after : List Outline.Member) (slots : σ) :
    R (fields.readMembers inside feed slots (before ++ (some key, o) :: after))
      (fields.readMembers inside feed slots (before ++ (some key, o') :: after)) := by
  rw [Fields.readMembers_append, Fields.readMembers_append]
  refine congruence.bind_right fun slots => ?_
  rw [Fields.readMembers, Fields.readMembers]
  rcases readMember_cases under slots with again | ⟨keep, read⟩
  · rw [again, again]
    exact congruence.refl _
  · rw [read, read, bind_assoc, bind_assoc]
    exact congruence.bind_left same

theorem readElements (congruence : Congruence R) {fields : Fields S σ τ} {number : Nat}
    (nth : fields.Nth schema number)
    (same : R (inside.read feed schema o) (inside.read feed schema o')) (wanted : String)
    (closed : Bool) (before after : List Outline) (length : before.length = number) (index : Nat) :
    R (fields.readElements inside feed wanted closed index (before ++ o :: after))
      (fields.readElements inside feed wanted closed index (before ++ o' :: after)) := by
  induction nth generalizing before index with
  | head =>
    obtain rfl := List.length_eq_zero_iff.mp length
    exact congruence.bind_left same
  | tail nth ih =>
    cases before with
    | nil => cases length
    | cons item before =>
      refine congruence.bind_right fun a => congruence.bind_left ?_
      exact ih before (Nat.succ.inj length) (index + 1)

theorem readComponents (congruence : Congruence R) {components : Items S τ} {number : Nat}
    (nth : components.Nth schema number)
    (same : R (inside.read feed schema o) (inside.read feed schema o')) (counted : String)
    (closed : Bool) (before after : List Outline) (length : before.length = number) (index : Nat) :
    R (components.readElements inside feed counted closed index (before ++ o :: after))
      (components.readElements inside feed counted closed index (before ++ o' :: after)) := by
  induction nth generalizing before index with
  | head =>
    obtain rfl := List.length_eq_zero_iff.mp length
    exact congruence.bind_left same
  | tail nth ih =>
    cases before with
    | nil => cases length
    | cons item before =>
      refine congruence.bind_right fun a => congruence.bind_left ?_
      exact ih before (Nat.succ.inj length) (index + 1)

end Congruence

/-! ## Places -/

variable {g : Grammar ι} {R : {α : Type} → Reading α → Reading α → Prop}

/-- Two values are read alike by a schema, however many containers may be opened and wherever they
are read from; and neither is `null` without the other. -/
structure Alike (R : {α : Type} → Reading α → Reading α → Prop) (g : Grammar ι)
    (schema : Schema g.Carrier α) (o o' : Outline) : Prop where
  null : o = .null ↔ o' = .null
  read : ∀ depth feed, R (g.read depth feed schema o) (g.read depth feed schema o')

/-- Containers are read alike if they are when they may be opened. -/
theorem Alike.container (refl : ∀ {α : Type} (reading : Reading α), R reading reading)
    {schema : Schema g.Carrier α} {o o' : Outline} (proper : o ≠ .null) (proper' : o' ≠ .null)
    (shut : ∀ feed, g.read 0 feed schema o = g.read 0 feed schema o')
    (opened : ∀ depth feed,
      R (g.read (depth + 1) feed schema o) (g.read (depth + 1) feed schema o')) :
    Alike R g schema o o' := by
  refine ⟨iff_of_false proper proper', ?_⟩
  intro depth feed
  cases depth with
  | zero =>
    rw [shut]
    exact refl _
  | succ depth => exact opened depth feed

theorem read_optional_of_ne_null {schema : Schema g.Carrier α} {o : Outline} (present : o ≠ .null)
    (depth : Nat) (feed : Feed) :
    g.read depth feed (.optional schema) o = some <$> g.read depth feed schema o := by
  cases o with
  | null => exact absurd rfl present
  | _ => cases depth <;> rfl

theorem Alike.node {i : ι} {o o' : Outline} (alike : Alike R g (.shape (g.shape i)) o o') :
    Alike R g (.node i) o o' := by
  refine ⟨alike.null, ?_⟩
  intro depth feed
  cases depth with
  | zero => exact alike.read 0 feed
  | succ depth => exact alike.read (depth + 1) feed

/-- What may be `null` is read alike if it is read alike where it may not. -/
theorem Alike.optional {schema : Schema g.Carrier α} {o o' : Outline}
    (refl : ∀ {α : Type} (reading : Reading α), R reading reading)
    (map : ∀ {first second : Reading α}, R first second → R (some <$> first) (some <$> second))
    (alike : Alike R g schema o o') : Alike R g (.optional schema) o o' := by
  refine ⟨alike.null, ?_⟩
  intro depth feed
  by_cases absent : o = .null
  · rw [absent, alike.null.mp absent]
    exact refl _
  · have absent' : o' ≠ .null := fun absent' => absent (alike.null.mpr absent')
    rw [read_optional_of_ne_null absent, read_optional_of_ne_null absent']
    exact map (alike.read depth feed)

/-- How many containers a layer opens around its place: one or none. -/
def containersAround (gap : Outline → Outline) : Nat :=
  match gap .null with
  | .null => 0
  | _ => 1

namespace Layer

variable {schema : Schema g.Carrier α} {inner : Schema g.Carrier β} {gap : Outline → Outline}
  {o o' : Outline}

theorem null_iff (layer : Layer g schema inner gap) (null : o = .null ↔ o' = .null) :
    gap o = .null ↔ gap o' = .null := by
  cases layer with
  | node _ | optional => exact null
  | _ => exact iff_of_false nofun nofun

/-- A layer that opens a container is not read if none may be opened. -/
theorem shut (layer : Layer g schema inner gap) :
    containersAround gap = 0 ∨
      containersAround gap = 1 ∧ ∀ feed o, g.read 0 feed schema (gap o) = malformed := by
  cases layer with
  | node _ | optional => exact .inl rfl
  | _ => exact .inr ⟨rfl, fun _ _ => rfl⟩

/-- Values that are read alike in a place, where so many containers may be opened, make values that
are read alike. -/
theorem read_alike (congruence : Congruence R) {room : Nat} {feed : Feed}
    (layer : Layer g schema inner gap) (null : o = .null ↔ o' = .null)
    (same : R (g.read room feed inner o) (g.read room feed inner o')) :
    R (g.read (room + containersAround gap) feed schema (gap o))
      (g.read (room + containersAround gap) feed schema (gap o')) := by
  have inside : R ((g.inside room).read feed inner o) ((g.inside room).read feed inner o') := same
  cases layer with
  | node i => cases room <;> exact same
  | optional =>
    show R (g.read room feed (.optional inner) o) (g.read room feed (.optional inner) o')
    by_cases absent : o = .null
    · rw [absent, null.mp absent]
      exact congruence.refl _
    · have absent' : o' ≠ .null := fun absent' => absent (null.mpr absent')
      rw [read_optional_of_ne_null absent, read_optional_of_ne_null absent']
      exact congruence.map same
  | item before after closed => exact congruence.readList inside before after closed
  | entry before key after closed =>
    exact congruence.bind_left (congruence.readEntries inside before key after .empty)
  | member under before after closed =>
    exact congruence.map (congruence.bind_left (congruence.readMembers under inside before after _))
  | element before after closed nth =>
    refine congruence.map (congruence.bind_left ?_)
    exact congruence.readElements nth inside _ closed before after rfl 0
  | component before after closed nth =>
    refine congruence.bind_left ?_
    exact congruence.readComponents nth inside _ closed before after rfl 0

/-- Values that are read alike in a place make values that are read alike. -/
theorem alike (congruence : Congruence R) (layer : Layer g schema inner gap)
    (alike : Alike R g inner o o') : Alike R g schema (gap o) (gap o') := by
  refine ⟨layer.null_iff alike.null, ?_⟩
  intro depth feed
  have read (room : Nat) := layer.read_alike congruence alike.null (alike.read room feed)
  rcases layer.shut with none | ⟨one, shut⟩
  · rw [none] at read
    exact read depth
  · cases depth with
    | zero =>
      rw [shut, shut]
      exact congruence.refl _
    | succ depth =>
      rw [one] at read
      exact read depth

end Layer

theorem Place.alike (congruence : Congruence R) {schema : Schema g.Carrier α}
    {inner : Schema g.Carrier β} {gap : Outline → Outline} {o o' : Outline}
    (place : Place g schema inner gap) (alike : Alike R g inner o o') :
    Alike R g schema (gap o) (gap o') := by
  induction place with
  | here => exact alike
  | inside layer _ ih => exact layer.alike congruence (ih alike)

/-- The places at any depth inside a value of a schema, each with the number of containers around
it. -/
inductive PlaceWithin (g : Grammar ι) :
    {α β : Type} → Nat → Schema g.Carrier α → Schema g.Carrier β → (Outline → Outline) → Prop where
  | here {α : Type} {schema : Schema g.Carrier α} : PlaceWithin g 0 schema schema id
  | inside {α β γ : Type} {schema : Schema g.Carrier α} {middle : Schema g.Carrier β}
      {inner : Schema g.Carrier γ} {outer gap : Outline → Outline} {containers : Nat}
      (layer : Layer g schema middle outer) (place : PlaceWithin g containers middle inner gap) :
      PlaceWithin g (containers + containersAround outer) schema inner fun o => outer (gap o)

namespace PlaceWithin

variable {schema : Schema g.Carrier α} {inner : Schema g.Carrier β} {gap : Outline → Outline}
  {containers : Nat} {o o' : Outline}

theorem place (within : PlaceWithin g containers schema inner gap) : Place g schema inner gap := by
  induction within with
  | here => exact .here
  | inside layer _ ih => exact .inside layer ih

theorem null_iff (within : PlaceWithin g containers schema inner gap)
    (null : o = .null ↔ o' = .null) : gap o = .null ↔ gap o' = .null := by
  induction within with
  | here => exact null
  | inside layer _ ih => exact layer.null_iff ih

/-- It is enough that two values are read alike where as many containers may be opened as may be in
their place. -/
theorem read_alike (congruence : Congruence R) {room : Nat} {feed : Feed}
    (within : PlaceWithin g containers schema inner gap) (null : o = .null ↔ o' = .null)
    (same : R (g.read room feed inner o) (g.read room feed inner o')) :
    R (g.read (room + containers) feed schema (gap o))
      (g.read (room + containers) feed schema (gap o')) := by
  induction within with
  | here => exact same
  | inside layer within ih =>
    rw [← Nat.add_assoc]
    exact layer.read_alike congruence (within.null_iff null) (ih same)

end PlaceWithin

end WireTree
