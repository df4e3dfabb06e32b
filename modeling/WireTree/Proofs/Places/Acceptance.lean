import WireTree.Proofs.Conformance.Reading
import WireTree.Proofs.Places.Congruence

/-!
# Whether a value is read depends on which parts are

Whether a value is read depends only on which of its parts are read, and not on what they are read
as: no reader looks at the value of one part to decide on another.
Main statement: `Place.accepted_alike`.
-/

namespace WireTree

open Json (Outline)

variable {S : Type → Type 1} {ι α β σ τ : Type}

/-- A reading gives a value. -/
def Accepted (reading : Reading α) : Prop :=
  ∃ a, reading = .ok a

/-- Of two readings, both give a value or none does. -/
def BothAccepted (first second : Reading α) : Prop :=
  Accepted first ↔ Accepted second

theorem accepted_map_iff {reading : Reading α} {make : α → β} :
    Accepted (make <$> reading) ↔ Accepted reading := by
  simp [Accepted, map_eq_ok_iff]

theorem accepted_bind_iff {reading : Reading α} {following : α → Reading β} :
    Accepted (reading >>= following) ↔ ∃ a, reading = .ok a ∧ Accepted (following a) := by
  simp only [Accepted, bind_eq_ok_iff]
  exact ⟨fun ⟨b, a, first, second⟩ => ⟨a, first, b, second⟩,
    fun ⟨a, first, b, second⟩ => ⟨b, a, first, second⟩⟩

theorem accepted_mapM_iff {read : α → Reading β} {items : List α} :
    Accepted (items.mapM read) ↔ ∀ item ∈ items, Accepted (read item) := by
  induction items with
  | nil => exact iff_of_true ⟨[], rfl⟩ nofun
  | cons item items ih =>
    rw [List.mapM_cons, accepted_bind_iff, List.forall_mem_cons, ← ih]
    constructor
    · rintro ⟨b, first, others⟩
      obtain ⟨values, others, -⟩ := accepted_bind_iff.mp others
      exact ⟨⟨b, first⟩, values, others⟩
    · rintro ⟨⟨b, first⟩, values, others⟩
      exact ⟨b, first, accepted_bind_iff.mpr ⟨values, others, b :: values, rfl⟩⟩

variable {inside : Inside S} {feed : Feed} {schema : S β} {o o' : Outline}

theorem accepted_readEntries_iff {members : List Outline.Member} {entries : Table β} :
    Accepted (inside.readEntries feed schema entries members) ↔
      ∀ member ∈ members, member.1.isSome = true ∧ Accepted (inside.read feed schema member.2) := by
  induction members generalizing entries with
  | nil => exact iff_of_true ⟨entries, rfl⟩ nofun
  | cons member members ih =>
    obtain ⟨key, value⟩ := member
    cases key with
    | none => exact iff_of_false nofun fun each => nomatch (each _ List.mem_cons_self).1
    | some key =>
      rw [Inside.readEntries, accepted_bind_iff, List.forall_mem_cons]
      simp only [ih, exists_and_right, Option.isSome_some, true_and]
      rfl

theorem accepted_readList_iff {items : List Outline} {closed : Bool} :
    Accepted (inside.readList feed schema items closed) ↔
      closed = true ∧ ∀ item ∈ items, Accepted (inside.read feed schema item) := by
  rw [← accepted_mapM_iff]
  cases closed with
  | true => simp [Inside.readList, Accepted]
  | false => simp [Inside.readList, Accepted, bind_eq_ok_iff]

theorem accepted_readTable_iff {members : List Outline.Member} {closed : Bool} :
    Accepted (inside.readTable feed schema members closed) ↔
      closed = true ∧
        ∀ member ∈ members, member.1.isSome = true ∧
          Accepted (inside.read feed schema member.2) := by
  rw [← @accepted_readEntries_iff _ _ _ _ _ _ .empty]
  cases closed with
  | true => simp [Inside.readTable, Accepted]
  | false => simp [Inside.readTable, Accepted, bind_eq_ok_iff]

/-- An array is accepted if all of its elements are taken. -/
theorem accepted_finishArray_iff {elements : Reading (τ × List Outline)} {taken : Nat}
    {closed : Bool} (make : τ → α) :
    Accepted
        (elements >>= fun (values, extra) => finishArray feed taken extra closed (make values)) ↔
      closed = true ∧ ∃ values, elements = .ok (values, []) := by
  simp [Accepted, bind_eq_ok_iff, finishArray_eq_ok_iff, and_comm]

/-- If an item is read exactly if another one is, so are lists that differ in it only. -/
theorem forall_mem_append_cons_congr (P : α → Prop) {a a' : α} (same : P a ↔ P a')
    (before after : List α) :
    (∀ x ∈ before ++ a :: after, P x) ↔ ∀ x ∈ before ++ a' :: after, P x := by
  simp [or_imp, forall_and, same]

namespace Inside

variable (same : BothAccepted (inside.read feed schema o) (inside.read feed schema o'))

include same

theorem readList_bothAccepted (before after : List Outline) (closed : Bool) :
    BothAccepted (inside.readList feed schema (before ++ o :: after) closed)
      (inside.readList feed schema (before ++ o' :: after) closed) := by
  unfold BothAccepted
  rw [accepted_readList_iff, accepted_readList_iff]
  refine and_congr_right' ?_
  exact forall_mem_append_cons_congr (fun o => Accepted (inside.read feed schema o)) same before
    after

theorem readTable_bothAccepted (before : List Outline.Member) (key : String)
    (after : List Outline.Member) (closed : Bool) :
    BothAccepted (inside.readTable feed schema (before ++ (some key, o) :: after) closed)
      (inside.readTable feed schema (before ++ (some key, o') :: after) closed) := by
  unfold BothAccepted
  rw [accepted_readTable_iff, accepted_readTable_iff]
  refine and_congr_right' ?_
  let Taken (member : Outline.Member) : Prop :=
    member.1.isSome = true ∧ Accepted (inside.read feed schema member.2)
  have taken : Taken (some key, o) ↔ Taken (some key, o') := and_congr_right' same
  exact forall_mem_append_cons_congr Taken taken before after

end Inside

namespace Fields

theorem accepted_readObject_cons_iff {key : String} {presence : Presence α} {part : S α}
    {rest : Fields S σ τ} {members : List Outline.Member} {closed : Bool} :
    Accepted ((cons key presence part rest).readObject inside feed members closed) ↔
      (valuesOf members (some key) = [] ∧ presence.absent?.isSome = true ∨
        ∃ value, valuesOf members (some key) = [value] ∧
          Accepted (inside.read feed part value)) ∧
      Accepted (rest.readObject inside feed (besides members (some key)) closed) := by
  constructor
  · rintro ⟨⟨a, values⟩, read⟩
    obtain ⟨first, others⟩ := readObject_cons_eq_ok_iff.mp read
    refine ⟨?_, values, others⟩
    rcases first with ⟨none, absent⟩ | ⟨value, alone, read⟩
    · exact .inl ⟨none, Option.isSome_iff_exists.mpr ⟨a, absent⟩⟩
    · exact .inr ⟨value, alone, a, read⟩
  · rintro ⟨⟨none, absent⟩ | ⟨value, alone, a, read⟩, values, others⟩
    · obtain ⟨a, absent⟩ := Option.isSome_iff_exists.mp absent
      exact ⟨(a, values), readObject_cons_eq_ok_iff.mpr ⟨.inl ⟨none, absent⟩, others⟩⟩
    · exact ⟨(a, values), readObject_cons_eq_ok_iff.mpr ⟨.inr ⟨value, alone, read⟩, others⟩⟩

theorem readObject_bothAccepted {key : String} {presence : Presence β} {fields : Fields S σ τ}
    (under : fields.Under key presence schema)
    (same : BothAccepted (inside.read feed schema o) (inside.read feed schema o'))
    (before after : List Outline.Member) (closed : Bool) :
    BothAccepted (fields.readObject inside feed (before ++ (some key, o) :: after) closed)
      (fields.readObject inside feed (before ++ (some key, o') :: after) closed) := by
  unfold BothAccepted at *
  induction under generalizing before after with
  | head =>
    rw [accepted_readObject_cons_iff, accepted_readObject_cons_iff]
    simp [valuesOf_append_cons, besides_append_cons, List.append_eq_singleton_iff, same]
  | @tail _ _ _ other _ _ _ different under ih =>
    have apart : some key ≠ some other := fun equal => different (Option.some.inj equal).symm
    rw [accepted_readObject_cons_iff, accepted_readObject_cons_iff]
    simp only [valuesOf_append_cons, besides_append_cons, if_neg apart, ih]

/-- The elements of an array are taken, and so many left over, whichever of the two is among
them. -/
theorem readElements_bothAccepted {fields : Fields S σ τ} {number : Nat}
    (nth : fields.Nth schema number)
    (same : BothAccepted (inside.read feed schema o) (inside.read feed schema o'))
    {wanted : String} {closed : Bool} {before after extra : List Outline}
    (length : before.length = number) {index : Nat} :
    (∃ values, fields.readElements inside feed wanted closed index (before ++ o :: after) =
        .ok (values, extra)) ↔
      ∃ values, fields.readElements inside feed wanted closed index (before ++ o' :: after) =
        .ok (values, extra) := by
  unfold BothAccepted Accepted at same
  induction nth generalizing before index with
  | head =>
    obtain rfl := List.length_eq_zero_iff.mp length
    simp [readElements, bind_eq_ok_iff, map_eq_ok_iff, same]
  | tail nth ih =>
    cases before with
    | nil => cases length
    | cons item before =>
      simp [readElements, bind_eq_ok_iff, map_eq_ok_iff, ih (Nat.succ.inj length)]

theorem readArray_bothAccepted {fields : Fields S σ τ} {before : List Outline}
    (nth : fields.Nth schema before.length)
    (same : BothAccepted (inside.read feed schema o) (inside.read feed schema o'))
    (name : String) (after : List Outline) (closed : Bool) :
    BothAccepted (fields.readArray inside feed name (before ++ o :: after) closed)
      (fields.readArray inside feed name (before ++ o' :: after) closed) := by
  refine Iff.trans (accepted_finishArray_iff id) ?_
  refine Iff.trans ?_ (accepted_finishArray_iff id).symm
  exact and_congr_right' (readElements_bothAccepted nth same rfl)

end Fields

theorem Items.readElements_bothAccepted {components : Items S τ} {number : Nat}
    (nth : components.Nth schema number)
    (same : BothAccepted (inside.read feed schema o) (inside.read feed schema o'))
    {counted : String} {closed : Bool} {before after extra : List Outline}
    (length : before.length = number) {index : Nat} :
    (∃ values, components.readElements inside feed counted closed index (before ++ o :: after) =
        .ok (values, extra)) ↔
      ∃ values, components.readElements inside feed counted closed index (before ++ o' :: after) =
        .ok (values, extra) := by
  unfold BothAccepted Accepted at same
  induction nth generalizing before index with
  | head =>
    obtain rfl := List.length_eq_zero_iff.mp length
    simp [readElements, bind_eq_ok_iff, map_eq_ok_iff, same]
  | tail nth ih =>
    cases before with
    | nil => cases length
    | cons item before =>
      simp [readElements, bind_eq_ok_iff, map_eq_ok_iff, ih (Nat.succ.inj length)]

/-! ## Places -/

variable {g : Grammar ι}

theorem bothAccepted_refl (reading : Reading α) : BothAccepted reading reading := Iff.rfl

theorem Layer.accepted_alike {schema : Schema g.Carrier α} {inner : Schema g.Carrier β}
    {gap : Outline → Outline} {o o' : Outline} (layer : Layer g schema inner gap)
    (alike : Alike BothAccepted g inner o o') : Alike BothAccepted g schema (gap o) (gap o') := by
  have same (depth : Nat) (feed : Feed) : BothAccepted ((g.inside depth).read feed inner o)
      ((g.inside depth).read feed inner o') := alike.read depth feed
  cases layer with
  | node i => exact alike.node
  | optional =>
    refine alike.optional bothAccepted_refl fun same => ?_
    exact accepted_map_iff.trans (Iff.trans same accepted_map_iff.symm)
  | item before after closed =>
    refine .container bothAccepted_refl nofun nofun (fun _ => rfl) fun depth feed => ?_
    exact Inside.readList_bothAccepted (same depth feed) before after closed
  | entry before key after closed =>
    refine .container bothAccepted_refl nofun nofun (fun _ => rfl) fun depth feed => ?_
    exact Inside.readTable_bothAccepted (same depth feed) before key after closed
  | member under before after closed =>
    refine .container bothAccepted_refl nofun nofun (fun _ => rfl) fun depth feed => ?_
    refine accepted_map_iff.trans (Iff.trans ?_ accepted_map_iff.symm)
    exact Fields.readObject_bothAccepted under (same depth feed) before after closed
  | element before after closed nth =>
    refine .container bothAccepted_refl nofun nofun (fun _ => rfl) fun depth feed => ?_
    refine accepted_map_iff.trans (Iff.trans ?_ accepted_map_iff.symm)
    exact Fields.readArray_bothAccepted nth (same depth feed) _ after closed
  | component before after closed nth =>
    refine .container bothAccepted_refl nofun nofun (fun _ => rfl) fun depth feed => ?_
    refine (accepted_finishArray_iff _).trans (Iff.trans ?_ (accepted_finishArray_iff _).symm)
    exact and_congr_right' (Items.readElements_bothAccepted nth (same depth feed) rfl)

/-- A value is accepted in a place exactly if another one is that is accepted alike. -/
theorem Place.accepted_alike {schema : Schema g.Carrier α} {inner : Schema g.Carrier β}
    {gap : Outline → Outline} {o o' : Outline} (place : Place g schema inner gap)
    (alike : Alike BothAccepted g inner o o') : Alike BothAccepted g schema (gap o) (gap o') := by
  induction place with
  | here => exact alike
  | inside layer _ ih => exact layer.accepted_alike (ih alike)

end WireTree
