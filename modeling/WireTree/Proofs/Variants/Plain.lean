import WireTree.Proofs.Conformance.Nesting
import WireTree.Proofs.Places.Members
import WireTree.Proofs.Variants.Basic

/-!
# Respelling plain values

It keeps them plain.
Main statement: `Respelled.plain_iff`.
-/

namespace WireTree

open Json (Outline outlineItems outlineMembers)

variable {S : Type → Type 1} {ι α β γ σ τ : Type}

variable {g : Grammar ι}

namespace Plain

theorem here {schema : Schema g.Carrier α} {json : Json} (plain : Plain g schema json) :
    schema.PlainHere json := by
  cases plain with
  | intro here _ => exact here

theorem part {schema : Schema g.Carrier α} {json part : Json} {inner : Schema g.Carrier β}
    (plain : Plain g schema json) (has : schema.HasPart g.shape json ⟨β, inner⟩ part) :
    Plain g inner part := by
  cases plain with
  | intro _ parts => exact parts ⟨β, inner⟩ part has

/-- There is nothing in `null` that is not plain. -/
theorem null {α : Type} (schema : Schema g.Carrier α) : Plain g schema .null := by
  have shaped {α : Type} (shape : Shape (Schema g.Carrier) α) : Plain g (.shape shape) .null :=
    .intro (by cases shape <;> trivial) fun inner part has => by cases shape <;> exact has.elim
  cases schema with
  | optional inner =>
    refine .intro trivial ?_
    rintro _ _ ⟨rfl, rfl⟩
    exact null inner
  | node i =>
    refine .intro trivial ?_
    rintro _ _ ⟨rfl, rfl⟩
    exact shaped (g.shape i)
  | shape inner => exact shaped inner
  | _ => exact .intro trivial fun _ _ has => has.elim

end Plain

/-! ## Values with a gap -/

/-- A value with a gap for a part. Filling it in another way changes no other part, and does not
matter for whether the value is plain at the top. -/
structure Gap (g : Grammar ι) (schema : Schema g.Carrier α) (inner : Schema g.Carrier β)
    (fill : Json → Json) : Prop where
  here : ∀ part part', schema.PlainHere (fill part) → schema.PlainHere (fill part')
  filled : ∀ part, schema.HasPart g.shape (fill part) ⟨β, inner⟩ part
  others : ∀ part part' kind other, schema.HasPart g.shape (fill part) kind other →
      kind = ⟨β, inner⟩ ∧ other = part ∨ schema.HasPart g.shape (fill part') kind other

namespace Gap

variable {schema : Schema g.Carrier α} {inner : Schema g.Carrier β} {fill : Json → Json}
  {part part' : Json}

theorem plain_of_plain (gap : Gap g schema inner fill)
    (new : Plain g inner part → Plain g inner part') (plain : Plain g schema (fill part)) :
    Plain g schema (fill part') := by
  refine .intro (gap.here part part' plain.here) ?_
  intro kind other has
  rcases gap.others part' part kind other has with ⟨rfl, rfl⟩ | has
  · exact new (plain.part (gap.filled part))
  · exact plain.part has

/-- A value is plain with either of two parts if these are both plain or both not. -/
theorem plain_iff (gap : Gap g schema inner fill)
    (same : Plain g inner part ↔ Plain g inner part') :
    Plain g schema (fill part) ↔ Plain g schema (fill part') :=
  ⟨gap.plain_of_plain same.mp, gap.plain_of_plain same.mpr⟩

theorem node (i : ι) : Gap g (.node i) (.shape (g.shape i)) id where
  here _ _ := id
  filled _ := ⟨rfl, rfl⟩
  others _ _ _ _ has := .inl has

theorem optional : Gap g (.optional inner) inner id where
  here _ _ := id
  filled _ := ⟨rfl, rfl⟩
  others _ _ _ _ has := .inl has

theorem mem_append_cons {x a : α} (a' : α) {before after : List α}
    (member : x ∈ before ++ a :: after) : x = a ∨ x ∈ before ++ a' :: after := by
  simp only [List.mem_append, List.mem_cons] at member ⊢
  tauto

theorem item {wanted : String} (before after : List Json) :
    Gap g (.list wanted inner) inner fun part => .array (before ++ part :: after) where
  here _ _ := id
  filled _ := ⟨rfl, by simp⟩
  others part part' kind other has := by
    obtain ⟨rfl, member⟩ := has
    rcases mem_append_cons part' member with rfl | member
    · exact .inl ⟨rfl, rfl⟩
    · exact .inr ⟨rfl, member⟩

theorem entry (before : List (String × Json)) (key : String) (after : List (String × Json)) :
    Gap g (.table inner) inner fun part => .object (before ++ (key, part) :: after) where
  here _ _ := id
  filled _ := ⟨rfl, key, by simp⟩
  others part part' kind other has := by
    obtain ⟨rfl, name, member⟩ := has
    rcases mem_append_cons (key, part') member with same | member
    · cases same
      exact .inl ⟨rfl, rfl⟩
    · exact .inr ⟨rfl, name, member⟩

theorem member {name key : String} {fields : Fields (Schema g.Carrier) σ τ} {make : τ → α}
    {presence : Presence β} (under : fields.Under key presence inner)
    (before after : List (String × Json)) :
    Gap g (.shape (.record name fields make)) inner fun part =>
      .object (before ++ (key, part) :: after) where
  here part part' known := by
    intro other member
    rcases mem_append_cons (key, part) member with rfl | member
    · exact known (key, part) (by simp)
    · exact known other member
  filled _ := ⟨key, presence, under, by simp⟩
  others part part' kind other has := by
    obtain ⟨key', presence', under', member⟩ := has
    rcases mem_append_cons (key, part') member with same | member
    · cases same
      exact .inl ⟨Option.some.inj (under'.lookup.symm.trans under.lookup), rfl⟩
    · exact .inr ⟨key', presence', under', member⟩

theorem getElem?_append_cons {index : Nat} {x a : α} (a' : α) {before after : List α}
    (found : (before ++ a :: after)[index]? = some x) :
    index = before.length ∧ x = a ∨ (before ++ a' :: after)[index]? = some x := by
  rcases Nat.lt_trichotomy index before.length with less | rfl | greater
  · right
    rwa [List.getElem?_append_left less] at found ⊢
  · left
    simpa using found.symm
  · right
    obtain ⟨more, rfl⟩ := Nat.exists_eq_add_of_lt greater
    rw [List.getElem?_append_right (by omega)] at found ⊢
    simpa [Nat.add_assoc, Nat.add_sub_cancel_left] using found

theorem element {name : String} {fields : Fields (Schema g.Carrier) σ τ} {make : τ → α}
    {before : List Json} (nth : fields.Nth inner before.length) (after : List Json) :
    Gap g (.shape (.record name fields make)) inner fun part =>
      .array (before ++ part :: after) where
  here _ _ := id
  filled _ := ⟨before.length, nth, by simp⟩
  others part part' kind other has := by
    obtain ⟨index, nth', found⟩ := has
    rcases getElem?_append_cons part' found with ⟨rfl, rfl⟩ | found
    · exact .inl ⟨Option.some.inj (nth'.getElem?.symm.trans nth.getElem?), rfl⟩
    · exact .inr ⟨index, nth', found⟩

theorem component {wanted counted : String} {components : Items (Schema g.Carrier) τ} {make : τ → α}
    {before : List Json} (nth : components.Nth inner before.length) (after : List Json) :
    Gap g (.shape (.tuple wanted counted components make)) inner fun part =>
      .array (before ++ part :: after) where
  here _ _ := id
  filled _ := ⟨before.length, nth, by simp⟩
  others part part' kind other has := by
    obtain ⟨index, nth', found⟩ := has
    rcases getElem?_append_cons part' found with ⟨rfl, rfl⟩ | found
    · exact .inl ⟨Option.some.inj (nth'.getElem?.symm.trans nth.getElem?), rfl⟩
    · exact .inr ⟨index, nth', found⟩

theorem valuesOf_type {part : Json} (before after : List (String × Json)) :
    valuesOf (before ++ ("value", part) :: after) "type" = valuesOf (before ++ after) "type" := by
  simp [valuesOf]

theorem payload {n : Nat} {name tag : String} {arms : Arms (Schema g.Carrier) n α} {make : β → α}
    {before after : List (String × Json)} (tagged : valuesOf (before ++ after) "type" = [.text tag])
    (offered : arms.offers.lookup tag = some (.payload inner make)) :
    Gap g (.shape (.union name arms)) inner fun part =>
      .object (before ++ ("value", part) :: after) where
  here part part' known := by
    intro other member
    rcases mem_append_cons ("value", part) member with rfl | member
    · exact .inr rfl
    · exact known other member
  filled part := ⟨tag, make, (valuesOf_type before after).trans tagged, offered, by simp⟩
  others part part' kind other has := by
    obtain ⟨β', inner'⟩ := kind
    obtain ⟨tag', make', tagged', offered', member⟩ := has
    rw [valuesOf_type] at tagged'
    rcases mem_append_cons ("value", part') member with same | member
    · cases same
      rw [tagged] at tagged'
      cases tagged'
      cases offered.symm.trans offered'
      exact .inl ⟨rfl, rfl⟩
    · exact .inr ⟨tag', make', (valuesOf_type before after).trans tagged', offered', member⟩

theorem payloadItem {n : Nat} {name tag : String} {arms : Arms (Schema g.Carrier) n α}
    {make : β → α} (extra : List Json)
    (offered : arms.offers.lookup tag = some (.payload inner make)) :
    Gap g (.shape (.union name arms)) inner fun part => .array (.text tag :: part :: extra) where
  here _ _ := id
  filled _ := ⟨tag, make, extra, offered, rfl⟩
  others part part' kind other has := by
    obtain ⟨β', inner'⟩ := kind
    obtain ⟨tag', make', extra', offered', same⟩ := has
    cases same
    cases offered.symm.trans offered'
    exact .inl ⟨rfl, rfl⟩

end Gap

/-! ## Plain values stay plain -/

/-- The members of an object and the items of the array of all of them are the same parts. -/
theorem Fields.member_iff_element {fields : Fields S σ τ} {members : List (String × Json)}
    (distinct : fields.keys.Nodup) (all : members.map (·.1) = fields.keys) {schema : S β}
    {part : Json} :
    (∃ key presence, fields.Under key presence schema ∧ (key, part) ∈ members) ↔
      ∃ index, fields.Nth schema index ∧ (members.map (·.2))[index]? = some part := by
  constructor
  · rintro ⟨key, presence, under, member⟩
    obtain ⟨index, nth, atKey⟩ := under.nth
    obtain ⟨index', found⟩ := List.getElem?_of_mem member
    have atKey' : fields.keys[index']? = some key := by
      rw [← all, List.getElem?_map, found]
      rfl
    have bound : index' < fields.keys.length := (List.getElem?_eq_some_iff.mp atKey').1
    have same : index' = index := (List.getElem?_inj bound distinct).mp (atKey'.trans atKey.symm)
    refine ⟨index, nth, ?_⟩
    rw [← same, List.getElem?_map, found]
    rfl
  · rintro ⟨index, nth, found⟩
    obtain ⟨key, presence, under, atKey⟩ := nth.under distinct
    rw [List.getElem?_map, Option.map_eq_some_iff] at found
    obtain ⟨⟨key', _⟩, found, rfl⟩ := found
    rw [← all, List.getElem?_map, found] at atKey
    cases atKey
    exact ⟨_, presence, under, List.mem_of_getElem? found⟩

theorem Plain.congr {schema : Schema g.Carrier α} {json json' : Json}
    (here : schema.PlainHere json ↔ schema.PlainHere json')
    (has : ∀ kind part, schema.HasPart g.shape json kind part ↔
      schema.HasPart g.shape json' kind part) :
    Plain g schema json ↔ Plain g schema json' :=
  ⟨fun plain => .intro (here.mp plain.here) fun kind part found =>
      plain.part ((has kind part).mpr found),
    fun plain => .intro (here.mpr plain.here) fun kind part found =>
      plain.part ((has kind part).mp found)⟩

/-- Changing how a value is spelled at the top neither adds nor takes away what is not plain. -/
theorem Change.plain_iff {schema : Schema g.Carrier α} {json json' : Json}
    (change : Change g schema json json') : Plain g schema json ↔ Plain g schema json' := by
  cases change with
  | members order =>
    refine Plain.congr ?_ ?_
    · simp only [Schema.PlainHere, order.mem_iff]
    · intro kind part
      simp only [Schema.HasPart, order.mem_iff]
  | elements distinct all =>
    refine Plain.congr ?_ ?_
    · refine iff_of_true ?_ trivial
      intro member found
      rw [← all]
      exact List.mem_map_of_mem found
    · intro kind part
      exact Fields.member_iff_element distinct all
  | null optional absent =>
    constructor
    · intro plain
      refine .intro ?_ ?_
      · rintro member (_ | ⟨_, found⟩)
        · exact Fields.mem_keys_of_under optional
        · exact plain.here member found
      · rintro kind part ⟨key, presence, under, _ | ⟨_, found⟩⟩
        · exact .null kind.2
        · exact plain.part ⟨key, presence, under, found⟩
    · intro plain
      refine .intro ?_ ?_
      · exact fun member found => plain.here member (List.mem_cons_of_mem _ found)
      · rintro kind part ⟨key, presence, under, found⟩
        exact plain.part ⟨key, presence, under, List.mem_cons_of_mem _ found⟩
  | unionMembers order =>
    refine Plain.congr ?_ ?_
    · simp only [Schema.PlainHere, order.mem_iff]
    · intro kind part
      simp only [Schema.HasPart, order.mem_iff, valuesOf_eq_singleton_iff_of_perm order]
  | unionElements =>
    refine Plain.congr ?_ ?_
    · simp [Schema.PlainHere]
    · intro kind part
      simp only [Schema.HasPart]
      constructor
      · rintro ⟨tag, make, tagged, offered, found⟩
        cases tagged
        obtain rfl : part = _ := by simpa using found
        exact ⟨tag, make, [], offered, rfl⟩
      · rintro ⟨tag, make, extra, offered, same⟩
        cases same
        exact ⟨tag, make, rfl, offered, by simp⟩
  | unionNull tagged offered absent =>
    have tagged' : valuesOf (([] : List (String × Json)) ++ ("value", .null) :: _) "type" = _ :=
      (Gap.valuesOf_type [] _).trans tagged
    refine Plain.congr ?_ ?_
    · simp [Schema.PlainHere]
    · -- an alternative without payload has no parts
      intro kind part
      refine iff_of_false ?_ ?_
      · rintro ⟨tag, make, own, other, -⟩
        cases tagged.symm.trans own
        cases offered.symm.trans other
      · rintro ⟨tag, make, own, other, -⟩
        cases tagged'.symm.trans own
        cases offered.symm.trans other

theorem Respelled.plain_iff {schema : Schema g.Carrier α} {json json' : Json}
    (respelled : Respelled g schema json json') : Plain g schema json ↔ Plain g schema json' := by
  induction respelled with
  | here change => exact change.plain_iff
  | node _ ih => exact (Gap.node _).plain_iff ih
  | optional _ ih => exact Gap.optional.plain_iff ih
  | item before after _ ih => exact (Gap.item before after).plain_iff ih
  | entry before key after _ ih => exact (Gap.entry before key after).plain_iff ih
  | member under before after _ ih => exact (Gap.member under before after).plain_iff ih
  | element before after nth _ ih => exact (Gap.element nth after).plain_iff ih
  | component before after nth _ ih => exact (Gap.component nth after).plain_iff ih
  | payload before after tagged offered _ ih => exact (Gap.payload tagged offered).plain_iff ih
  | payloadItem extra offered _ ih => exact (Gap.payloadItem extra offered).plain_iff ih

end WireTree
