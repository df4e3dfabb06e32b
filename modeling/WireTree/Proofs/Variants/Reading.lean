import WireTree.Format.Tree
import WireTree.Proofs.Records.Absence
import WireTree.Proofs.Records.Notation
import WireTree.Proofs.RoundTrip
import WireTree.Proofs.Variants.Held

/-!
# Variants of a plain JSON value are read alike

Either all of them are read, and as the same value, or none is.
Main statement: `TreeFormat.variants_read_alike`, for every type of nodes of a tree.
-/

namespace WireTree

open Json (Outline outlineItems outlineMembers)

variable {S : Type → Type 1} {ι α β σ τ : Type} {g : Grammar ι}

/-! ## Records -/

namespace Json

/-- The members of an object that has all of the keys give their values to the fields. -/
theorem outlineMembers_eq_named {fields : Fields S σ τ} {members : List (String × Json)}
    (all : members.map (·.1) = fields.keys) :
    outlineMembers members = fields.named (outlineItems (members.map (·.2))) := by
  rw [outlineMembers_eq_map, outlineItems_eq_map, Fields.named, ← all]
  simp only [List.map_map, List.zip_map']
  rfl

theorem ne_of_mem_outlineMembers {members : List (String × Json)} {key : String}
    (none : valuesOf members key = []) :
    ∀ member ∈ outlineMembers members, member.1 ≠ some key := by
  rw [outlineMembers_eq_map, List.forall_mem_map]
  rintro ⟨name, value⟩ member same
  cases same
  have found : value ∈ valuesOf members name := mem_valuesOf.mpr member
  rw [none] at found
  cases found

end Json

/-! ## Changes at the top -/

/-- Two containers are read alike by a shape if they conform to it as the same values. -/
theorem Alike.of_shape {shape : Shape (Schema g.Carrier) α} {json json' : Json}
    (proper : json ≠ .null) (proper' : json' ≠ .null)
    (same : ∀ depth feed a, shape.Conforms (some (g.parts depth)) feed json a ↔
      shape.Conforms (some (g.parts depth)) feed json' a) :
    Alike SameValues g (.shape shape) json.outline json'.outline := by
  refine ⟨?_, ?_⟩
  · rw [Json.outline_eq_null_iff, Json.outline_eq_null_iff]
    exact iff_of_false proper proper'
  · intro depth feed a
    rw [Grammar.read_eq_ok_iff, Grammar.read_eq_ok_iff]
    cases depth with
    | zero => exact iff_of_false Plain.not_conforms_none Plain.not_conforms_none
    | succ depth => exact same depth feed a

theorem Alike.symm {schema : Schema g.Carrier α} {o o' : Outline}
    (alike : Alike (fun first second => first = second) g schema o o') :
    Alike (fun first second => first = second) g schema o' o :=
  ⟨alike.null.symm, fun depth feed => (alike.read depth feed).symm⟩

/-- What is read the same is read as the same values. -/
theorem Alike.sameValues {schema : Schema g.Carrier α} {o o' : Outline}
    (alike : Alike (fun first second => first = second) g schema o o') :
    Alike SameValues g schema o o' := by
  refine ⟨alike.null, ?_⟩
  intro depth feed a
  rw [alike.read depth feed]

theorem Alike.conform_iff {schema : Schema g.Carrier α} {json json' : Json}
    (alike : Alike SameValues g schema json.outline json'.outline) (depth : Nat) (feed : Feed)
    (a : α) :
    (g.parts depth).Conform feed schema json a ↔ (g.parts depth).Conform feed schema json' a := by
  have read := alike.read depth feed a
  rwa [Grammar.read_eq_ok_iff, Grammar.read_eq_ok_iff] at read

theorem Json.object_ne_null {members : List (String × Json)} : Json.object members ≠ .null := by
  rintro ⟨⟩

theorem Json.array_ne_null {items : List Json} : Json.array items ≠ .null := by
  rintro ⟨⟩

namespace Change

theorem alike {schema : Schema g.Carrier α} {json json' : Json}
    (change : Change g schema json json') (plain : Plain g schema json) :
    Alike SameValues g schema json.outline json'.outline := by
  have plain' : Plain g schema json' := change.plain_iff.mp plain
  cases change with
  | @members _ _ _ _ _ members members' order =>
    have order' : (outlineMembers members).Perm (outlineMembers members') := by
      rw [Json.outlineMembers_eq_map, Json.outlineMembers_eq_map]
      exact order.map _
    exact (Reordered.intro .here order').alike
  | elements distinct all =>
    rw [Json.outline, Json.outline, Json.outlineMembers_eq_named all]
    refine (notations_alike distinct ?_).symm.sameValues
    rw [← all, Json.outlineItems_eq_map, List.length_map, List.length_map, List.length_map]
  | null optional absent =>
    rw [Json.outline, Json.outline, Json.outlineMembers]
    have alone : ∀ member ∈ [] ++ outlineMembers _, member.1 ≠ some _ :=
      Json.ne_of_mem_outlineMembers absent
    exact (alike_of_absent optional rfl (read_optional_null _) alone true).symm.sameValues
  | unionMembers order =>
    refine .of_shape Json.object_ne_null Json.object_ne_null fun depth feed a => ?_
    simp only [Shape.Conforms, Option.mem_some_iff, exists_eq_left', plain.conformObject_iff,
      plain'.conformObject_iff, valuesOf_eq_nil_iff_of_perm order,
      valuesOf_eq_singleton_iff_of_perm order]
  | @unionElements _ _ arms tag value =>
    refine .of_shape Json.object_ne_null Json.array_ne_null fun depth feed a => ?_
    simp only [Shape.Conforms, Option.mem_some_iff, exists_eq_left', plain.conformObject_iff,
      plain'.conformArray_iff]
    simp [valuesOf]
  | unionNull tagged offered absent =>
    refine .of_shape Json.object_ne_null Json.object_ne_null fun depth feed a => ?_
    simp only [Shape.Conforms, Option.mem_some_iff, exists_eq_left', plain.conformObject_iff,
      plain'.conformObject_iff, valuesOf_cons_self,
      valuesOf_cons_of_ne (show "value" ≠ "type" by decide), tagged, absent]
    simp [offered, Offer.Absent, Offer.Present]

end Change

/-! ## Changes at any depth -/

namespace Json

theorem outline_array_append_cons (before after : List Json) (part : Json) :
    (Json.array (before ++ part :: after)).outline =
      .array (before.map outline ++ part.outline :: after.map outline) true := by
  rw [outline, outlineItems_eq_map, List.map_append, List.map_cons]

theorem outline_object_append_cons (before : List (String × Json)) (key : String)
    (after : List (String × Json)) (part : Json) :
    (Json.object (before ++ (key, part) :: after)).outline =
      .object (outlineMembers before ++ (some key, part.outline) :: outlineMembers after) true := by
  rw [outline]
  simp only [outlineMembers_eq_map, List.map_append, List.map_cons]

end Json

section Union

variable {n : Nat} {name tag : String} {arms : Arms (Schema g.Carrier) n α}
  {schema : Schema g.Carrier β} {make : β → α} {part part' : Json}

/-- What a plain object conforms to a union as, in terms of its payload. -/
theorem Plain.conformObject_payload_iff {before after : List (String × Json)} {depth : Nat}
    {feed : Feed} {a : α}
    (plain : Plain g (.shape (.union name arms)) (.object (before ++ ("value", part) :: after)))
    (tagged : valuesOf (before ++ after) "type" = [.text tag])
    (offered : arms.offers.lookup tag = some (.payload schema make)) :
    arms.ConformObject (g.parts depth) feed (before ++ ("value", part) :: after) a ↔
      valuesOf (before ++ after) "value" = [] ∧
        ∃ b, (g.parts depth).Conform .text schema part b ∧ make b = a := by
  have values : valuesOf (before ++ ("value", part) :: after) "value" =
      valuesOf before "value" ++ part :: valuesOf after "value" := by
    rw [valuesOf_append_cons, if_pos rfl]
  have others : valuesOf (before ++ after) "value" =
      valuesOf before "value" ++ valuesOf after "value" := by
    simp [valuesOf]
  rw [plain.conformObject_iff, Gap.valuesOf_type, tagged, values, others]
  simp [offered, Offer.Present, List.append_eq_cons_iff]

/-- What a plain array conforms to a union as, in terms of its payload. -/
theorem Plain.conformArray_payload_iff {extra : List Json} {depth : Nat} {feed : Feed} {a : α}
    (plain : Plain g (.shape (.union name arms)) (.array (.text tag :: part :: extra)))
    (offered : arms.offers.lookup tag = some (.payload schema make)) :
    arms.ConformArray (g.parts depth) feed (.text tag :: part :: extra) a ↔
      extra = [] ∧ ∃ b, (g.parts depth).Conform .text schema part b ∧ make b = a := by
  rw [plain.conformArray_iff]
  simp [offered, Offer.Present]

end Union

/-- A part that is read alike in its place is read alike in a plain value around it. -/
theorem Gap.alike {schema : Schema g.Carrier α} {inner : Schema g.Carrier β} {fill : Json → Json}
    {outer : Outline → Outline} {part part' : Json} (gap : Gap g schema inner fill)
    (layer : Layer g schema inner outer)
    (spelled : ∀ part, (fill part).outline = outer part.outline)
    (alike : Plain g inner part → Alike SameValues g inner part.outline part'.outline)
    (plain : Plain g schema (fill part)) :
    Alike SameValues g schema (fill part).outline (fill part').outline := by
  rw [spelled, spelled]
  exact layer.alike congruence_sameValues (alike (plain.part (gap.filled part)))

/-- Respelling a plain value does not matter to a reader. -/
theorem Respelled.alike {schema : Schema g.Carrier α} {json json' : Json}
    (respelled : Respelled g schema json json') (plain : Plain g schema json) :
    Alike SameValues g schema json.outline json'.outline := by
  induction respelled with
  | here change => exact change.alike plain
  | node _ ih => exact (Gap.node _).alike (.node _) (fun _ => rfl) ih plain
  | optional _ ih => exact Gap.optional.alike .optional (fun _ => rfl) ih plain
  | item before after _ ih =>
    have spelled := Json.outline_array_append_cons before after
    exact (Gap.item before after).alike (.item _ _ true) spelled ih plain
  | entry before key after _ ih =>
    have spelled := Json.outline_object_append_cons before key after
    exact (Gap.entry before key after).alike (.entry _ key _ true) spelled ih plain
  | @member _ _ _ _ _ key _ _ _ _ _ _ under before after _ ih =>
    have spelled := Json.outline_object_append_cons before key after
    exact (Gap.member under before after).alike (.member under _ _ true) spelled ih plain
  | element before after nth _ ih =>
    have spelled := Json.outline_array_append_cons before after
    have nth' := (before.length_map Json.outline).symm ▸ nth
    exact (Gap.element nth after).alike (.element _ _ true nth') spelled ih plain
  | component before after nth _ ih =>
    have spelled := Json.outline_array_append_cons before after
    have nth' := (before.length_map Json.outline).symm ▸ nth
    exact (Gap.component nth after).alike (.component _ _ true nth') spelled ih plain
  | payload before after tagged offered inner ih =>
    have plain' := ((Gap.payload tagged offered).plain_iff inner.plain_iff).mp plain
    have alike := ih (plain.part ((Gap.payload tagged offered).filled _))
    refine .of_shape Json.object_ne_null Json.object_ne_null fun depth feed a => ?_
    simp only [Shape.Conforms, Option.mem_some_iff, exists_eq_left',
      plain.conformObject_payload_iff tagged offered,
      plain'.conformObject_payload_iff tagged offered, alike.conform_iff]
  | payloadItem extra offered inner ih =>
    have plain' := ((Gap.payloadItem extra offered).plain_iff inner.plain_iff).mp plain
    have alike := ih (plain.part ((Gap.payloadItem extra offered).filled _))
    refine .of_shape Json.array_ne_null Json.array_ne_null fun depth feed a => ?_
    simp only [Shape.Conforms, Option.mem_some_iff, exists_eq_left',
      plain.conformArray_payload_iff offered, plain'.conformArray_payload_iff offered,
      alike.conform_iff]

namespace TreeFormat

open Relation (EqvGen)

/-- Variants of a plain value, which come from each other by respelling it any number of times
anywhere inside, are read alike: if one of them is read the others are, and as the same value. -/
theorem variants_read_alike (form : Form α) {json json' : Json} (plain : Plain grammar form json)
    (variants : EqvGen (Respelled grammar form) json json') (a : α) :
    grammar.readDocument form json.document = .ok a ↔
      grammar.readDocument form json'.document = .ok a := by
  suffices both : (Plain grammar form json ↔ Plain grammar form json') ∧
      (Plain grammar form json →
        (grammar.readDocument form json.document = .ok a ↔
          grammar.readDocument form json'.document = .ok a)) from both.2 plain
  clear plain
  induction variants with
  | rel json json' respelled =>
    refine ⟨respelled.plain_iff, fun plain => ?_⟩
    exact (respelled.alike plain).readDocument congruence_sameValues false a
  | refl json => exact ⟨Iff.rfl, fun _ => Iff.rfl⟩
  | symm json json' _ ih =>
    exact ⟨ih.1.symm, fun plain => (ih.2 (ih.1.mpr plain)).symm⟩
  | trans json middle json' _ _ ih ih' =>
    exact ⟨ih.1.trans ih'.1, fun plain => (ih.2 plain).trans (ih'.2 (ih.1.mp plain))⟩

/-- The type of arrays of integers: the tag comes first and what is absent is left out, or the
payload comes first and is an array. -/
theorem variants_read_alike_array :
    let int : Json := .object [("type", .text "int")]
    let json : Json := .object [("type", .text "arrayType"), ("value", int)]
    let json' : Json :=
      .object [("value", .array [.text "int", .null]), ("type", .text "arrayType")]
    Plain grammar resolvedType json ∧ EqvGen (Respelled grammar resolvedType) json json' ∧
      grammar.readDocument resolvedType json'.document = .ok (.mk (.arrayType (.mk .int))) := by
  intro int json json'
  have node {members : List (String × Json)}
      (plain : Plain grammar (.shape (.union "TypeKind" typeArms)) (.object members)) :
      Plain grammar resolvedType (.object members) := by
    refine .intro trivial ?_
    rintro _ _ ⟨rfl, rfl⟩
    exact plain
  have plain : Plain grammar resolvedType json := by
    refine node (.intro (by simp [Schema.PlainHere]) ?_)
    rintro ⟨β, inner⟩ part ⟨tag, make, tagged, offered, found⟩
    cases tagged
    cases offered
    obtain rfl : part = int := by simpa using found
    refine node (.intro (by simp [Schema.PlainHere]) ?_)
    rintro ⟨β, inner⟩ part ⟨tag, make, tagged, offered, found⟩
    simp at found
  -- the payload is respelled three times, from inside out, and then changes places with the tag
  have null : Change grammar (.shape (.union "TypeKind" typeArms)) int
      (.object [("value", .null), ("type", .text "int")]) := .unionNull rfl rfl rfl
  have tagFirst : Change grammar (.shape (.union "TypeKind" typeArms))
      (.object [("value", .null), ("type", .text "int")])
      (.object [("type", .text "int"), ("value", .null)]) := .unionMembers (.swap _ _ [])
  have array : Change grammar (.shape (.union "TypeKind" typeArms))
      (.object [("type", .text "int"), ("value", .null)]) (.array [.text "int", .null]) :=
    .unionElements
  have payload {part part' : Json}
      (change : Change grammar (.shape (.union "TypeKind" typeArms)) part part') :
      EqvGen (Respelled grammar resolvedType)
        (.object [("type", .text "arrayType"), ("value", part)])
        (.object [("type", .text "arrayType"), ("value", part')]) :=
    .rel _ _ (.node (.payload [_] [] rfl rfl (.node (.here change))))
  have payloadFirst : Respelled grammar resolvedType
      (.object [("type", .text "arrayType"), ("value", .array [.text "int", .null])]) json' :=
    .node (.here (.unionMembers (.swap _ _ [])))
  have variants : EqvGen (Respelled grammar resolvedType) json json' :=
    .trans _ _ _ (payload null) <| .trans _ _ _ (payload tagFirst) <|
      .trans _ _ _ (payload array) (.rel _ _ payloadFirst)
  exact ⟨plain, variants, (variants_read_alike resolvedType plain variants _).mp rfl⟩

/-- A payload that gives the tag of another union by its number is read if it comes first, when it
is held back, but not if it comes last. -/
theorem numbered_tag_not_read_alike :
    let item : Json := .array [.number (.ofInt 1), .null]
    let members : List (String × Json) := [("type", .text "arrayType"), ("value", item)]
    let members' : List (String × Json) := [("value", item), ("type", .text "arrayType")]
    members.Perm members' ∧
      Respelled grammar resolvedType (.object members) (.object members') ∧
      (Json.object members).nesting ≤ Grammar.maxDepth ∧
      grammar.readDocument resolvedType (Json.object members).document =
        refuse (.invalidType (.integer 1) "variant identifier") ∧
      grammar.readDocument resolvedType (Json.object members').document =
        .ok (.mk (.arrayType (.mk .int))) := by
  intro item members members'
  have order : members.Perm members' := .swap _ _ []
  exact ⟨order, .node (.here (.unionMembers order)), by decide, rfl, rfl⟩

end TreeFormat

end WireTree
