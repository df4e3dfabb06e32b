import WireTree.Proofs.Conformance.Room
import WireTree.Proofs.Places.Acceptance
import WireTree.Proofs.Places.Members
import WireTree.Proofs.Records.Wire
import WireTree.Proofs.RoundTrip

/-!
# Why an object is refused as a record

A member may be missing, come again, or have a value that is refused by itself. The last two are met
in the order of the text, so the first of them counts; only when the object has ended is it looked
for members that are missing, in the order of the record.
Main statement: `Wire.Format.object_refused`.
-/

namespace WireTree

open Json (Outline outlineMembers)

variable {S : Type → Type 1} {ι α β σ τ : Type} {inside : Inside S} {feed : Feed}

/-! ## The members of one object -/

namespace Fields

/-- The keys of the fields that an object has to give, in order. -/
def requiredKeys {σ τ : Type} : Fields S σ τ → List String
  | nil => []
  | cons key .required _ rest => key :: rest.requiredKeys
  | cons _ (.absentAs _) _ rest => rest.requiredKeys
  | cons _ (.defaultsTo _) _ rest => rest.requiredKeys

/-- Nothing is wrong with the members of an object so far: none under a key of the record comes
again, and each of those has a value that its field takes. -/
structure InOrder (Takes : {α : Type} → S α → Json → Prop) (fields : Fields S σ τ)
    (members : List (String × Json)) : Prop where
  once : ∀ key ∈ fields.keys, (valuesOf members key).length ≤ 1
  taken : ∀ {β : Type} {key : String} {presence : Presence β} {schema : S β} {json : Json},
    fields.Under key presence schema → (key, json) ∈ members → Takes schema json

variable {fields : Fields S σ τ} {key : String} {members : List (String × Json)} {slots : σ}
  {Takes Takes' : {α : Type} → S α → Json → Prop}

theorem exists_under (known : key ∈ fields.keys) :
    ∃ (β : Type) (presence : Presence β) (schema : S β), fields.Under key presence schema := by
  induction fields with
  | nil => cases known
  | cons name presence schema rest ih =>
    by_cases same : name = key
    · subst same
      exact ⟨_, presence, schema, .head⟩
    · obtain ⟨β, presence, schema, under⟩ := ih (List.mem_of_ne_of_mem (Ne.symm same) known)
      exact ⟨β, presence, schema, .tail same under⟩

namespace InOrder

theorem imp
    (weaker : ∀ {α : Type} {schema : S α} {json : Json}, Takes schema json → Takes' schema json)
    (ordered : fields.InOrder Takes members) : fields.InOrder Takes' members :=
  ⟨ordered.once, fun under member => weaker (ordered.taken under member)⟩

theorem nil : fields.InOrder Takes [] :=
  ⟨fun _ _ => Nat.zero_le 1, nofun⟩

/-- A member under an unknown key is as good as none. -/
theorem unknown {json : Json} (ordered : fields.InOrder Takes members)
    (unknown : key ∉ fields.keys) : fields.InOrder Takes ((key, json) :: members) := by
  refine ⟨?_, ?_⟩
  · intro other known
    have different : key ≠ other := fun same => unknown (same ▸ known)
    rw [valuesOf_cons_of_ne different]
    exact ordered.once other known
  · intro β other presence schema value under found
    rcases List.mem_cons.mp found with same | found
    · cases same
      exact absurd (mem_keys_of_under under) unknown
    · exact ordered.taken under found

/-- A member that has not been there is fine if its field takes the value. -/
theorem known {presence : Presence β} {schema : S β} {json : Json}
    (ordered : fields.InOrder Takes members) (under : fields.Under key presence schema)
    (fresh : key ∉ members.map (·.1)) (takes : Takes schema json) :
    fields.InOrder Takes ((key, json) :: members) := by
  refine ⟨?_, ?_⟩
  · intro other known
    by_cases same : key = other
    · have none : valuesOf members key = [] := by
        rw [List.eq_nil_iff_forall_not_mem]
        intro value found
        exact fresh (List.mem_map_of_mem (mem_valuesOf.mp found))
      rw [← same, valuesOf_cons_self, none]
      exact Nat.le_refl 1
    · rw [valuesOf_cons_of_ne same]
      exact ordered.once other known
  · intro γ other presence' schema' value under' found
    rcases List.mem_cons.mp found with same | found
    · cases same
      have one := under'.lookup.symm.trans under.lookup
      cases one
      exact takes
    · exact ordered.taken under' found

theorem tail {member : String × Json} (ordered : fields.InOrder Takes (member :: members)) :
    fields.InOrder Takes members := by
  refine ⟨?_, fun under found => ordered.taken under (List.mem_cons_of_mem _ found)⟩
  intro key known
  have fewer : (valuesOf members key).Sublist (valuesOf (member :: members) key) :=
    ((List.sublist_cons_self member members).filter _).map _
  exact Nat.le_trans fewer.length_le (ordered.once key known)

theorem not_mem {json : Json} (ordered : fields.InOrder Takes ((key, json) :: members))
    (known : key ∈ fields.keys) : key ∉ members.map (·.1) := by
  intro again
  obtain ⟨⟨name, other⟩, found, same⟩ := List.mem_map.mp again
  have once := ordered.once key known
  have another := List.length_pos_of_mem (mem_valuesOf.mpr (same ▸ found : (key, other) ∈ members))
  rw [valuesOf_cons_self, List.length_cons] at once
  omega

end InOrder

/-- Members with which nothing is wrong are taken, and it is known then which have been found. -/
theorem readMembers_of_inOrder
    (ordered : fields.InOrder (fun schema json => Accepted (inside.read feed schema json.outline))
      members)
    (fresh : ∀ member ∈ members, ¬ fields.Holds member.1 slots) :
    ∃ slots', fields.readMembers inside feed slots (outlineMembers members) = .ok slots' ∧
      ∀ key ∈ fields.keys,
        fields.Holds key slots' ↔ key ∈ members.map (·.1) ∨ fields.Holds key slots := by
  induction members generalizing slots with
  | nil => exact ⟨slots, rfl, fun key _ => by simp⟩
  | cons member members ih =>
    obtain ⟨name, json⟩ := member
    rw [outlineMembers, readMembers]
    by_cases known : name ∈ fields.keys
    · obtain ⟨β, presence, schema, under⟩ := exists_under known
      obtain ⟨a, read⟩ := ordered.taken under List.mem_cons_self
      obtain ⟨keep, kept, holds⟩ :=
        readMember_of_not_holds inside feed under (fresh _ List.mem_cons_self)
      have fresh' : ∀ member ∈ members, ¬ fields.Holds member.1 (keep a) := by
        intro member found
        rw [holds, not_or]
        refine ⟨?_, fresh member (List.mem_cons_of_mem _ found)⟩
        rintro rfl
        exact ordered.not_mem known (List.mem_map_of_mem found)
      obtain ⟨slots', taken, found⟩ := ih ordered.tail fresh'
      rw [kept, read]
      refine ⟨slots', taken, ?_⟩
      intro key other
      rw [found key other, holds, List.map_cons, List.mem_cons, or_left_comm, or_assoc]
    · rw [readMember_of_not_mem_keys known]
      show ∃ slots', (if json.outline.intact then _ else _) = _ ∧ _
      rw [if_pos json.intact_outline]
      obtain ⟨slots', taken, found⟩ :=
        ih ordered.tail fun member found => fresh member (List.mem_cons_of_mem _ found)
      refine ⟨slots', taken, ?_⟩
      intro key other
      have different : key ≠ name := fun same => known (same ▸ other)
      rw [found key other, List.map_cons, List.mem_cons, or_iff_right different]

/-- The first of the required members that have not been found is missed. -/
theorem complete_of_missing (distinct : fields.keys.Nodup) {given : List String}
    (found : ∀ key ∈ fields.keys, fields.Holds key slots ↔ key ∈ given)
    (missing : fields.requiredKeys.find? (· ∉ given) = some key) :
    fields.complete slots = refuse (.missingField key) := by
  induction fields with
  | nil => cases missing
  | cons name presence schema rest ih =>
    obtain ⟨slot, slots⟩ := slots
    obtain ⟨fresh, distinct⟩ := List.nodup_cons.mp distinct
    have first := found name List.mem_cons_self
    rw [holds_cons_self] at first
    have others : ∀ key ∈ rest.keys, rest.Holds key slots ↔ key ∈ given := by
      intro key other
      have different : name ≠ key := by
        rintro rfl
        exact fresh other
      rw [← found key (List.mem_cons_of_mem _ other), holds_cons_of_ne different]
    -- a field is passed over if its member has been found, or if it need not be
    have passed {b} (resolved : resolve name presence slot = .ok b)
        (missing : rest.requiredKeys.find? (· ∉ given) = some key) :
        (cons name presence schema rest).complete (slot, slots) = refuse (.missingField key) := by
      rw [complete, resolved, ih distinct others missing]
      rfl
    cases slot with
    | some b =>
      refine passed rfl ?_
      cases presence with
      | required =>
        rwa [requiredKeys, List.find?_cons_of_neg (by simpa using first)] at missing
      | absentAs | defaultsTo => exact missing
    | none =>
      cases presence with
      | required =>
        rw [requiredKeys, List.find?_cons_of_pos (by simpa using first)] at missing
        cases missing
        rfl
      | absentAs | defaultsTo => exact passed rfl missing

section Objects

variable (ordered : fields.InOrder
  (fun schema json => Accepted (inside.read feed schema json.outline)) members)

include ordered

theorem readMembers_blank_of_inOrder :
    ∃ slots, fields.readMembers inside feed fields.blank (outlineMembers members) = .ok slots ∧
      ∀ key ∈ fields.keys, fields.Holds key slots ↔ key ∈ members.map (·.1) := by
  obtain ⟨slots, taken, found⟩ :=
    readMembers_of_inOrder ordered fun member _ => fields.not_holds_blank member.1
  refine ⟨slots, taken, ?_⟩
  intro key known
  rw [found key known, or_iff_left (fields.not_holds_blank key)]

theorem readObject_of_missing (distinct : fields.keys.Nodup)
    (missing : fields.requiredKeys.find? (· ∉ members.map (·.1)) = some key) :
    fields.readObject inside feed (outlineMembers members) true = refuse (.missingField key) := by
  obtain ⟨slots, taken, found⟩ := readMembers_blank_of_inOrder ordered
  rw [readObject, taken]
  exact complete_of_missing distinct found missing

theorem readObject_of_again (known : key ∈ fields.keys) (again : key ∈ members.map (·.1))
    (value : Outline) (after : List Outline.Member) (closed : Bool) :
    fields.readObject inside feed (outlineMembers members ++ (some key, value) :: after) closed =
      refuse (.duplicateField key) := by
  obtain ⟨slots, taken, found⟩ := readMembers_blank_of_inOrder ordered
  obtain ⟨β, presence, schema, under⟩ := exists_under known
  have refused := readMember_of_holds inside feed under ((found key known).mpr again) value
  rw [readObject, readMembers_append, taken, bind_assoc]
  show (fields.readMembers inside feed slots ((some key, value) :: after) >>= _) = _
  rw [readMembers, refused]
  rfl

theorem readObject_of_refused {presence : Presence β} {schema : S β}
    (under : fields.Under key presence schema) (first : key ∉ members.map (·.1)) {value : Outline}
    {error : ReadError} (refused : inside.read feed schema value = .error error)
    (after : List Outline.Member) (closed : Bool) :
    fields.readObject inside feed (outlineMembers members ++ (some key, value) :: after) closed =
      .error error := by
  obtain ⟨slots, taken, found⟩ := readMembers_blank_of_inOrder ordered
  have fresh : ¬ fields.Holds key slots := by rwa [found key (mem_keys_of_under under)]
  obtain ⟨keep, kept, -⟩ := readMember_of_not_holds inside feed under fresh
  rw [readObject, readMembers_append, taken, bind_assoc]
  show (fields.readMembers inside feed slots ((some key, value) :: after) >>= _) = _
  rw [readMembers, kept, refused]
  rfl

end Objects

/-- No value is ever chosen from several under one key. -/
theorem length_valuesOf_le_one {members : List Outline.Member} {closed : Bool} {values : τ}
    (read : fields.readObject inside feed members closed = .ok values)
    (known : key ∈ fields.keys) : (valuesOf members (some key)).length ≤ 1 := by
  induction fields generalizing members with
  | nil => cases known
  | cons name presence schema rest ih =>
    obtain ⟨a, values⟩ := values
    obtain ⟨first, others⟩ := readObject_cons_eq_ok_iff.mp read
    by_cases same : name = key
    · subst same
      rcases first with ⟨none, -⟩ | ⟨value, one, -⟩
      · simp [none]
      · simp [one]
    · have different : some key ≠ some name := fun equal => same (Option.some.inj equal).symm
      have fewer := ih others (List.mem_of_ne_of_mem (Ne.symm same) known)
      rwa [valuesOf_besides different] at fewer

end Fields

/-! ## Documents -/

namespace Grammar

variable {g : Grammar ι} {schema : Schema g.Carrier α} {json : Json}

/-- A JSON value is accepted by itself, and there is room for one more container around it. -/
def AcceptsInside (g : Grammar ι) {α : Type} (schema : Schema g.Carrier α) (json : Json) : Prop :=
  json.nesting < maxDepth ∧ Accepted (g.readDocument schema json.document)

/-- A value is read inside a container as it is by itself. -/
theorem read_inside (nested : json.nesting < maxDepth) :
    (g.inside (maxDepth - 1)).read .text schema json.outline =
      g.readDocument schema json.document := by
  rw [readDocument_document]
  exact read_eq_of_nesting_le (Nat.le_sub_one_of_lt nested) (Nat.le_of_lt nested)

theorem accepted_inside (accepts : g.AcceptsInside schema json) :
    Accepted ((g.inside (maxDepth - 1)).read .text schema json.outline) := by
  rw [read_inside accepts.1]
  exact accepts.2

variable {fields : Fields (Schema g.Carrier) σ τ} {members : List Outline.Member} {closed : Bool}

theorem readDocument_object_of_error {error : ReadError}
    (failed : fields.readObject (g.inside (maxDepth - 1)) .text members closed = .error error)
    (name : String) (make : τ → α) (trailing : Bool) :
    g.readDocument (.shape (.record name fields make)) ⟨.object members closed, trailing⟩ =
      .error error := by
  show (make <$> fields.readObject (g.inside (maxDepth - 1)) .text members closed >>= _) = _
  rw [failed]
  rfl

theorem accepted_readObject {name : String} {make : τ → α} {trailing : Bool}
    (accepted : Accepted
      (g.readDocument (.shape (.record name fields make)) ⟨.object members closed, trailing⟩)) :
    Accepted (fields.readObject (g.inside (maxDepth - 1)) .text members closed) := by
  obtain ⟨a, read, -⟩ := accepted_bind_iff.mp accepted
  exact accepted_map_iff.mp ⟨a, read⟩

end Grammar

namespace Wire.Format

open Grammar (maxDepth)

/-- An object whose members are in order so far is refused, in whichever order they come and
whatever unknown members there are, for what comes next. If it ends there, the first member in the
order of the record that is required and missing is reported. If a member comes again, that is
reported, whatever its value is, whatever follows and whatever is missing. If the value of a member
is refused by itself, the object is refused for the same reason. And no value is ever chosen from
several under one key. -/
theorem object_refused {name : String} {fields : Fields (Schema Node.Carrier) σ τ} {make : τ → α}
    (wired : Wired (.shape (.record name fields make))) {before : List (String × Json)}
    (ordered : fields.InOrder grammar.AcceptsInside before) :
    let read (members : List Outline.Member) (closed trailing : Bool) : Reading α :=
      grammar.readDocument (.shape (.record name fields make)) ⟨.object members closed, trailing⟩
    (∀ key trailing, fields.requiredKeys.find? (· ∉ before.map (·.1)) = some key →
      read (outlineMembers before) true trailing = refuse (.missingField key)) ∧
    (∀ key value after closed trailing, key ∈ fields.keys → key ∈ before.map (·.1) →
      read (outlineMembers before ++ (some key, value) :: after) closed trailing =
        refuse (.duplicateField key)) ∧
    (∀ {β : Type} {presence : Presence β} {part : Form β} (key : String) (value : Json) after closed
        trailing error, fields.Under key presence part → key ∉ before.map (·.1) →
      value.nesting < maxDepth → grammar.readDocument part value.document = .error error →
      read (outlineMembers before ++ (some key, value.outline) :: after) closed trailing =
        .error error) ∧
    ∀ members closed trailing key, key ∈ fields.keys → 1 < (valuesOf members (some key)).length →
      ¬ Accepted (read members closed trailing) := by
  intro read
  obtain ⟨distinct, -⟩ := wired.regular.here
  have inside := ordered.imp Grammar.accepted_inside
  refine ⟨?missing, ?again, ?refused, ?repeated⟩
  case missing =>
    intro key trailing missing
    refine Grammar.readDocument_object_of_error ?_ name make trailing
    exact Fields.readObject_of_missing inside distinct missing
  case again =>
    intro key value after closed trailing known again
    refine Grammar.readDocument_object_of_error ?_ name make trailing
    exact Fields.readObject_of_again inside known again value after closed
  case refused =>
    intro β presence part key value after closed trailing error under first nested refused
    refine Grammar.readDocument_object_of_error ?_ name make trailing
    have own := (Grammar.read_inside nested).trans refused
    exact Fields.readObject_of_refused inside under first own after closed
  case repeated =>
    intro members closed trailing key known several accepted
    obtain ⟨values, taken⟩ := Grammar.accepted_readObject accepted
    have one := Fields.length_valuesOf_le_one taken known
    omega

/-- A range with its end first and something unknown after it: its start is missing, its end comes
again, or the start that comes next lacks its column, which is reported although the end comes again
after it. -/
theorem object_refused_range :
    let position : Json := .object [("line", .ofInt 1), ("column", .ofInt 2)]
    let short : Json := .object [("line", .ofInt 1)]
    let before : List (String × Json) := [("end", position), ("unit", .null)]
    let again : Outline.Member := (some "end", .broken)
    let fields : Fields (Schema Node.Carrier) _ _ :=
      WireTree.Format.required "start" WireTree.Format.position <|
        WireTree.Format.required "end" WireTree.Format.position .nil
    let read (members : List Outline.Member) (closed : Bool) : Reading Range :=
      grammar.readDocument WireTree.Format.range ⟨.object members closed, false⟩
    (fields.InOrder grammar.AcceptsInside before ∧ short.nesting < maxDepth ∧
      grammar.readDocument WireTree.Format.position short.document =
        refuse (.missingField "column")) ∧
    read (outlineMembers before) true = refuse (.missingField "start") ∧
    read (outlineMembers before ++ [again]) false = refuse (.duplicateField "end") ∧
    read (outlineMembers before ++ [(some "start", short.outline), again]) false =
      refuse (.missingField "column") ∧
    ¬ Accepted (read (outlineMembers (before ++ before)) true) := by
  intro position short before again fields read
  have accepts : grammar.AcceptsInside WireTree.Format.position position :=
    ⟨by decide, ⟨1, 2⟩, rfl⟩
  have ordered : fields.InOrder grammar.AcceptsInside before :=
    .known (.unknown .nil (by decide)) (.tail (by decide) .head) (by decide) accepts
  have shallow : short.nesting < maxDepth := by decide
  have lacking : grammar.readDocument WireTree.Format.position short.document =
    refuse (.missingField "column") := rfl
  obtain ⟨missing, duplicate, refused, repeated⟩ := object_refused .range ordered
  refine ⟨⟨ordered, shallow, lacking⟩, missing "start" false (by decide), ?_, ?_, ?_⟩
  · exact duplicate "end" _ [] false false (by decide) (by decide)
  · exact refused "start" short [again] false false _ .head (by decide) shallow lacking
  · exact repeated _ true false "end" (by decide) (by decide)

end Wire.Format

end WireTree
