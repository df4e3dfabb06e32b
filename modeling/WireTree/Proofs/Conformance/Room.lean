import WireTree.Proofs.Conformance.Nesting

/-!
# Reading and the limit on containers

Reading does not depend on how many containers may be opened, as long as there is room for those
that the JSON value has. Unlike what is said of conforming, this covers the values that are refused:
why one is refused is the same in every container around it.
Main statement: `Grammar.read_eq_of_nesting_le`.
-/

namespace WireTree

open Json (Outline nestingItems nestingMembers outlineItems outlineMembers)

variable {S : Type → Type 1} {α β σ τ : Type} {inner : Nat} {inside inside' : Inside S}
  {feed : Feed}

/-- Two readers of the parts of a container have room for so many containers inside each other, and
read alike the JSON values that have no more. -/
structure ReadAlike (inner : Nat) (inside inside' : Inside S) : Prop where
  depth : inner ≤ inside.depth
  depth' : inner ≤ inside'.depth
  keyCheck : inside.keyCheck = inside'.keyCheck
  read : ∀ {α : Type} {feed : Feed} (schema : S α) {json : Json}, json.nesting ≤ inner →
    inside.read feed schema json.outline = inside'.read feed schema json.outline

/-! ## Records and tuples -/

namespace Fields

variable {fields : Fields S σ τ}

theorem readMember_alike (alike : ReadAlike inner inside inside') {key : String} {json : Json}
    (nested : json.nesting ≤ inner) (slots : σ) :
    fields.readMember inside feed key json.outline slots =
      fields.readMember inside' feed key json.outline slots := by
  induction fields with
  | nil => rfl
  | cons name presence schema rest ih =>
    obtain ⟨slot, slots⟩ := slots
    rw [readMember, readMember, alike.read schema nested, ih]

theorem readMembers_alike (alike : ReadAlike inner inside inside') {members : List (String × Json)}
    (nested : nestingMembers members ≤ inner) (slots : σ) :
    fields.readMembers inside feed slots (outlineMembers members) =
      fields.readMembers inside' feed slots (outlineMembers members) := by
  induction members generalizing slots with
  | nil => rfl
  | cons member members ih =>
    obtain ⟨key, json⟩ := member
    obtain ⟨first, others⟩ := Nat.max_le.mp nested
    simp only [outlineMembers, readMembers, readMember_alike alike first, ih others]

theorem readElements_alike (alike : ReadAlike inner inside inside') {items : List Json}
    (nested : nestingItems items ≤ inner) (wanted : String) (closed : Bool) (index : Nat) :
    fields.readElements inside feed wanted closed index (outlineItems items) =
      fields.readElements inside' feed wanted closed index (outlineItems items) := by
  induction fields generalizing index items with
  | nil => cases items <;> rfl
  | cons key presence schema rest ih =>
    cases items with
    | nil =>
      have cutOff := ih nested (index + 1)
      rw [outlineItems] at cutOff
      simp only [outlineItems, readElements, cutOff]
    | cons item items =>
      obtain ⟨first, others⟩ := Nat.max_le.mp nested
      simp only [outlineItems, readElements, alike.read schema first, ih others]

end Fields

theorem Items.readElements_alike (alike : ReadAlike inner inside inside') {components : Items S τ}
    {items : List Json} (nested : nestingItems items ≤ inner) (counted : String) (closed : Bool)
    (index : Nat) :
    components.readElements inside feed counted closed index (outlineItems items) =
      components.readElements inside' feed counted closed index (outlineItems items) := by
  induction components generalizing index items with
  | nil => cases items <;> rfl
  | cons schema rest ih =>
    cases items with
    | nil => rfl
    | cons item items =>
      obtain ⟨first, others⟩ := Nat.max_le.mp nested
      simp only [outlineItems, readElements, alike.read schema first, ih others]

/-! ## Lists and tables -/

namespace Inside

theorem readList_alike (alike : ReadAlike inner inside inside') (item : S α) {items : List Json}
    (nested : nestingItems items ≤ inner) (closed : Bool) :
    inside.readList feed item (outlineItems items) closed =
      inside'.readList feed item (outlineItems items) closed := by
  have each : (outlineItems items).mapM (inside.read feed item) =
      (outlineItems items).mapM (inside'.read feed item) := by
    induction items with
    | nil => rfl
    | cons first items ih =>
      obtain ⟨here, others⟩ := Nat.max_le.mp nested
      rw [outlineItems, List.mapM_cons, List.mapM_cons, alike.read item here, ih others]
  rw [readList, readList, each]

theorem readEntries_alike (alike : ReadAlike inner inside inside') (item : S α)
    {members : List (String × Json)} (nested : nestingMembers members ≤ inner)
    (entries : Table α) :
    inside.readEntries feed item entries (outlineMembers members) =
      inside'.readEntries feed item entries (outlineMembers members) := by
  induction members generalizing entries with
  | nil => rfl
  | cons member members ih =>
    obtain ⟨key, json⟩ := member
    obtain ⟨first, others⟩ := Nat.max_le.mp nested
    simp only [outlineMembers, readEntries, alike.read item first, ih others]

end Inside

/-! ## Names -/

theorem map_mismatch (f : α → β) (o : Outline) (wanted : String) :
    f <$> mismatch o wanted = mismatch o wanted := by
  unfold mismatch
  cases o.found? <;> rfl

namespace Schema

variable {names : List (String × α)} {f : α → β}

/-- What a name stands for is found before anything is made of it. -/
theorem resolveName_map (name : String) :
    resolveName (names.map fun entry => (entry.1, f entry.2)) name =
      f <$> resolveName names name := by
  unfold resolveName
  rw [lookup_map (f := fun _ => f), List.map_map]
  cases names.lookup name <;> rfl

theorem map_misnamed (f : α → β) (check : KeyCheck) (o : Outline) :
    f <$> misnamed check o = misnamed check o := by
  cases o with
  | misplaced value =>
    cases check with
    | syntactic => rfl
    | typed => exact map_mismatch f _ _
  | _ => rfl

theorem readChoiceObject_map (check : KeyCheck) (members : List Outline.Member) (closed : Bool) :
    readChoiceObject check (names.map fun entry => (entry.1, f entry.2)) members closed =
      f <$> readChoiceObject check names members closed := by
  match members with
  | [] => rfl
  | (none, _) :: _ => exact (map_misnamed f check _).symm
  | (some name, value) :: rest =>
    rw [readChoiceObject, readChoiceObject, resolveName_map, bind_map_left, map_bind]
    refine congrArg _ (funext fun a => ?_)
    cases value with
    | null =>
      show (if rest.isEmpty && closed then _ else _) =
        f <$> (if rest.isEmpty && closed then _ else _)
      cases rest.isEmpty && closed <;> rfl
    | _ => exact (map_mismatch f _ _).symm

theorem readHeldChoice_map (members : List Outline.Member) :
    readHeldChoice (names.map fun entry => (entry.1, f entry.2)) members =
      f <$> readHeldChoice names members := by
  match members with
  | [] | [(none, _)] | (none, _) :: _ :: _ | (some _, _) :: _ :: _ => rfl
  | [(some name, value)] =>
    rw [readHeldChoice, readHeldChoice, resolveName_map, bind_map_left, map_bind]
    refine congrArg _ (funext fun a => ?_)
    cases value with
    | null => rfl
    | object inner closed =>
      cases inner with
      | nil => rfl
      | cons => exact (map_mismatch f _ _).symm
    | _ => exact (map_mismatch f _ _).symm

theorem readChoice_map (room : Option KeyCheck) (o : Outline) :
    readChoice room feed (names.map fun entry => (entry.1, f entry.2)) o =
      f <$> readChoice room feed names o := by
  unfold readChoice
  split
  · exact resolveName_map _
  · cases feed with
    | buffer => exact readHeldChoice_map _
    | text =>
      cases room with
      | some check => exact readChoiceObject_map check _ _
      | none => rfl
  · cases feed with
    | buffer => exact (map_mismatch f _ _).symm
    | text => rfl

theorem readIdentifier_map (o : Outline) :
    readIdentifier feed (names.map fun entry => (entry.1, f entry.2)) o =
      f <$> readIdentifier feed names o := by
  unfold readIdentifier
  split
  · exact resolveName_map _
  · split
    · rename_i index _
      rw [List.getElem?_map, List.length_map]
      cases names[index]? <;> rfl
    · exact (map_mismatch f _ _).symm

/-- A name that is no container needs no room for one. -/
theorem readChoice_congr_room {room room' : Option KeyCheck} (names : List (String × α))
    {json : Json} (enough : 0 < json.nesting → room = room') :
    readChoice room feed names json.outline = readChoice room' feed names json.outline := by
  cases json with
  | object members => rw [enough (Nat.succ_pos _)]
  | _ => rfl

end Schema

/-! ## Unions -/

theorem ReadAlike.room_eq (alike : ReadAlike inner inside inside') (deep : 0 < inner) :
    inside.room = inside'.room := by
  rw [Inside.room_eq_some (Nat.lt_of_lt_of_le deep alike.depth),
    Inside.room_eq_some (Nat.lt_of_lt_of_le deep alike.depth'), alike.keyCheck]

/-- Two alternatives that give the same: without a payload, and with a JSON value for one that has
no more than so many containers inside each other. -/
structure Twins (inner : Nat) (α : Type) where
  first : Alternative α
  second : Alternative α
  absent : first.absent = second.absent
  present : ∀ feed {json : Json}, json.nesting ≤ inner →
    first.present feed json.outline = second.present feed json.outline

namespace Arms

variable {n : Nat} {union : String} {arms : Arms S n α} {json : Json}

theorem present_alike (alike : ReadAlike inner inside inside') (nested : json.nesting ≤ inner)
    (tag : String) (offer : Offer S α) :
    (alternative inside union tag offer).present feed json.outline =
      (alternative inside' union tag offer).present feed json.outline := by
  cases offer with
  | payload schema make => exact congrArg (make <$> ·) (alike.read schema nested)
  | bare value =>
    have room (deep : 0 < json.nesting) := alike.room_eq (Nat.lt_of_lt_of_le deep nested)
    cases json with
    | array items | object members =>
      simp only [alternative, Alternative.bare]
      rw [room (Nat.succ_pos _)]
    | _ => rfl

/-- An offer, as each of two readers takes it. -/
def twins (alike : ReadAlike inner inside inside') (union tag : String) (offer : Offer S α) :
    Twins inner α where
  first := alternative inside union tag offer
  second := alternative inside' union tag offer
  absent := by cases offer <;> rfl
  present _ _ nested := present_alike alike nested tag offer

/-- What two readers make of the offers of a union, side by side. -/
theorem exists_twins (alike : ReadAlike inner inside inside') (union : String) (arms : Arms S n α) :
    ∃ both : List (String × Twins inner α),
      (arms.alternatives inside union = both.map fun entry => (entry.1, entry.2.first)) ∧
        arms.alternatives inside' union = both.map fun entry => (entry.1, entry.2.second) := by
  refine ⟨arms.offers.map fun entry => (entry.1, twins alike union entry.1 entry.2), ?_, ?_⟩
  all_goals
    rw [alternatives_eq_map, List.map_map]
    rfl

variable {use use' : Alternative α → Reading β}

/-- A tag chooses the same offer for both readers. -/
theorem readChoice_alike (alike : ReadAlike inner inside inside') (nested : json.nesting ≤ inner)
    (each : ∀ twins : Twins inner α, use twins.first = use' twins.second) :
    Schema.readChoice inside.room feed (arms.alternatives inside union) json.outline >>= use =
      Schema.readChoice inside'.room feed (arms.alternatives inside' union) json.outline >>=
        use' := by
  have room (deep : 0 < json.nesting) := alike.room_eq (Nat.lt_of_lt_of_le deep nested)
  obtain ⟨both, first, second⟩ := exists_twins alike union arms
  rw [first, second, Schema.readChoice_map (f := Twins.first),
    Schema.readChoice_map (f := Twins.second), bind_map_left, bind_map_left,
    Schema.readChoice_congr_room _ room]
  exact congrArg _ (funext each)

theorem readIdentifier_alike (alike : ReadAlike inner inside inside') (o : Outline)
    (each : ∀ twins : Twins inner α, use twins.first = use' twins.second) :
    Schema.readIdentifier feed (arms.alternatives inside union) o >>= use =
      Schema.readIdentifier feed (arms.alternatives inside' union) o >>= use' := by
  obtain ⟨both, first, second⟩ := exists_twins alike union arms
  rw [first, second, Schema.readIdentifier_map (f := Twins.first),
    Schema.readIdentifier_map (f := Twins.second), bind_map_left, bind_map_left]
  exact congrArg _ (funext each)

theorem readArray_alike (alike : ReadAlike inner inside inside') {items : List Json}
    (nested : nestingItems items ≤ inner) (closed : Bool) :
    arms.readArray inside feed union (outlineItems items) closed =
      arms.readArray inside' feed union (outlineItems items) closed := by
  match items with
  | [] => rfl
  | [tag] => exact readIdentifier_alike alike tag.outline fun _ => rfl
  | tag :: value :: extra =>
    have here : value.nesting ≤ inner := Nat.le_trans (Json.nesting_le_of_mem (by simp)) nested
    refine readIdentifier_alike alike tag.outline fun twins => ?_
    exact congrArg (· >>= _) (twins.present _ here)

/-- What is held back is sound for both readers or for neither. -/
theorem soundWithin_alike (alike : ReadAlike inner inside inside') (nested : json.nesting ≤ inner) :
    json.outline.soundWithin inside.depth = json.outline.soundWithin inside'.depth := by
  rw [Bool.eq_iff_iff]
  exact ⟨json.soundWithin_of_nesting_le (Nat.le_trans nested alike.depth'),
    json.soundWithin_of_nesting_le (Nat.le_trans nested alike.depth)⟩

theorem readObject_alike (alike : ReadAlike inner inside inside') {members : List (String × Json)}
    (nested : nestingMembers members ≤ inner) :
    arms.readObject inside feed union (outlineMembers members) true =
      arms.readObject inside' feed union (outlineMembers members) true := by
  have each {key : String} {json : Json} (found : (key, json) ∈ unionMembers members) :
      json.nesting ≤ inner :=
    Nat.le_trans (Json.nesting_le_of_mem_members (mem_of_mem_unionMembers found)) nested
  unfold readObject
  rcases nextMember_cases members with ⟨-, taken⟩ | ⟨member, first, rest, more, taken⟩
  · rw [taken]
    rfl
  · have firstNested : first.nesting ≤ inner := each (more ▸ List.mem_cons_self)
    rw [taken]
    rcases nextMember_cases rest with ⟨-, next⟩ | ⟨other, second, others, more', next⟩
    · cases member with
      | tag =>
        refine readChoice_alike alike firstNested fun twins => ?_
        rw [next]
        exact twins.absent
      | payload =>
        show (if _ then _ else _) = (if _ then _ else _)
        rw [soundWithin_alike alike firstNested, next]
        rfl
    · have secondNested : second.nesting ≤ inner := by
        rw [more'] at more
        exact each (more ▸ List.mem_cons_of_mem _ List.mem_cons_self)
      cases member with
      | tag =>
        refine readChoice_alike alike firstNested fun twins => ?_
        rw [next]
        cases other with
        | tag => rfl
        | payload => exact congrArg (· >>= _) (twins.present _ secondNested)
      | payload =>
        show (if _ then _ else _) = (if _ then _ else _)
        rw [soundWithin_alike alike firstNested, next]
        cases first.outline.soundWithin inside'.depth with
        | false => rfl
        | true =>
          cases other with
          | payload => rfl
          | tag =>
            refine readChoice_alike alike secondNested fun twins => ?_
            exact congrArg (· >>= _) (twins.present _ firstNested)

end Arms

/-! ## Schemas -/

/-- A JSON value has no containers, or two readers of the parts of its outermost one read them
alike. -/
inductive OpenedAlike (json : Json) : Option (Inside S) → Option (Inside S) → Prop where
  | flat {within within' : Option (Inside S)} (flat : json.nesting = 0) :
      OpenedAlike json within within'
  | deep {inner : Nat} {inside inside' : Inside S} (nested : json.nesting = inner + 1)
      (alike : ReadAlike inner inside inside') : OpenedAlike json (some inside) (some inside')

variable {within within' : Option (Inside S)} {json : Json}

theorem Shape.read_alike {shape : Shape S α} (opened : OpenedAlike json within within') :
    shape.read within feed json.outline = shape.read within' feed json.outline := by
  cases opened with
  | flat flat =>
    cases json with
    | array | object => cases flat
    | _ => cases shape <;> rfl
  | deep nested alike =>
    cases json with
    | array items =>
      have fits : nestingItems items ≤ _ := Nat.le_of_eq (Nat.succ.inj nested)
      cases shape with
      | record name fields make =>
        refine congrArg (fun reading => make <$> (reading >>= _)) ?_
        exact Fields.readElements_alike alike fits _ true 0
      | tuple wanted counted components make =>
        refine congrArg (· >>= _) ?_
        exact Items.readElements_alike alike fits counted true 0
      | union name arms => exact Arms.readArray_alike alike fits true
    | object members =>
      have fits : nestingMembers members ≤ _ := Nat.le_of_eq (Nat.succ.inj nested)
      cases shape with
      | record name fields make =>
        refine congrArg (fun reading => make <$> (reading >>= _)) ?_
        exact Fields.readMembers_alike alike fits fields.blank
      | tuple wanted counted components make => rfl
      | union name arms => exact Arms.readObject_alike alike fits
    | _ => cases nested

theorem Schema.layer_alike {ι : Type} {K : ι → Type} {shape : (i : ι) → Shape (Schema K) (K i)}
    {within within' : Option (Inside (Schema K))} {α : Type} (schema : Schema K α)
    (opened : OpenedAlike json within within') :
    schema.layer shape within feed json.outline = schema.layer shape within' feed json.outline := by
  cases schema with
  | integer | double | boolean | text => rfl
  | choice names =>
    refine readChoice_congr_room names ?_
    intro deep
    cases opened with
    | flat flat => omega
    | deep _ alike => exact congrArg some alike.keyCheck
  | optional inner =>
    have same : inner.layer shape within feed json.outline =
        inner.layer shape within' feed json.outline := layer_alike inner opened
    cases json with
    | null => rfl
    | _ => exact congrArg (some <$> ·) same
  | list wanted item =>
    cases json with
    | array items =>
      cases opened with
      | flat flat => cases flat
      | deep nested alike =>
        exact Inside.readList_alike alike item (Nat.le_of_eq (Nat.succ.inj nested)) true
    | _ => rfl
  | table item =>
    cases json with
    | object members =>
      cases opened with
      | flat flat => cases flat
      | deep nested alike =>
        refine congrArg (· >>= _) ?_
        exact Inside.readEntries_alike alike item (Nat.le_of_eq (Nat.succ.inj nested)) .empty
    | _ => rfl
  | shape inner => exact Shape.read_alike opened
  | node i => exact Shape.read_alike opened

namespace Grammar

variable {ι : Type} {g : Grammar ι} {schema : Schema g.Carrier α}

/-- As long as its containers fit, it does not matter for what reading a JSON value gives how much
room there is. -/
theorem read_eq_of_nesting_le {depth depth' : Nat} (nested : json.nesting ≤ depth)
    (nested' : json.nesting ≤ depth') :
    g.read depth feed schema json.outline = g.read depth' feed schema json.outline := by
  induction depth generalizing depth' α feed json with
  | zero =>
    have flat : json.nesting = 0 := Nat.le_zero.mp nested
    cases depth' <;> exact Schema.layer_alike schema (.flat flat)
  | succ depth ih =>
    cases deep : json.nesting with
    | zero => cases depth' <;> exact Schema.layer_alike schema (.flat deep)
    | succ inner =>
      rw [deep] at nested nested'
      cases depth' with
      | zero => cases nested'
      | succ depth' =>
        refine Schema.layer_alike schema (.deep deep ⟨?_, ?_, rfl, ?_⟩)
        · exact Nat.le_of_succ_le_succ nested
        · exact Nat.le_of_succ_le_succ nested'
        · intro _ feed part json fits
          exact ih (Nat.le_trans fits (Nat.le_of_succ_le_succ nested))
            (Nat.le_trans fits (Nat.le_of_succ_le_succ nested'))

end Grammar

end WireTree
