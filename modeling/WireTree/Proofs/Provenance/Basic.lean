import WireTree.Format.Shared
import WireTree.Proofs.Conformance.Reading
import WireTree.Proofs.Places.Congruence
import WireTree.Proofs.Relation

/-!
# Where the parts of a value that was read come from

Each value in a record is what reading some part of the text gave, the member under its key or the
element in its place, unless the field may be absent; each item of a list is what reading an item of
the array gave. Every container that was entered on the way has been paid for out of the containers
that may be opened.
Main statements: `Grammar.exists_of_read_record` and `Grammar.exists_of_read_list`.
-/

namespace WireTree

open Json (Outline)

variable {S : Type → Type 1} {ι α β σ τ : Type}

/-- What a text gives for a field of a record with these keys: the only member under its key, or
the element at its place. -/
inductive Gives (keys : List String) (key : String) : Outline → Outline → Prop where
  | member {members : List Outline.Member} {closed : Bool} {o : Outline}
      (alone : valuesOf members (some key) = [o]) : Gives keys key (.object members closed) o
  | element {items : List Outline} {closed : Bool} {index : Nat} {o : Outline}
      (place : keys[index]? = some key) (found : items[index]? = some o) :
      Gives keys key (.array items closed) o

/-- A text gives nothing for a field: no member has its key, or the array ends before its place. -/
inductive Lacks (keys : List String) (key : String) : Outline → Prop where
  | member {members : List Outline.Member} {closed : Bool}
      (none : valuesOf members (some key) = []) : Lacks keys key (.object members closed)
  | element {items : List Outline} {closed : Bool} {index : Nat}
      (place : keys[index]? = some key) (ended : items.length ≤ index) :
      Lacks keys key (.array items closed)

/-- A text gives at most one value for a field. -/
theorem Gives.unique {keys : List String} {key : String} {o part part' : Outline}
    (distinct : keys.Nodup) (gives : Gives keys key o part) (gives' : Gives keys key o part') :
    part = part' := by
  cases gives with
  | member alone =>
    cases gives' with
    | member alone' =>
      rw [alone] at alone'
      exact (List.cons.inj alone').1
  | element place found =>
    cases gives' with
    | element place' found' =>
      obtain ⟨inside, -⟩ := List.getElem?_eq_some_iff.mp place
      obtain rfl := (List.getElem?_inj inside distinct).mp (place.trans place'.symm)
      exact Option.some.inj (found.symm.trans found')

namespace Fields

/-- Something holds of every field and the value in it. -/
def Each (P : {α : Type} → String → Presence α → S α → α → Prop) {σ τ : Type} :
    Fields S σ τ → τ → Prop
  | nil, _ => True
  | cons key presence schema rest, (a, values) => P key presence schema a ∧ rest.Each P values

theorem Each.imp {P Q : {α : Type} → String → Presence α → S α → α → Prop}
    {fields : Fields S σ τ} {values : τ}
    (weaker : ∀ {α : Type} {key : String} {presence : Presence α} {schema : S α} {a : α},
      key ∈ fields.keys → P key presence schema a → Q key presence schema a)
    (each : fields.Each P values) : fields.Each Q values := by
  induction fields with
  | nil => trivial
  | cons key presence schema rest ih =>
    obtain ⟨first, others⟩ := each
    exact ⟨weaker List.mem_cons_self first,
      ih (fun member => weaker (List.mem_cons_of_mem key member)) others⟩

variable {inside : Inside S} {feed : Feed}

/-- The value of a field of an object: what stands for an absent member, or what reading the only
member under the key gave. -/
theorem each_of_readObject {fields : Fields S σ τ} (distinct : fields.keys.Nodup)
    {members : List Outline.Member} {closed : Bool} {values : τ}
    (read : fields.readObject inside feed members closed = .ok values) :
    fields.Each (fun key presence schema a =>
      valuesOf members (some key) = [] ∧ presence.absent? = some a ∨
        ∃ o, valuesOf members (some key) = [o] ∧ inside.read feed schema o = .ok a) values := by
  induction fields generalizing members with
  | nil => trivial
  | cons key presence schema rest ih =>
    obtain ⟨a, values⟩ := values
    obtain ⟨first, others⟩ := readObject_cons_eq_ok_iff.mp read
    obtain ⟨fresh, distinct⟩ := List.nodup_cons.mp distinct
    refine ⟨first, (ih distinct others).imp ?_⟩
    intro _ other _ _ _ member found
    -- the other fields take the members under other keys
    have different : some other ≠ some key := by
      rintro same
      cases same
      exact fresh member
    rwa [valuesOf_besides different] at found

/-- The value of a field of an array: what stands for an absent element, or what reading the
element at its place gave. The keys and the elements before are those already taken. -/
theorem each_of_readElements {fields : Fields S σ τ} {wanted : String} {closed : Bool}
    {index : Nat} (before : List String) (taken : List Outline) {items extra : List Outline}
    {values : τ} (short : taken.length ≤ before.length)
    (aligned : items ≠ [] → before.length = taken.length)
    (read : fields.readElements inside feed wanted closed index items = .ok (values, extra)) :
    fields.Each (fun key presence schema a => ∃ number : Nat,
      (before ++ fields.keys)[number]? = some key ∧
        ((taken ++ items).length ≤ number ∧ presence.absent? = some a ∨
          ∃ o, (taken ++ items)[number]? = some o ∧ inside.read feed schema o = .ok a))
      values := by
  induction fields generalizing index before taken items extra with
  | nil => trivial
  | cons key presence schema rest ih =>
    obtain ⟨a, values⟩ := values
    have keys_eq : before ++ (cons key presence schema rest).keys =
        (before ++ [key]) ++ rest.keys := by simp [keys]
    have place : (before ++ (cons key presence schema rest).keys)[before.length]? = some key := by
      simp [keys]
    cases items with
    | nil =>
      cases closed with
      | false => cases read
      | true =>
        cases presence with
        | required | absentAs => cases read
        | defaultsTo value =>
          obtain ⟨⟨values, extra⟩, others, same⟩ := bind_eq_ok_iff.mp read
          cases same
          refine ⟨⟨before.length, place, .inl ⟨by simpa using short, rfl⟩⟩, ?_⟩
          rw [keys_eq]
          have longer : taken.length ≤ (before ++ [key]).length := by simp; omega
          exact ih _ _ longer (fun some => absurd rfl some) others
    | cons item items =>
      have aligned := aligned (List.cons_ne_nil item items)
      obtain ⟨b, first, more⟩ := bind_eq_ok_iff.mp read
      obtain ⟨⟨values, extra⟩, others, same⟩ := bind_eq_ok_iff.mp more
      cases same
      refine ⟨⟨before.length, place, .inr ⟨item, by simp [aligned], first⟩⟩, ?_⟩
      have items_eq : taken ++ item :: items = (taken ++ [item]) ++ items := by simp
      have level : (before ++ [key]).length = (taken ++ [item]).length := by simp [aligned]
      rw [keys_eq, items_eq]
      exact ih _ _ (Nat.le_of_eq level.symm) (fun _ => level) others

end Fields

/-- A record that was read is a container, and one could be opened. -/
theorem Shape.exists_of_read_record {inside : Option (Inside S)} {feed : Feed} {name : String}
    {fields : Fields S σ τ} {make : τ → α} {o : Outline} {a : α}
    (wasRead : (record name fields make).read inside feed o = .ok a) :
    ∃ inner values, inside = some inner ∧ make values = a ∧
      ((∃ members closed, o = .object members closed ∧
          fields.readObject inner feed members closed = .ok values) ∨
        ∃ items closed, o = .array items closed ∧
          fields.readArray inner feed name items closed = .ok values) := by
  cases o with
  | object members closed =>
    cases inside with
    | none => cases wasRead
    | some inner =>
      obtain ⟨values, found, made⟩ := map_eq_ok_iff.mp wasRead
      exact ⟨inner, values, rfl, made, .inl ⟨members, closed, rfl, found⟩⟩
  | array items closed =>
    cases inside with
    | none => cases wasRead
    | some inner =>
      obtain ⟨values, found, made⟩ := map_eq_ok_iff.mp wasRead
      exact ⟨inner, values, rfl, made, .inr ⟨items, closed, rfl, found⟩⟩
  | _ => simp [read] at wasRead

namespace Grammar

variable {g : Grammar ι} {depth : Nat} {feed : Feed} {o : Outline}

/-- A value in a record that was read: what stands for an absent one, or what reading the text that
is given for its field gave. -/
def Taken (g : Grammar ι) (depth : Nat) (feed : Feed) (keys : List String) (o : Outline)
    {α : Type} (key : String) (presence : Presence α) (schema : Schema g.Carrier α) (a : α) :
    Prop :=
  Lacks keys key o ∧ presence.absent? = some a ∨
    ∃ part, Gives keys key o part ∧ g.read depth feed schema part = .ok a

/-- A record that was read opened a container, and its values are what was read inside. -/
theorem exists_of_read_record {name : String} {fields : Fields (Schema g.Carrier) σ τ}
    (distinct : fields.keys.Nodup) {make : τ → α} {a : α}
    (read : g.read depth feed (Format.record name fields make) o = .ok a) :
    ∃ inner values, depth = inner + 1 ∧ make values = a ∧
      fields.Each (g.Taken inner feed fields.keys o) values := by
  cases depth with
  | zero =>
    have read : (Shape.record name fields make).read none feed o = .ok a := read
    obtain ⟨inner, values, shut, -⟩ := Shape.exists_of_read_record read
    cases shut
  | succ inner =>
    have read : (Shape.record name fields make).read (some (g.inside inner)) feed o = .ok a := read
    obtain ⟨inside, values, opened, made, found⟩ := Shape.exists_of_read_record read
    cases opened
    refine ⟨inner, values, rfl, made, ?_⟩
    rcases found with ⟨members, closed, rfl, found⟩ | ⟨items, closed, rfl, found⟩
    · refine (Fields.each_of_readObject distinct found).imp ?_
      rintro _ _ _ _ _ - (⟨none, absent⟩ | ⟨part, alone, read⟩)
      · exact .inl ⟨.member none, absent⟩
      · exact .inr ⟨part, .member alone, read⟩
    · obtain ⟨⟨values, extra⟩, elements, finished⟩ := bind_eq_ok_iff.mp found
      obtain ⟨-, -, rfl⟩ := finishArray_eq_ok_iff.mp finished
      have each := fields.each_of_readElements [] [] (Nat.le_refl 0) (fun _ => rfl) elements
      refine each.imp ?_
      rintro _ _ _ _ _ - ⟨number, place, ⟨ended, absent⟩ | ⟨part, found, read⟩⟩
      · exact .inl ⟨.element place ended, absent⟩
      · exact .inr ⟨part, .element place found, read⟩

variable {keys : List String} {key : String} {schema : Schema g.Carrier α}

/-- A value that has to be there was read. -/
theorem Taken.required {a : α} (taken : g.Taken depth feed keys o key .required schema a) :
    ∃ part, Gives keys key o part ∧ g.read depth feed schema part = .ok a := by
  rcases taken with ⟨-, absent⟩ | found
  · cases absent
  · exact found

theorem read_of_read_optional {a : α}
    (read : g.read depth feed (.optional schema) o = .ok (some a)) :
    g.read depth feed schema o = .ok a := by
  by_cases null : o = .null
  · subst null
    cases depth <;> cases read
  · rw [read_optional_of_ne_null null] at read
    obtain ⟨b, read, same⟩ := map_eq_ok_iff.mp read
    cases same
    exact read

/-- A value that may be absent was read if it is there. -/
theorem Taken.optional {slot : Option α}
    (taken : g.Taken depth feed keys o key (.absentAs none) (.optional schema) slot) :
    ∀ a, slot = some a → ∃ part, Gives keys key o part ∧ g.read depth feed schema part = .ok a := by
  rintro a rfl
  rcases taken with ⟨-, absent⟩ | ⟨part, gives, read⟩
  · cases absent
  · exact ⟨part, gives, read_of_read_optional read⟩

/-- A list that was read opened a container, and its values are what reading the items gave. -/
theorem exists_of_read_list {wanted : String} {as : List α}
    (read : g.read depth feed (.list wanted schema) o = .ok as) :
    ∃ inner items, depth = inner + 1 ∧ o = .array items true ∧
      List.Forall₂ (fun item a => g.read inner feed schema item = .ok a) items as := by
  cases depth with
  | zero => cases o <;> simp [Grammar.read, Schema.layer, enter] at read
  | succ inner =>
    cases o with
    | array items closed =>
      obtain ⟨values, found, finished⟩ := bind_eq_ok_iff.mp read
      cases closed with
      | false => cases finished
      | true =>
        cases finished
        exact ⟨inner, items, rfl, rfl, mapM_eq_ok_iff.mp found⟩
    | _ => simp [Grammar.read, Schema.layer] at read

/-- A value in a list was read from an item of the array. -/
theorem exists_of_mem_list {wanted : String} {as : List α} {a : α} (member : a ∈ as)
    (read : g.read depth feed (.list wanted schema) o = .ok as) :
    ∃ inner items part, depth = inner + 1 ∧ o = .array items true ∧ part ∈ items ∧
      g.read inner feed schema part = .ok a := by
  obtain ⟨inner, items, rfl, rfl, each⟩ := exists_of_read_list read
  obtain ⟨part, listed, read⟩ := forall₂_exists_of_mem each.flip member
  exact ⟨inner, items, part, rfl, rfl, listed, read⟩

/-- A node is read by its shape. -/
theorem read_node (i : ι) :
    g.read depth feed (.node i) o = g.read depth feed (.shape (g.shape i)) o := by
  cases depth <;> rfl

/-- A text that was read spells one value, which was read. -/
theorem read_of_readText {text : String} {a : α} (read : g.readText schema text = .ok a) :
    g.read maxDepth .text schema (Json.Document.ofText text).root = .ok a := by
  obtain ⟨b, read, finished⟩ := bind_eq_ok_iff.mp read
  cases trailing : (Json.Document.ofText text).trailing with
  | true => simp [trailing, malformed] at finished
  | false =>
    rw [trailing] at finished
    cases finished
    exact read

/-- A text whose tokens lead to a value, and that has nothing after it, is read as the value. -/
theorem readText_of_done {text : List Char} {root : Outline}
    (complete : (Json.scan text).foldl Outline.State.step .start = .done root) :
    g.readText schema (String.ofList text) = g.read maxDepth .text schema root := by
  have document : Json.Document.ofText (String.ofList text) = ⟨root, false⟩ := by
    unfold Json.Document.ofText Json.Document.ofChars
    rw [String.toList_ofList, complete]
    rfl
  unfold readText
  rw [document]
  exact bind_pure _

end Grammar

end WireTree
