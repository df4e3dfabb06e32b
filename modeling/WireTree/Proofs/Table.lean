import WireTree.Table

/-!
# What is found in a table

Main statements: a table is determined by what is found in it (`ext_get?`), changing the value of
one key changes nothing else (`get?_alter_of_ne`), of several values that are put under one key the
last one is found (`get?_ofList`), and of pairs with distinct keys the order in which they are put
into a table does not matter (`get?_ofList_eq_some_iff`).
-/

namespace WireTree

namespace Table

variable {α : Type}

/-! ## Pairs with distinct keys -/

theorem find?_eq_none_of_not_mem {key : String} {pairs : List (String × α)}
    (absent : key ∉ pairs.map (·.1)) : pairs.find? (fun pair => pair.1 == key) = none := by
  rw [List.find?_eq_none]
  intro pair member equal
  have same : pair.1 = key := by simpa using equal
  exact absent (List.mem_map.mpr ⟨pair, member, same⟩)

/-- Each pair is the one that is found by its key. -/
theorem mem_iff_find?_of_nodup {pairs : List (String × α)} (distinct : (pairs.map (·.1)).Nodup)
    {key : String} {value : α} :
    (key, value) ∈ pairs ↔
      (pairs.find? fun pair => pair.1 == key).map (·.2) = some value := by
  induction pairs with
  | nil => simp
  | cons head rest ih =>
    obtain ⟨other, first⟩ := head
    obtain ⟨alone, distinct⟩ := List.nodup_cons.mp distinct
    by_cases same : other = key
    · subst same
      have absent : (other, value) ∉ rest := fun member =>
        alone (List.mem_map.mpr ⟨_, member, rfl⟩)
      simp [absent, eq_comm]
    · simp [same, Ne.symm same, ih distinct]

/-! ## Tables -/

theorem find?_eq_none_of_lt {key : String} {entries : List (String × α)}
    (greater : ∀ entry ∈ entries, key < entry.1) :
    entries.find? (fun entry => entry.1 == key) = none := by
  refine find?_eq_none_of_not_mem fun member => ?_
  obtain ⟨entry, found, same⟩ := List.mem_map.mp member
  exact String.lt_irrefl key (same ▸ greater entry found)

theorem keys_ascend (t : Table α) : t.keys.Pairwise (· < ·) :=
  List.pairwise_map.mpr t.sorted

theorem keys_nodup (t : Table α) : t.keys.Nodup := by
  refine t.keys_ascend.imp ?_
  rintro key _ less rfl
  exact String.lt_irrefl _ less

/-- The entries are what is found. -/
theorem mem_entries_iff {t : Table α} {key : String} {value : α} :
    (key, value) ∈ t.entries ↔ t.get? key = some value :=
  mem_iff_find?_of_nodup t.keys_nodup

/-- The keys are those under which something is found. -/
theorem mem_keys_iff {t : Table α} {key : String} : key ∈ t.keys ↔ (t.get? key).isSome := by
  rw [Option.isSome_iff_exists, keys, List.mem_map]
  constructor
  · rintro ⟨⟨_, value⟩, member, rfl⟩
    exact ⟨value, mem_entries_iff.mp member⟩
  · rintro ⟨value, found⟩
    exact ⟨(key, value), mem_entries_iff.mpr found, rfl⟩

theorem entries_nodup (t : Table α) : t.entries.Nodup := by
  refine t.sorted.imp ?_
  rintro a b less rfl
  exact String.lt_irrefl _ less

/-- Tables in which the same is found are the same. -/
theorem ext_get? {a b : Table α} (same : ∀ key, a.get? key = b.get? key) : a = b := by
  have members : ∀ entry, entry ∈ a.entries ↔ entry ∈ b.entries := by
    rintro ⟨key, value⟩
    rw [mem_entries_iff, mem_entries_iff, same]
  have permuted := (List.perm_ext_iff_of_nodup a.entries_nodup b.entries_nodup).mpr members
  have entries : a.entries = b.entries := by
    refine List.Perm.eq_of_pairwise ?_ a.sorted b.sorted permuted
    intro x y _ _ less greater
    exact absurd (String.lt_trans less greater) (String.lt_irrefl _)
  cases a
  cases b
  cases entries
  rfl

theorem get?_alter_of_ne (t : Table α) {key other : String} (update : Option α → α)
    (different : other ≠ key) : (t.alter key update).get? other = t.get? other := by
  obtain ⟨entries, sorted⟩ := t
  unfold alter get?
  simp only
  clear sorted
  induction entries with
  | nil => simp [putEntry, Ne.symm different]
  | cons head rest ih =>
    obtain ⟨first, value⟩ := head
    unfold putEntry
    split
    · simp [List.find?_cons, Ne.symm different]
    · split
      · by_cases found : first = other
        · simp [found]
        · simpa [List.find?_cons, found] using ih
      · rename_i notLess notGreater
        have same : first = key :=
          String.le_antisymm (String.not_lt.mp notLess) (String.not_lt.mp notGreater)
        have missed : first ≠ other := fun equal => different (equal.symm.trans same)
        simp [missed]

theorem get?_empty (key : String) : (empty : Table α).get? key = none := rfl

/-! ## Putting pairs into a table -/

/-- Putting pairs into a table leaves under each key the value that was put there last. -/
theorem get?_foldl_put (pairs : List (String × α)) (t : Table α) (key : String) :
    (pairs.foldl (fun t pair => t.put pair.1 pair.2) t).get? key =
      ((pairs.reverse.find? fun pair => pair.1 == key).map (·.2)).or (t.get? key) := by
  induction pairs generalizing t with
  | nil => rfl
  | cons head rest ih =>
    obtain ⟨other, value⟩ := head
    rw [List.foldl_cons, ih, List.reverse_cons, List.find?_append, Option.map_or, Option.or_assoc]
    congr 1
    by_cases same : other = key
    · subst same
      rw [get?_put_self]
      simp
    · rw [put, get?_alter_of_ne _ _ (Ne.symm same)]
      simp [same]

/-- The table of pairs has under each key the value that the last pair with the key has. -/
theorem get?_ofList (pairs : List (String × α)) (key : String) :
    (ofList pairs).get? key = (pairs.reverse.find? fun pair => pair.1 == key).map (·.2) := by
  rw [ofList, get?_foldl_put, get?_empty, Option.or_none]

/-- Of pairs with distinct keys each is in their table, and nothing else is. -/
theorem get?_ofList_eq_some_iff {pairs : List (String × α)} (distinct : (pairs.map (·.1)).Nodup)
    {key : String} {value : α} :
    (ofList pairs).get? key = some value ↔ (key, value) ∈ pairs := by
  have backwards : (pairs.reverse.map (·.1)).Nodup := by
    rw [List.map_reverse]
    exact List.pairwise_reverse.mpr (distinct.imp Ne.symm)
  rw [get?_ofList, ← mem_iff_find?_of_nodup backwards, List.mem_reverse]

/-- Putting the entries of a table one after the other makes the table. -/
theorem ofList_entries (t : Table α) : ofList t.entries = t := by
  refine ext_get? fun key => Option.ext fun value => ?_
  rw [get?_ofList_eq_some_iff t.keys_nodup, mem_entries_iff]

end Table

end WireTree
