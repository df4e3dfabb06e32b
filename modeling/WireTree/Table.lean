/-!
# Tables from texts to values

The entries stand in strictly ascending order of their keys, by code points, which is also the order
of the keys' UTF-8 bytes; so two tables with the same entries are equal, whatever was put into them
in which order.
Main statements: putting keeps the order (`putEntry_sorted`), and a key that was put is found
(`get?_put_self`).
-/

namespace WireTree

/-- The keys ascend strictly. -/
def SortedKeys {α : Type} (entries : List (String × α)) : Prop :=
  entries.Pairwise fun a b => a.1 < b.1

/-- A finite map from texts, its entries in ascending order of their keys. -/
structure Table (α : Type) where
  entries : List (String × α)
  sorted : SortedKeys entries
deriving DecidableEq

namespace Table

variable {α β : Type}

/-- No entries. -/
def empty : Table α := ⟨[], List.Pairwise.nil⟩

/-- The value that belongs to a key, changed by `update` (which is given the old value, if
there is one), in its place among the entries. -/
def putEntry (key : String) (update : Option α → α) : List (String × α) → List (String × α)
  | [] => [(key, update none)]
  | (other, value) :: rest =>
    if key < other then (key, update none) :: (other, value) :: rest
    else if other < key then (other, value) :: putEntry key update rest
    else (other, update (some value)) :: rest

theorem mem_putEntry {key : String} {update : Option α → α} {entries : List (String × α)}
    {entry : String × α} (member : entry ∈ putEntry key update entries) :
    entry.1 = key ∨ ∃ old ∈ entries, entry.1 = old.1 := by
  induction entries with
  | nil => simp [putEntry] at member; simp [member]
  | cons head rest ih =>
    obtain ⟨other, value⟩ := head
    unfold putEntry at member
    split at member
    · rcases List.mem_cons.mp member with rfl | member
      · exact .inl rfl
      · exact .inr ⟨entry, member, rfl⟩
    · split at member
      · rcases List.mem_cons.mp member with rfl | member
        · exact .inr ⟨_, List.mem_cons_self, rfl⟩
        · rcases ih member with same | ⟨old, oldMember, same⟩
          · exact .inl same
          · exact .inr ⟨old, List.mem_cons_of_mem _ oldMember, same⟩
      · rcases List.mem_cons.mp member with rfl | member
        · exact .inr ⟨_, List.mem_cons_self, rfl⟩
        · exact .inr ⟨entry, List.mem_cons_of_mem _ member, rfl⟩

theorem putEntry_sorted {key : String} {update : Option α → α} {entries : List (String × α)}
    (sorted : SortedKeys entries) : SortedKeys (putEntry key update entries) := by
  induction entries with
  | nil => exact List.pairwise_singleton _ _
  | cons head rest ih =>
    obtain ⟨other, value⟩ := head
    have parts := List.pairwise_cons.mp sorted
    unfold putEntry
    split
    · rename_i less
      refine List.pairwise_cons.mpr ⟨?_, sorted⟩
      intro entry member
      rcases List.mem_cons.mp member with rfl | member
      · exact less
      · exact String.lt_trans less (parts.1 entry member)
    · split
      · rename_i greater
        refine List.pairwise_cons.mpr ⟨?_, ih parts.2⟩
        intro entry member
        rcases mem_putEntry member with same | ⟨old, oldMember, same⟩
        · rw [same]; exact greater
        · rw [same]; exact parts.1 old oldMember
      · exact List.pairwise_cons.mpr ⟨fun entry member => parts.1 entry member, parts.2⟩

/-- Change the value of a key, or give it a first one. -/
def alter (t : Table α) (key : String) (update : Option α → α) : Table α :=
  ⟨putEntry key update t.entries, putEntry_sorted t.sorted⟩

/-- Give a key a value, in place of the one that it may have. -/
def put (t : Table α) (key : String) (value : α) : Table α :=
  t.alter key fun _ => value

/-- The value of a key. -/
def get? (t : Table α) (key : String) : Option α :=
  (t.entries.find? fun entry => entry.1 == key).map (·.2)

/-- The keys, ascending. -/
def keys (t : Table α) : List String :=
  t.entries.map (·.1)

theorem get?_alter_self (t : Table α) (key : String) (update : Option α → α) :
    (t.alter key update).get? key = some (update (t.get? key)) := by
  obtain ⟨entries, sorted⟩ := t
  unfold alter get?
  simp only
  induction entries with
  | nil => simp [putEntry]
  | cons head rest ih =>
    obtain ⟨other, value⟩ := head
    have parts := List.pairwise_cons.mp sorted
    unfold putEntry
    split
    · rename_i less
      have absent : ((other, value) :: rest).find? (fun entry => entry.1 == key) = none := by
        rw [List.find?_eq_none]
        intro entry member equal
        have same : entry.1 = key := by simpa using equal
        rcases List.mem_cons.mp member with rfl | member
        · exact String.lt_irrefl _ (same ▸ less)
        · exact String.lt_irrefl _ (same ▸ String.lt_trans less (parts.1 entry member))
      rw [absent]
      simp
    · split
      · rename_i greater
        have different : other ≠ key := fun same => String.lt_irrefl _ (same ▸ greater)
        simpa [List.find?_cons, different] using ih parts.2
      · rename_i notLess notGreater
        have same : other = key :=
          String.le_antisymm (String.not_lt.mp notLess) (String.not_lt.mp notGreater)
        subst same
        simp

theorem get?_put_self (t : Table α) (key : String) (value : α) :
    (t.put key value).get? key = some value :=
  get?_alter_self t key _

/-- The table of the pairs in a list; of several values of a key, the last one. -/
def ofList (pairs : List (String × α)) : Table α :=
  pairs.foldl (fun t pair => t.put pair.1 pair.2) empty

end Table

end WireTree
