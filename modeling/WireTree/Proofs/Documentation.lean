import WireTree.Compilation.Decode
import WireTree.Proofs.Table

/-!
# Documentation blocks and their table

Decoding groups the blocks of a namespace by their files.
Main statements: the blocks of each file are kept in their order (`get?_decodeDocumentation`), so
two lists of blocks are grouped alike exactly if they have the same blocks for each file
(`decodeDocumentation_eq_iff`), and what comes out has blocks for every file that it mentions
(`ne_nil_of_mem_decodeDocumentation`), which is all that is needed to get it
(`decodeDocumentation_blocksOfTable`).
-/

namespace WireTree

namespace Wire

/-- The blocks of one file, in their order. -/
def blocksOf (file : String) (blocks : List SourceFileDocumentation) : List (List String) :=
  (blocks.filter fun block => block.fileName == file).map (·.documentationItems)

theorem blocksOf_cons_self (block : SourceFileDocumentation)
    (blocks : List SourceFileDocumentation) :
    blocksOf block.fileName (block :: blocks) =
      block.documentationItems :: blocksOf block.fileName blocks := by
  simp [blocksOf]

theorem blocksOf_cons_of_ne {file : String} {block : SourceFileDocumentation}
    (different : block.fileName ≠ file) (blocks : List SourceFileDocumentation) :
    blocksOf file (block :: blocks) = blocksOf file blocks := by
  simp [blocksOf, different]

theorem blocksOf_append (file : String) (blocks more : List SourceFileDocumentation) :
    blocksOf file (blocks ++ more) = blocksOf file blocks ++ blocksOf file more := by
  simp [blocksOf]

/-- The list, unless it is empty. -/
def nonempty? {α : Type} : List α → Option (List α)
  | [] => none
  | items => some items

theorem nonempty?_injective {α : Type} {items items' : List α} :
    nonempty? items = nonempty? items' ↔ items = items' := by
  cases items <;> cases items' <;> simp [nonempty?]

theorem nonempty?_eq_some_iff {α : Type} {items items' : List α} :
    nonempty? items = some items' ↔ items = items' ∧ items' ≠ [] := by
  cases items with
  | nil =>
    constructor
    · nofun
    · rintro ⟨rfl, nonempty⟩
      exact absurd rfl nonempty
  | cons a items =>
    simp only [nonempty?, Option.some.injEq]
    constructor
    · rintro rfl
      exact ⟨rfl, nofun⟩
    · exact And.left

/-- Grouping more blocks into a table adds them to those that it has for their files. -/
theorem get?_foldl_alter (file : String) (blocks : List SourceFileDocumentation)
    (table : Table (List (List String))) :
    (blocks.foldl (fun table block => table.alter block.fileName fun earlier =>
      earlier.getD [] ++ [block.documentationItems]) table).get? file =
      match blocksOf file blocks with
      | [] => table.get? file
      | more => some ((table.get? file).getD [] ++ more) := by
  induction blocks generalizing table with
  | nil => rfl
  | cons block blocks ih =>
    rw [List.foldl_cons, ih]
    by_cases same : block.fileName = file
    · subst same
      rw [blocksOf_cons_self, Table.get?_alter_self]
      cases blocksOf block.fileName blocks with
      | nil => rfl
      | cons next rest => simp
    · rw [blocksOf_cons_of_ne same, Table.get?_alter_of_ne _ _ (Ne.symm same)]

/-- What decoding has for a file are the blocks of the file, if there are any. -/
theorem get?_decodeDocumentation (file : String) (blocks : List SourceFileDocumentation) :
    (decodeDocumentation blocks).get? file = nonempty? (blocksOf file blocks) := by
  unfold decodeDocumentation
  rw [get?_foldl_alter, Table.get?_empty]
  cases blocksOf file blocks <;> rfl

/-- How the blocks of different files are mixed makes no difference, and nothing else is lost. -/
theorem decodeDocumentation_eq_iff {blocks blocks' : List SourceFileDocumentation} :
    decodeDocumentation blocks = decodeDocumentation blocks' ↔
      ∀ file, blocksOf file blocks = blocksOf file blocks' := by
  constructor
  · intro same file
    have found := get?_decodeDocumentation file blocks
    rw [same, get?_decodeDocumentation] at found
    exact (nonempty?_injective.mp found).symm
  · intro same
    refine Table.ext_get? ?_
    intro file
    rw [get?_decodeDocumentation, get?_decodeDocumentation, same]

theorem ne_nil_of_mem_decodeDocumentation {blocks : List SourceFileDocumentation}
    {entry : String × List (List String)}
    (member : entry ∈ (decodeDocumentation blocks).entries) : entry.2 ≠ [] := by
  have found := Table.mem_entries_iff.mp member
  rw [get?_decodeDocumentation, nonempty?_eq_some_iff] at found
  exact found.2

/-- The blocks of a table, file after file. -/
def blocksOfTable (table : Table (List (List String))) : List SourceFileDocumentation :=
  table.entries.flatMap fun entry => entry.2.map fun lines => ⟨entry.1, lines⟩

theorem blocksOf_map_self (file : String) (items : List (List String)) :
    blocksOf file (items.map fun lines => ⟨file, lines⟩) = items := by
  simp [blocksOf, List.filter_map, Function.comp_def]

theorem blocksOf_map_of_ne {file other : String} (different : other ≠ file)
    (items : List (List String)) :
    blocksOf file (items.map fun lines => ⟨other, lines⟩) = [] := by
  simp [blocksOf, List.filter_map, Function.comp_def, different]

theorem blocksOf_blocksOfTable (file : String) (table : Table (List (List String))) :
    blocksOf file (blocksOfTable table) = (table.get? file).getD [] := by
  obtain ⟨entries, sorted⟩ := table
  unfold blocksOfTable Table.get?
  simp only
  induction entries with
  | nil => rfl
  | cons head rest ih =>
    obtain ⟨other, items⟩ := head
    have parts := List.pairwise_cons.mp sorted
    rw [List.flatMap_cons, blocksOf_append, ih parts.2]
    by_cases same : other = file
    · subst same
      rw [blocksOf_map_self, Table.find?_eq_none_of_lt parts.1]
      simp
    · rw [blocksOf_map_of_ne same]
      simp [same]

/-- A table that has blocks for every file that it mentions is what its blocks are grouped
to. -/
theorem decodeDocumentation_blocksOfTable {table : Table (List (List String))}
    (nonempty : ∀ entry ∈ table.entries, entry.2 ≠ []) :
    decodeDocumentation (blocksOfTable table) = table := by
  refine Table.ext_get? ?_
  intro file
  rw [get?_decodeDocumentation, blocksOf_blocksOfTable]
  cases found : table.get? file with
  | none => rfl
  | some items =>
    have items_ne := nonempty _ (Table.mem_entries_iff.mpr found)
    rw [Option.getD_some, nonempty?_eq_some_iff]
    exact ⟨rfl, items_ne⟩

end Wire

end WireTree
