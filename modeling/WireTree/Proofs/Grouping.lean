import Mathlib.Data.List.Induction
import WireTree.Compilation.Decode
import WireTree.Proofs.Documentation

/-!
# Grouping documentation, whole

The table of documentation does not depend on the order in which an unordered map gives the groups;
no block is lost, and none is there twice.
Main statement: `decodeDocumentation_groups`.
-/

namespace WireTree.Wire

variable {block : SourceFileDocumentation} {blocks blocks' : List SourceFileDocumentation}
  {file : String}

/-! ## The blocks of one file -/

theorem nonempty?_append_singleton {α : Type} (items : List α) (a : α) :
    nonempty? (items ++ [a]) = some (items ++ [a]) :=
  nonempty?_eq_some_iff.mpr ⟨rfl, by simp⟩

theorem blocksOf_append_self (block : SourceFileDocumentation)
    (blocks : List SourceFileDocumentation) :
    blocksOf block.fileName (blocks ++ [block]) =
      blocksOf block.fileName blocks ++ [block.documentationItems] := by
  rw [blocksOf_append, blocksOf_cons_self]
  rfl

theorem blocksOf_append_of_ne (different : block.fileName ≠ file)
    (blocks : List SourceFileDocumentation) :
    blocksOf file (blocks ++ [block]) = blocksOf file blocks := by
  rw [blocksOf_append, blocksOf_cons_of_ne different]
  exact List.append_nil _

theorem blocksOf_ne_nil_iff : blocksOf file blocks ≠ [] ↔ file ∈ blocks.map (·.fileName) := by
  simp [blocksOf]

/-- Neighbours from different files may change places. -/
theorem blocksOf_swap {first second : SourceFileDocumentation}
    (different : first.fileName ≠ second.fileName) (file : String)
    (after : List SourceFileDocumentation) :
    blocksOf file (second :: first :: after) = blocksOf file (first :: second :: after) := by
  unfold blocksOf
  by_cases own : first.fileName = file
  · have other : second.fileName ≠ file := fun same => different (own.trans same.symm)
    simp [own, other]
  · simp [List.filter_cons, own]

/-! ## Groups in no order -/

namespace Groups

variable {groups groups' : Groups}

/-- Groups of blocks: each file has one, which holds its blocks. -/
structure Exact (blocks : List SourceFileDocumentation) (groups : Groups) : Prop where
  distinct : (groups.map (·.1)).Nodup
  mem_iff : ∀ file items, (file, items) ∈ groups ↔ nonempty? (blocksOf file blocks) = some items

/-- Groups that are exact are so in any order. -/
theorem Exact.perm (exact : Exact blocks groups) (order : groups'.Perm groups) :
    Exact blocks groups' where
  distinct := (order.map _).nodup_iff.mpr exact.distinct
  mem_iff file items := order.mem_iff.trans (exact.mem_iff file items)

/-- A group at the head, and the groups of the other files. -/
theorem exact_cons {file : String} {items : List (List String)} {others : Groups}
    (alone : file ∉ others.map (·.1)) (distinct : (others.map (·.1)).Nodup)
    (own : nonempty? (blocksOf file blocks) = some items)
    (rest : ∀ other ≠ file, ∀ items,
      (other, items) ∈ others ↔ nonempty? (blocksOf other blocks) = some items) :
    Exact blocks ((file, items) :: others) where
  distinct := by
    rw [List.map_cons]
    exact List.nodup_cons.mpr ⟨alone, distinct⟩
  mem_iff other items' := by
    by_cases same : other = file
    · subst same
      have absent : (other, items') ∉ others := fun member =>
        alone (List.mem_map.mpr ⟨_, member, rfl⟩)
      rw [own]
      simp [absent, eq_comm]
    · rw [← rest other same items']
      simp [same]

theorem Put.exact (put : Put block groups groups') (exact : Exact blocks groups) :
    Exact (blocks ++ [block]) groups' := by
  cases put with
  | first absent made =>
    refine Exact.perm (exact_cons absent exact.distinct ?_ ?_) made
    · have none_before : blocksOf block.fileName blocks = [] := by
        by_contra some_before
        have found := nonempty?_eq_some_iff.mpr ⟨rfl, some_before⟩
        exact absent (List.mem_map.mpr ⟨_, (exact.mem_iff _ _).mpr found, rfl⟩)
      rw [blocksOf_append_self, none_before]
      rfl
    · intro other different items
      rw [blocksOf_append_of_ne (Ne.symm different)]
      exact exact.mem_iff other items
  | @more items others found made =>
    have before := exact.perm found.symm
    obtain ⟨alone, distinct⟩ := List.nodup_cons.mp before.distinct
    have own := (before.mem_iff _ _).mp List.mem_cons_self
    refine Exact.perm (exact_cons alone distinct ?_ ?_) made
    · rw [blocksOf_append_self, (nonempty?_eq_some_iff.mp own).1]
      exact nonempty?_append_singleton _ _
    · intro other different items'
      rw [blocksOf_append_of_ne (Ne.symm different), ← before.mem_iff other items']
      simp [different]

theorem Grouped.exact (grouped : Grouped blocks groups) : Exact blocks groups := by
  induction grouped with
  | none => exact ⟨List.nodup_nil, fun _ _ => iff_of_false nofun nofun⟩
  | put _ put ih => exact put.exact ih

/-- Any blocks can be grouped. -/
theorem exists_grouped (blocks : List SourceFileDocumentation) :
    ∃ groups, Grouped blocks groups := by
  induction blocks using List.reverseRecOn with
  | nil => exact ⟨[], .none⟩
  | append_singleton blocks block ih =>
    obtain ⟨groups, grouped⟩ := ih
    by_cases absent : block.fileName ∈ groups.map (·.1)
    · obtain ⟨⟨_, items⟩, member, rfl⟩ := List.mem_map.mp absent
      exact ⟨_, .put grouped (.more (List.perm_cons_erase member) (.refl _))⟩
    · exact ⟨_, .put grouped (.first absent (.refl _))⟩

/-- The table of the groups is that of the blocks, in whichever order the groups are given. -/
theorem Grouped.ofList_eq (grouped : Grouped blocks groups) :
    Table.ofList groups = decodeDocumentation blocks := by
  have exact := grouped.exact
  refine Table.ext_get? fun file => Option.ext fun items => ?_
  rw [Table.get?_ofList_eq_some_iff exact.distinct, get?_decodeDocumentation]
  exact exact.mem_iff file items

end Groups

/-! ## The table -/

/-- A table lists the files that were documented. -/
theorem mem_keys_decodeDocumentation :
    file ∈ (decodeDocumentation blocks).keys ↔ file ∈ blocks.map (·.fileName) := by
  rw [Table.mem_keys_iff, get?_decodeDocumentation, ← blocksOf_ne_nil_iff]
  cases blocksOf file blocks <;> simp [nonempty?]

theorem count_eq_count_blocksOf (block : SourceFileDocumentation)
    (blocks : List SourceFileDocumentation) :
    blocks.count block = (blocksOf block.fileName blocks).count block.documentationItems := by
  induction blocks with
  | nil => rfl
  | cons first blocks ih =>
    by_cases same : first.fileName = block.fileName
    · have head : (first == block) = (first.documentationItems == block.documentationItems) := by
        cases first
        cases block
        simp_all
      rw [← same, blocksOf_cons_self, same, List.count_cons, List.count_cons, ih, head]
    · have different : first ≠ block := fun equal => same (congrArg _ equal)
      rw [blocksOf_cons_of_ne same, List.count_cons_of_ne different, ih]

/-- Lists with the same blocks for each file have the same blocks. -/
theorem perm_of_blocksOf_eq (same : ∀ file, blocksOf file blocks = blocksOf file blocks') :
    blocks.Perm blocks' := by
  refine List.perm_iff_count.mpr fun block => ?_
  rw [count_eq_count_blocksOf, count_eq_count_blocksOf, same]

/-- No block is lost, and none is there twice. -/
theorem blocksOfTable_decodeDocumentation_perm (blocks : List SourceFileDocumentation) :
    (blocksOfTable (decodeDocumentation blocks)).Perm blocks := by
  refine perm_of_blocksOf_eq fun file => ?_
  rw [blocksOf_blocksOfTable, get?_decodeDocumentation]
  cases blocksOf file blocks <;> rfl

theorem merge_nonempty? {α : Type} (items more : List α) :
    (nonempty? items).merge (· ++ ·) (nonempty? more) = nonempty? (items ++ more) := by
  cases items with
  | nil => cases more <;> rfl
  | cons a items =>
    cases more with
    | nil => simp [nonempty?, Option.merge]
    | cons b more => rfl

/-- The table of documentation has the files that were documented, in ascending order, each with its
own blocks in their order; no block is lost or there twice. It does not depend on the order in which
an unordered map gives the groups. The table of two lists together has for each file what the first
has followed by what the second has. Two lists have one table exactly if they have the same blocks
for each file, as when neighbours from different files change places. -/
theorem decodeDocumentation_groups (blocks : List SourceFileDocumentation) :
    (∀ file, file ∈ (decodeDocumentation blocks).keys ↔ file ∈ blocks.map (·.fileName)) ∧
    (decodeDocumentation blocks).keys.Pairwise (· < ·) ∧
    (∀ file items, (decodeDocumentation blocks).get? file = some items ↔
      items = blocksOf file blocks ∧ items ≠ []) ∧
    (blocksOfTable (decodeDocumentation blocks)).Perm blocks ∧
    (∃ groups, Groups.Grouped blocks groups) ∧
    (∀ groups, Groups.Grouped blocks groups →
      Table.ofList groups = decodeDocumentation blocks) ∧
    (∀ more file, (decodeDocumentation (blocks ++ more)).get? file =
      ((decodeDocumentation blocks).get? file).merge (· ++ ·)
        ((decodeDocumentation more).get? file)) ∧
    (∀ other, decodeDocumentation blocks = decodeDocumentation other ↔
      ∀ file, blocksOf file blocks = blocksOf file other) ∧
    ∀ before first second after, blocks = before ++ first :: second :: after →
      first.fileName ≠ second.fileName →
        decodeDocumentation (before ++ second :: first :: after) = decodeDocumentation blocks := by
  refine ⟨fun _ => mem_keys_decodeDocumentation, Table.keys_ascend _, ?_,
    blocksOfTable_decodeDocumentation_perm blocks, Groups.exists_grouped blocks,
    fun _ grouped => grouped.ofList_eq, ?_, fun _ => decodeDocumentation_eq_iff, ?_⟩
  · intro file items
    rw [get?_decodeDocumentation, nonempty?_eq_some_iff, eq_comm]
  · intro more file
    rw [get?_decodeDocumentation, get?_decodeDocumentation, get?_decodeDocumentation,
      merge_nonempty?, blocksOf_append]
  · rintro before first second after rfl different
    refine decodeDocumentation_eq_iff.mpr fun file => ?_
    rw [blocksOf_append, blocksOf_append, blocksOf_swap different]

/-- An empty block of another file may stand before or after a block. -/
theorem decodeDocumentation_groups_two_files :
    let first : SourceFileDocumentation := ⟨"b.qs", ["first"]⟩
    let second : SourceFileDocumentation := ⟨"a.qs", []⟩
    first.fileName ≠ second.fileName ∧
      decodeDocumentation [second, first] = decodeDocumentation [first, second] := by
  intro first second
  have different : first.fileName ≠ second.fileName := by decide
  obtain ⟨-, -, -, -, -, -, -, -, swap⟩ := decodeDocumentation_groups [first, second]
  exact ⟨different, swap [] first second [] rfl different⟩

end WireTree.Wire
