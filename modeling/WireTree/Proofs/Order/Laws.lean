import WireTree.Proofs.Decodes
import WireTree.Proofs.Grouping
import WireTree.Proofs.Order.Text
import WireTree.Proofs.Provenance.Written
import WireTree.Proofs.Spelling.Tree

/-!
# The order of names, positions and files

Names and positions are compared by two parts, one after the other; the files in the documentation
of a namespace stand in the order of their names, whether the namespace was decoded or read.
Main statement: `ordering_laws`.
-/

namespace WireTree

variable {α β γ : Type}

/-! ## Comparisons by two parts -/

/-- A comparison is that of a total order, and finds equal only what is the same. -/
structure OrdersTotally (cmp : α → α → Ordering) : Prop where
  reflexive : ∀ a, (cmp a a).isLE
  antisymmetric : ∀ a b, (cmp a b).isLE → (cmp b a).isLE → a = b
  transitive : ∀ a b c, (cmp a b).isLE → (cmp b c).isLE → (cmp a c).isLE
  total : ∀ a b, (cmp a b).isLE ∨ (cmp b a).isLE
  eq_iff : ∀ a b, cmp a b = .eq ↔ a = b
  swap : ∀ a b, cmp a b = (cmp b a).swap

theorem ordersTotally_of_lawful (cmp : α → α → Ordering) [Std.TransCmp cmp]
    [Std.LawfulEqCmp cmp] : OrdersTotally cmp where
  reflexive _ := Std.ReflCmp.isLE_rfl
  antisymmetric a b before after :=
    Std.LawfulEqCmp.eq_of_compare (Std.OrientedCmp.isLE_antisymm before after)
  transitive _ _ _ first second := Std.TransCmp.isLE_trans first second
  total a b := by
    have swap : cmp a b = (cmp b a).swap := Std.OrientedCmp.eq_swap
    rw [swap]
    cases cmp b a <;> simp
  eq_iff _ _ := Std.LawfulEqCmp.compare_eq_iff_eq
  swap _ _ := Std.OrientedCmp.eq_swap

section TwoParts

variable [Ord β] [Ord γ] [Std.LawfulEqOrd β] {f : α → β} {g : α → γ}

/-- What is determined by two parts is ordered by the first and then by the second. -/
theorem ordersTotally_lex [Std.TransOrd β] [Std.TransOrd γ] [Std.LawfulEqOrd γ]
    (determined : ∀ a b, f a = f b → g a = g b → a = b) :
    OrdersTotally (compareLex (compareOn f) (compareOn g)) := by
  have lawful : Std.LawfulEqCmp (compareLex (compareOn f) (compareOn g)) := by
    constructor
    intro a b equal
    obtain ⟨first, second⟩ := Ordering.then_eq_eq.mp equal
    apply determined
    · exact Std.LawfulEqCmp.eq_of_compare first
    · exact Std.LawfulEqCmp.eq_of_compare second
  exact ordersTotally_of_lawful _

theorem lex_eq_lt_iff {a b : α} :
    compareLex (compareOn f) (compareOn g) a b = .lt ↔
      compare (f a) (f b) = .lt ∨ f a = f b ∧ compare (g a) (g b) = .lt := by
  rw [compareLex, Ordering.then_eq_lt]
  simp only [compareOn, Std.LawfulEqCmp.compare_eq_iff_eq]

end TwoParts

theorem QualifiedName.ordersTotally : OrdersTotally QualifiedName.compare := by
  apply ordersTotally_lex (f := QualifiedName.scope) (g := QualifiedName.name)
  rintro ⟨scope, name⟩ ⟨_, _⟩ rfl rfl
  rfl

/-- Names are compared by the bytes of their namespaces, and of the names themselves if the
namespaces are equal. -/
theorem QualifiedName.compare_eq_lt_iff {a b : QualifiedName} :
    a.compare b = .lt ↔
      Precedes (utf8 a.scope) (utf8 b.scope) ∨
        a.scope = b.scope ∧ Precedes (utf8 a.name) (utf8 b.name) := by
  rw [← compare_eq_lt_iff_utf8, ← compare_eq_lt_iff_utf8]
  exact lex_eq_lt_iff (f := QualifiedName.scope) (g := QualifiedName.name)

theorem Position.ordersTotally : OrdersTotally Position.compare := by
  apply ordersTotally_lex (f := Position.line) (g := Position.column)
  rintro ⟨line, column⟩ ⟨_, _⟩ rfl rfl
  rfl

/-- Positions are compared by their lines, and by their columns in one line. -/
theorem Position.compare_eq_lt_iff {p q : Position} :
    p.compare q = .lt ↔ p.line < q.line ∨ p.line = q.line ∧ p.column < q.column := by
  rw [← Std.compare_eq_lt, ← Std.compare_eq_lt]
  exact lex_eq_lt_iff (f := Position.line) (g := Position.column)

/-! ## The files of a documentation -/

/-- The table of pairs has for each key the last value that they give for it. -/
theorem Table.get?_ofList_eq_getLast? (pairs : List (String × α)) (key : String) :
    (ofList pairs).get? key = (valuesOf pairs key).getLast? := by
  rw [get?_ofList, valuesOf, List.getLast?_map, List.getLast?_filter]
  rfl

/-- The files of a table ascend by the bytes of their names. -/
theorem Table.keys_precede (t : Table α) :
    t.keys.Pairwise fun key key' => Precedes (utf8 key) (utf8 key') :=
  t.keys_ascend.imp lt_iff_precedes_utf8.mp

namespace TreeFormat

variable {depth : Nat} {feed : Feed} {o : Json.Outline} {ns : Namespace}

/-- The documentation of a namespace that was read is given by pairs, and is their table. -/
theorem exists_pairs_of_read (read : grammar.read depth feed «namespace» o = .ok ns) :
    ∃ pairs, Gives ["name", "elements", "documentation"] "documentation" o
        (pairsToJson pairs).outline ∧ ns.documentation = Table.ofList pairs := by
  obtain ⟨inner, values, -, rfl, -, -, taken, -⟩ := Grammar.exists_of_read_record (by decide) read
  obtain ⟨part, gives, read⟩ := taken.required
  have blocks : grammar.OneSpelling (Format.list (Format.list Format.string)) (.ofList .ofTexts) :=
    Grammar.oneSpelling_list (Grammar.oneSpelling_list Grammar.oneSpelling_string)
  obtain ⟨pairs, rfl, -, made⟩ := (Grammar.read_table_iff blocks).mp read
  exact ⟨pairs, gives, made.symm⟩

end TreeFormat

/-! ## The laws -/

/-- Names and positions are ordered totally, names by their namespaces first, positions by their
lines first. Texts are ordered by their bytes, a beginning of a text before the text, which is the
order of their code points. The files of every documentation stand in this order: those that were
documented, if a namespace was decoded; if it was read, those of the pairs in the text, each with
the last value that is given for it, and several pairs may be about one file. -/
theorem ordering_laws :
    OrdersTotally QualifiedName.compare ∧
    (∀ a b : QualifiedName, a.compare b = .lt ↔
      Precedes (utf8 a.scope) (utf8 b.scope) ∨
        a.scope = b.scope ∧ Precedes (utf8 a.name) (utf8 b.name)) ∧
    (∀ s t, Precedes (utf8 s) (utf8 t) ↔ Precedes (codePoints s) (codePoints t)) ∧
    OrdersTotally Position.compare ∧
    (∀ p q : Position, p.compare q = .lt ↔
      p.line < q.line ∨ p.line = q.line ∧ p.column < q.column) ∧
    (∀ ns : Namespace, ns.documentation.keys.Pairwise fun file file' =>
      Precedes (utf8 file) (utf8 file')) ∧
    (∀ (ns : Wire.Namespace) tree, ns.decode = .ok tree →
      ∀ file, file ∈ tree.documentation.keys ↔ file ∈ ns.documentation.map (·.fileName)) ∧
    (∀ depth feed o ns, TreeFormat.grammar.read depth feed TreeFormat.«namespace» o = .ok ns →
      ∃ pairs, Gives ["name", "elements", "documentation"] "documentation" o
          (TreeFormat.pairsToJson pairs).outline ∧
        ∀ file, ns.documentation.get? file = (valuesOf pairs file).getLast?) ∧
    ∀ name elements pairs, (∀ element ∈ elements, NamespaceElement.WithoutDoubles element) →
      ∃ documentation,
        (∀ depth, (TreeFormat.namespaceToJson name elements pairs).nesting ≤ depth →
          TreeFormat.grammar.read depth .text TreeFormat.«namespace»
            (TreeFormat.namespaceToJson name elements pairs).outline =
              .ok ⟨name, elements, documentation⟩) ∧
        ∀ file, documentation.get? file = (valuesOf pairs file).getLast? := by
  refine ⟨QualifiedName.ordersTotally, fun _ _ => QualifiedName.compare_eq_lt_iff, ?_,
    Position.ordersTotally, fun _ _ => Position.compare_eq_lt_iff,
    fun ns => ns.documentation.keys_precede, ?_, ?_, ?_⟩
  · intro s t
    rw [← lt_iff_precedes_utf8, lt_iff_precedes_codePoints]
  · intro ns tree decoded file
    have decodes := Wire.Namespace.decode_eq_ok_iff.mp decoded
    rw [← decodes.documentation]
    exact Wire.mem_keys_decodeDocumentation
  · intro depth feed o ns read
    obtain ⟨pairs, gives, made⟩ := TreeFormat.exists_pairs_of_read read
    refine ⟨pairs, gives, ?_⟩
    intro file
    rw [made, Table.get?_ofList_eq_getLast?]
  · intro name elements pairs withoutDoubles
    refine ⟨Table.ofList pairs, ?_, fun file => Table.get?_ofList_eq_getLast? pairs file⟩
    intro depth room
    have spelled := TreeFormat.spells_namespace_pairs name withoutDoubles pairs depth
    rwa [limited, if_pos room] at spelled

/-- A file that is named twice has what is given for it last, and a file that was documented is in
what is decoded. -/
theorem ordering_laws_two_files :
    let json := TreeFormat.namespaceToJson "N" []
      [("b.qs", []), ("a.qs", [["first"]]), ("b.qs", [["second"]])]
    let documented : Wire.Namespace := ⟨"N", [], [⟨"b.qs", ["second"]⟩, ⟨"a.qs", ["first"]⟩]⟩
    (∃ documentation pairs,
      TreeFormat.grammar.read 4 .text TreeFormat.«namespace» json.outline =
          .ok ⟨"N", [], documentation⟩ ∧
        documentation.get? "a.qs" = some [["first"]] ∧
        documentation.get? "b.qs" = some [["second"]] ∧
        Gives ["name", "elements", "documentation"] "documentation" json.outline
          (TreeFormat.pairsToJson pairs).outline) ∧
      ∃ tree, documented.decode = .ok tree ∧ "a.qs" ∈ tree.documentation.keys := by
  intro json documented
  obtain ⟨-, -, -, -, -, -, decoded, given, repeated⟩ := ordering_laws
  constructor
  · obtain ⟨documentation, read, found⟩ := repeated "N" []
      [("b.qs", []), ("a.qs", [["first"]]), ("b.qs", [["second"]])] nofun
    replace read := read 4 (by decide)
    obtain ⟨pairs, gives, -⟩ := given _ _ _ _ read
    refine ⟨documentation, pairs, read, ?_, ?_, gives⟩
    · rw [found]
      rfl
    · rw [found]
      rfl
  · refine ⟨_, rfl, ?_⟩
    rw [decoded documented _ rfl]
    decide

end WireTree
