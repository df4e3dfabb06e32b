import WireTree.Format.Wire
import WireTree.Proofs.Conformance.Nesting
import WireTree.Proofs.Places.Acceptance
import WireTree.Proofs.RoundTrip

/-!
# What the reader of the wire accepts

The reader of the wire accepts just the values that conform to the schemas of the wire.
Main statement: `Wire.Format.readDocument_exact`.
-/

namespace WireTree

open Json (Outline)

variable {ι α : Type} {g : Grammar ι}

/-- A document that holds a JSON value is read if the value conforms, and as what it conforms as. -/
theorem Grammar.readDocument_eq_ok_iff {schema : Schema g.Carrier α} {json : Json} {a : α} :
    g.readDocument schema json.document = .ok a ↔ g.Conforms maxDepth .text schema json a := by
  rw [readDocument_document, read_eq_ok_iff]

/-- Any text will do where a text is wanted. -/
theorem texts_accepted_alike {make : String → α} (first second : String) :
    Alike BothAccepted g (.text make) (.text (some first)) (.text (some second)) := by
  refine ⟨iff_of_false nofun nofun, ?_⟩
  intro depth feed
  cases depth <;> exact iff_of_true ⟨make first, rfl⟩ ⟨make second, rfl⟩

namespace Wire.Format

/-- Reading a document gives the value that its JSON value conforms to the schema as, and gives
none if it does not conform. How many containers may be opened matters for what conforms only
beyond the limit of the reader. The text of a kind, wherever one stands, does not matter for whether
a document is read. -/
theorem readDocument_exact (form : Form α) :
    (∀ json a, grammar.readDocument form json.document = .ok a ↔
      grammar.Conforms Grammar.maxDepth .text form json a) ∧
    (∀ json : Json, json.nesting ≤ Grammar.maxDepth → ∀ a,
      grammar.Conforms Grammar.maxDepth .text form json a ↔
        ∃ room, grammar.Conforms room .text form json a) ∧
    ∀ (κ : Type) [UnionTag κ] (gap : Outline → Outline),
      Place grammar form (WireTree.Format.discriminator κ) gap →
        ∀ (kind kind' : String) (trailing : Bool),
          (∃ a, grammar.readDocument form ⟨gap (.text (some kind)), trailing⟩ = .ok a) ↔
            ∃ a, grammar.readDocument form ⟨gap (.text (some kind')), trailing⟩ = .ok a := by
  refine ⟨fun json a => Grammar.readDocument_eq_ok_iff, ?_, ?_⟩
  · intro json nested a
    exact Grammar.conforms_iff_of_nesting_le nested
  · intro κ _ gap place kind kind' trailing
    have alike := place.accepted_alike (texts_accepted_alike kind kind')
    have read := alike.read Grammar.maxDepth .text
    cases trailing with
    | true => simp [Grammar.readDocument, bind_eq_ok_iff]
    | false => simpa [Grammar.readDocument, BothAccepted, Accepted] using read

/-- A local symbol conforms, and is read under an unknown kind, too. -/
theorem readDocument_exact_localSymbol :
    let json : Json := .object [("kind", .text "ValidName"), ("name", .text "q")]
    let gap (o : Outline) : Outline :=
      .object [(some "kind", o), (some "name", .text (some "q"))] true
    json.nesting ≤ Grammar.maxDepth ∧
      Place grammar localSymbol (WireTree.Format.discriminator LocalSymbolTag) gap ∧
      (∃ room, grammar.Conforms room .text localSymbol json
        { kind := .ofText "ValidName", name := some "q" }) ∧
      ∃ a, grammar.readDocument localSymbol ⟨gap (.text (some "Quantum")), false⟩ = .ok a := by
  intro json gap
  have shallow : json.nesting ≤ Grammar.maxDepth := by decide
  have place : Place grammar localSymbol (WireTree.Format.discriminator LocalSymbolTag) gap :=
    .inside (.member .head [] [(some "name", .text (some "q"))] true) .here
  have read : grammar.readDocument localSymbol json.document =
      .ok { kind := .ofText "ValidName", name := some "q" } := rfl
  obtain ⟨conforms, room, kind⟩ := readDocument_exact localSymbol
  exact ⟨shallow, place, (room json shallow _).mp ((conforms json _).mp read),
    (kind _ gap place "ValidName" "Quantum" false).mp ⟨_, read⟩⟩

end Wire.Format

end WireTree
