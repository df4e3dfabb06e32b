import Mathlib.Data.List.Nodup
import WireTree.Declaration.Wire
import WireTree.Format.Shared
import WireTree.Proofs.Conformance.Reading

/-!
# The kinds of unions as texts

Every text is a kind, and its text is kept to the character; it is a known kind exactly if it is the
name of one.
Main statement: `verbatim`, for the kinds of every union whose names are distinct.
-/

namespace WireTree

variable {κ : Type}

/-- The values of a type are all listed, and their names tell them apart. -/
class Distinct (κ : Type) [Named κ] : Prop where
  complete : ∀ kind : κ, kind ∈ Named.all
  distinct : ((Named.all (α := κ)).map Named.name).Nodup

namespace Wire

instance : Distinct CharacteristicsTag := ⟨fun kind => by cases kind <;> decide, by decide⟩

instance : Distinct TypeTag := ⟨fun kind => by cases kind <;> decide, by decide⟩

instance : Distinct ExpressionTag := ⟨fun kind => by cases kind <;> decide, by decide +kernel⟩

instance : Distinct IdentifierTag := ⟨fun kind => by cases kind <;> decide, by decide⟩

instance : Distinct LocalSymbolTag := ⟨fun kind => by cases kind <;> decide, by decide⟩

instance : Distinct NamespaceElementTag := ⟨fun kind => by cases kind <;> decide, by decide⟩

end Wire

theorem Named.name_injective [Named κ] [Distinct κ] :
    Function.Injective (Named.name : κ → String) := by
  intro a b same
  exact List.inj_on_of_nodup_map Distinct.distinct (Distinct.complete a) (Distinct.complete b) same

theorem Named.ofName?_eq_some_iff [Named κ] [Distinct κ] {text : String} {kind : κ} :
    ofName? text = some kind ↔ name kind = text := by
  constructor
  · intro found
    simpa using List.find?_some found
  · rintro rfl
    cases found : ofName? (α := κ) (name kind) with
    | none => simpa using List.find?_eq_none.mp found kind (Distinct.complete kind)
    | some other =>
      have same : name other = name kind := by simpa using List.find?_some found
      rw [name_injective same]

namespace Discriminator

variable [UnionTag κ]

theorem ofText_eq_known_iff [Distinct κ] {text : String} {kind : κ} :
    ofText text = known kind ↔ Named.name kind = text := by
  rw [← Named.ofName?_eq_some_iff]
  unfold ofText
  cases Named.ofName? (α := κ) text <;> simp

theorem ofText_eq_unrecognized_iff [Distinct κ] {text other : String} :
    (ofText text : Discriminator κ) = unrecognized other ↔
      text = other ∧ ∀ kind : κ, Named.name kind ≠ text := by
  unfold ofText
  cases found : Named.ofName? (α := κ) text with
  | some kind =>
    have named := Named.ofName?_eq_some_iff.mp found
    refine iff_of_false nofun ?_
    rintro ⟨-, unknown⟩
    exact unknown kind named
  | none =>
    have unknown : ∀ kind : κ, Named.name kind ≠ text := by
      intro kind named
      rw [Named.ofName?_eq_some_iff.mpr named] at found
      cases found
    simp [unknown]

theorem ofText_injective : Function.Injective (ofText : String → Discriminator κ) :=
  Function.LeftInverse.injective (g := display) display_ofText

end Discriminator

/-- A kind was read from a text. -/
theorem Format.exists_of_read_discriminator {ι : Type} {g : Grammar ι} {depth : Nat} {feed : Feed}
    [UnionTag κ] {o : Json.Outline} {kind : Discriminator κ}
    (read : g.read depth feed (discriminator κ) o = .ok kind) :
    ∃ text, o = .text (some text) ∧ .ofText text = kind := by
  have read : Schema.readText Discriminator.ofText o = .ok kind := by
    cases depth <;> exact read
  cases o with
  | text content =>
    cases content with
    | some text =>
      cases read
      exact ⟨text, rfl, rfl⟩
    | none => cases read
  | _ => simp [Schema.readText] at read

/-- The texts that are given for the kind of a union are kept: each is read, as a kind that is
displayed as the text; it is known exactly if it is the name of a kind; and different texts are
different kinds. -/
structure Verbatim (κ : Type) [UnionTag κ] : Prop where
  read {ι : Type} (g : Grammar ι) (depth : Nat) (feed : Feed) (text : String) :
    g.read depth feed (Format.discriminator κ) (.text (some text)) =
      .ok (Discriminator.ofText text)
  display (text : String) : (Discriminator.ofText text : Discriminator κ).display = text
  known_iff (text : String) (kind : κ) :
    Discriminator.ofText text = .known kind ↔ Named.name kind = text
  injective : Function.Injective (Discriminator.ofText : String → Discriminator κ)

theorem verbatim [UnionTag κ] [Distinct κ] : Verbatim κ where
  read g depth feed text := by cases depth <;> rfl
  display := Discriminator.display_ofText
  known_iff _ _ := Discriminator.ofText_eq_known_iff
  injective := Discriminator.ofText_injective

/-- A name in small letters is not known. -/
example : (Discriminator.ofText "arraytype" : Discriminator Wire.TypeTag) =
    .unrecognized "arraytype" := by
  cbv

end WireTree
