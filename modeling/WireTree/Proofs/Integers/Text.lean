import WireTree.Proofs.Integers.Field
import WireTree.Proofs.Provenance.Basic

/-!
# Integers in a text

The literals without fraction and exponent are a sign, perhaps, and a run of digits of any length
without leading zeros; what such a literal denotes is what its digits denote.
Main statements: `Numeral.scan_eq_plain_iff` for literals, and `readText_position` for a text that
holds two of them.
-/

namespace WireTree

namespace Json

/-! ## Digits -/

theorem digit?_digitChar : ∀ d : Fin 10, digit? (Nat.digitChar d) = some d := by
  decide

theorem eq_digitChar {c : Char} {d : Fin 10} (digit : digit? c = some d) :
    c = Nat.digitChar d := by
  unfold digit? at digit
  split at digit
  · rename_i bounds
    have value := Option.some.inj digit
    have code : c = Char.ofNat (48 + d.val) := by
      rw [← value]
      show c = Char.ofNat (48 + (c.toNat - 48))
      rw [Nat.add_sub_cancel' bounds.1, Char.ofNat_toNat]
    have same : ∀ d : Fin 10, Char.ofNat (48 + d.val) = Nat.digitChar d := by decide
    rw [code, same]
  · cases digit

/-- The characters of digits. -/
def digitChars (ds : List (Fin 10)) : List Char := ds.map fun d => Nat.digitChar d

theorem digits_digitChars_append (ds : List (Fin 10)) {more : List Char}
    (ends : ∀ c ∈ more.head?, digit? c = none) :
    digits (digitChars ds ++ more) = (ds, more) := by
  induction ds with
  | nil =>
    cases more with
    | nil => rfl
    | cons c more =>
      have none := ends c rfl
      simp [digitChars, digits, none]
  | cons d ds ih =>
    show digits (Nat.digitChar d :: (digitChars ds ++ more)) = _
    rw [digits, digit?_digitChar, ih]

theorem eq_of_digits {text rest : List Char} {ds : List (Fin 10)}
    (found : digits text = (ds, rest)) : text = digitChars ds ++ rest := by
  induction text generalizing ds rest with
  | nil =>
    cases found
    rfl
  | cons c text ih =>
    rw [digits] at found
    cases digit : digit? c with
    | none =>
      rw [digit] at found
      cases found
      rfl
    | some d =>
      rw [digit] at found
      cases found
      rw [eq_digitChar digit]
      exact congrArg _ (ih rfl)

/-! ## Literals -/

namespace Numeral

/-- A literal's digits: at least one, and none after a zero at the front. -/
def WholeDigits (ds : List (Fin 10)) : Prop := ds ≠ [] ∧ (ds.head? = some 0 → ds = [0])

instance (ds : List (Fin 10)) : Decidable (WholeDigits ds) :=
  inferInstanceAs (Decidable (ds ≠ [] ∧ (ds.head? = some 0 → ds = [0])))

/-- The text of a literal without fraction and exponent. -/
def plainText (negative : Bool) (ds : List (Fin 10)) : List Char :=
  (if negative then ['-'] else []) ++ digitChars ds

/-- The literal without fraction and exponent of these digits. -/
def plain (negative : Bool) (ds : List (Fin 10)) : Numeral := ⟨negative, ofDigits ds, none, none⟩

/-- A text that does not go on with a literal. -/
def Ends (more : List Char) : Prop :=
  ∀ c ∈ more.head?, digit? c = none ∧ c ≠ '.' ∧ c ≠ 'e' ∧ c ≠ 'E'

theorem ends_cons_iff {c : Char} {more : List Char} :
    Ends (c :: more) ↔ digit? c = none ∧ c ≠ '.' ∧ c ≠ 'e' ∧ c ≠ 'E' := by
  simp [Ends]

instance : (more : List Char) → Decidable (Ends more)
  | [] => .isTrue nofun
  | _ :: _ => decidable_of_iff _ ends_cons_iff.symm

variable {ds : List (Fin 10)} {text more : List Char} {negative : Bool}

theorem scanWhole_digitChars (whole : WholeDigits ds) (ends : Ends more) :
    scanWhole (digitChars ds ++ more) = some (ofDigits ds, more) := by
  unfold scanWhole
  rw [digits_digitChars_append ds fun c first => (ends c first).1]
  split
  · rename_i same
    cases same
    exact absurd rfl whole.1
  · rename_i same
    cases same
    cases whole.2 rfl
  · rename_i same
    cases same
    rfl

theorem scanPlaces_of_ends (ends : Ends more) : scanPlaces more = some (none, more) := by
  unfold scanPlaces
  split
  · exact absurd rfl (ends '.' rfl).2.1
  · rfl

theorem scanExponent_of_ends (ends : Ends more) : scanExponent more = some (none, more) := by
  cases more with
  | nil => rfl
  | cons c more =>
    obtain ⟨-, -, noSmall, noCapital⟩ := ends c rfl
    simp [scanExponent, noSmall, noCapital]

theorem scanUnsigned_digitChars (whole : WholeDigits ds) (ends : Ends more) :
    scanUnsigned negative (digitChars ds ++ more) = some (plain negative ds, more) := by
  simp only [scanUnsigned, scanWhole_digitChars whole ends, scanPlaces_of_ends ends,
    scanExponent_of_ends ends, plain]

theorem scan_plainText_append (negative : Bool) (more : List Char) (whole : WholeDigits ds)
    (ends : Ends more) :
    scan (plainText negative ds ++ more) = some (plain negative ds, more) := by
  cases negative with
  | true => exact scanUnsigned_digitChars whole ends
  | false =>
    obtain ⟨d, ds, rfl⟩ := List.exists_cons_of_ne_nil whole.1
    have noMinus : ∀ d : Fin 10, Nat.digitChar d ≠ '-' := by decide
    show scan (Nat.digitChar d :: (digitChars ds ++ more)) = _
    unfold scan
    split
    · rename_i same
      exact absurd (List.cons.inj same).1 (noMinus d)
    · exact scanUnsigned_digitChars whole ends

theorem exists_of_scanWhole {whole : Nat} (scanned : scanWhole text = some (whole, more)) :
    ∃ ds, WholeDigits ds ∧ text = digitChars ds ++ more ∧ whole = ofDigits ds := by
  unfold scanWhole at scanned
  split at scanned
  · cases scanned
  · cases scanned
  · rename_i ds rest some noZeros found
    cases scanned
    refine ⟨ds, ⟨?_, ?_⟩, eq_of_digits found, rfl⟩
    · rintro rfl
      exact some rfl
    · intro zero
      cases ds with
      | nil => cases zero
      | cons d ds =>
        cases zero
        cases ds with
        | nil => rfl
        | cons d ds => exact (noZeros d ds rfl).elim

theorem eq_of_scanPlaces (scanned : scanPlaces text = some (none, more)) : text = more := by
  unfold scanPlaces at scanned
  split at scanned
  · split at scanned <;> cases scanned
  · cases scanned
    rfl

theorem scanExponentDigits_ne_none :
    scanExponentDigits negative text ≠ some (none, more) := by
  unfold scanExponentDigits
  split <;> exact nofun

theorem eq_of_scanExponent (scanned : scanExponent text = some (none, more)) : text = more := by
  unfold scanExponent at scanned
  split at scanned
  · cases scanned
    rfl
  · split at scanned
    · split at scanned <;> exact absurd scanned scanExponentDigits_ne_none
    · cases scanned
      rfl

theorem exists_of_scanUnsigned {n : Numeral} (isPlain : n.IsPlain)
    (scanned : scanUnsigned negative text = some (n, more)) :
    ∃ ds, WholeDigits ds ∧ text = digitChars ds ++ more ∧ n = plain negative ds := by
  unfold scanUnsigned at scanned
  split at scanned
  · cases scanned
  · rename_i whole afterWhole foundWhole
    split at scanned
    · cases scanned
    · rename_i places afterPlaces foundPlaces
      split at scanned
      · cases scanned
      · rename_i exponent afterExponent foundExponent
        cases scanned
        obtain ⟨rfl, rfl⟩ : places = none ∧ exponent = none := isPlain
        obtain ⟨ds, digits, same, rfl⟩ := exists_of_scanWhole foundWhole
        rw [same, eq_of_scanPlaces foundPlaces, eq_of_scanExponent foundExponent]
        exact ⟨ds, digits, rfl, rfl⟩

/-- The texts of literals without fraction and exponent. -/
theorem scan_eq_plain_iff {n : Numeral} :
    scan text = some (n, []) ∧ n.IsPlain ↔
      ∃ negative ds, WholeDigits ds ∧ text = plainText negative ds ∧ n = plain negative ds := by
  constructor
  · rintro ⟨scanned, isPlain⟩
    unfold scan at scanned
    split at scanned
    · obtain ⟨ds, digits, same, rfl⟩ := exists_of_scanUnsigned isPlain scanned
      rw [same, List.append_nil]
      exact ⟨true, ds, digits, rfl, rfl⟩
    · obtain ⟨ds, digits, same, rfl⟩ := exists_of_scanUnsigned isPlain scanned
      rw [same, List.append_nil]
      exact ⟨false, ds, digits, rfl, rfl⟩
  · rintro ⟨negative, ds, digits, rfl, rfl⟩
    have scanned := scan_plainText_append negative [] digits nofun
    rw [List.append_nil] at scanned
    exact ⟨scanned, rfl, rfl⟩

/-- A literal begins with a minus or a digit. -/
theorem head_of_scan {c : Char} {n : Numeral} (scanned : scan (c :: text) = some (n, more)) :
    c = '-' ∨ ∃ d, c = Nat.digitChar (d : Fin 10) := by
  have digit {negative : Bool} (scanned : scanUnsigned negative (c :: text) = some (n, more)) :
      ∃ d, c = Nat.digitChar (d : Fin 10) := by
    cases found : digit? c with
    | none => simp [scanUnsigned, scanWhole, digits, found] at scanned
    | some d => exact ⟨d, eq_digitChar found⟩
  unfold scan at scanned
  split at scanned
  · rename_i same
    cases same
    exact .inl rfl
  · exact .inr (digit scanned)

end Numeral

/-- A literal begins with a character that begins no other token. -/
theorem not_mem_of_scan {c : Char} {text more : List Char} {n : Numeral}
    (scanned : Numeral.scan (c :: text) = some (n, more)) :
    isBlank c = false ∧ c ∉ ['{', '}', '[', ']', ':', ',', '"', 'n', 't', 'f'] := by
  have digits : ∀ d : Fin 10, isBlank (Nat.digitChar d) = false ∧
      Nat.digitChar d ∉ ['{', '}', '[', ']', ':', ',', '"', 'n', 't', 'f'] := by decide
  rcases Numeral.head_of_scan scanned with rfl | ⟨d, rfl⟩
  · decide
  · exact digits d

theorem next_number {c : Char} {text more : List Char} {n : Numeral}
    (scanned : Numeral.scan (c :: text) = some (n, more)) :
    isBlank c = false ∧ next c text = (.number n, more) := by
  obtain ⟨solid, other⟩ := not_mem_of_scan scanned
  refine ⟨solid, ?_⟩
  simp only [List.mem_cons, List.not_mem_nil, not_or, or_false] at other
  simp [next, scanned, other]

/-- The tokens of a text that begins with a literal. -/
theorem scan_number {text more : List Char} {n : Numeral}
    (scanned : Numeral.scan text = some (n, more)) : scan text = .number n :: scan more := by
  cases text with
  | nil => cases scanned
  | cons c text =>
    obtain ⟨solid, first⟩ := next_number scanned
    rw [scan, if_neg (by simp [solid]), first]

end Json

/-! ## Texts -/

open Json (Outline)
open Json.Numeral (WholeDigits plainText plain)

variable {ι α : Type}

/-- A text that is a literal is read as the literal is. -/
theorem readText_number (g : Grammar ι) (schema : Schema g.Carrier α) {text : List Char}
    {n : Json.Numeral} (scanned : Json.Numeral.scan text = some (n, [])) :
    g.readText schema (String.ofList text) =
      g.read Grammar.maxDepth .text schema (.number n) := by
  refine Grammar.readText_of_done ?_
  rw [Json.scan_number scanned, Json.scan]
  rfl

/-- The text of a position in the form of an object. -/
def positionObject (line column : List Char) : List Char :=
  '{' :: "\"line\":".toList ++ (line ++ (",\"column\":".toList ++ (column ++ ['}'])))

/-- The text of a position in the form of an array. -/
def positionArray (line column : List Char) : List Char :=
  '[' :: (line ++ (',' :: (column ++ [']'])))

section Position

variable {ds ds' : List (Fin 10)} (negative negative' : Bool)

theorem scan_positionObject (line : WholeDigits ds) (column : WholeDigits ds') :
    Json.scan (positionObject (plainText negative ds) (plainText negative' ds')) =
      [.openObject, .text (some "line"), .colon, .number (plain negative ds), .comma,
        .text (some "column"), .colon, .number (plain negative' ds'), .closeObject] := by
  have head (rest : List Char) : Json.scan ('{' :: "\"line\":".toList ++ rest) =
      .openObject :: .text (some "line") :: .colon :: Json.scan rest := by
    simp [Json.scan, Json.next, Json.isBlank, Json.scanPieces, Json.joinPieces]
  have middle (rest : List Char) : Json.scan (",\"column\":".toList ++ rest) =
      .comma :: .text (some "column") :: .colon :: Json.scan rest := by
    simp [Json.scan, Json.next, Json.isBlank, Json.scanPieces, Json.joinPieces]
  have last : Json.scan ['}'] = [.closeObject] := by
    simp [Json.scan, Json.next, Json.isBlank]
  have comma (rest : List Char) : Json.Numeral.Ends (",\"column\":".toList ++ rest) := by
    rintro c ⟨⟩
    decide
  have first := Json.scan_number (Json.Numeral.scan_plainText_append negative _ line
    (comma (plainText negative' ds' ++ ['}'])))
  have second := Json.scan_number (Json.Numeral.scan_plainText_append negative' ['}'] column
    (by decide))
  rw [positionObject, head, first, middle, second, last]

theorem scan_positionArray (line : WholeDigits ds) (column : WholeDigits ds') :
    Json.scan (positionArray (plainText negative ds) (plainText negative' ds')) =
      [.openArray, .number (plain negative ds), .comma, .number (plain negative' ds'),
        .closeArray] := by
  have head (rest : List Char) : Json.scan ('[' :: rest) = .openArray :: Json.scan rest := by
    simp [Json.scan, Json.next, Json.isBlank]
  have middle (rest : List Char) : Json.scan (',' :: rest) = .comma :: Json.scan rest := by
    simp [Json.scan, Json.next, Json.isBlank]
  have last : Json.scan [']'] = [.closeArray] := by
    simp [Json.scan, Json.next, Json.isBlank]
  have comma (rest : List Char) : Json.Numeral.Ends (',' :: rest) := by
    rintro c ⟨⟩
    decide
  have first := Json.scan_number (Json.Numeral.scan_plainText_append negative _ line
    (comma (plainText negative' ds' ++ [']'])))
  have second := Json.scan_number (Json.Numeral.scan_plainText_append negative' [']'] column
    (by decide))
  rw [positionArray, head, first, middle, second, last]

theorem read_position_object (g : Grammar ι) (line column : Outline) :
    g.read 127 .text Format.position
        (.object [(some "line", line), (some "column", column)] true) = do
      let line ← g.read 126 .text Format.word line
      let column ← g.read 126 .text Format.word column
      return ⟨line, column⟩ := by
  show (_ <$> Fields.readObject (g.inside 126) .text _ _ true : Reading Position) = _
  simp only [Grammar.inside, Fields.readObject, Fields.readMembers, Fields.readMember, Format.required]
  cases g.read 126 .text Format.word line with
  | error why => rfl
  | ok a =>
    cases g.read 126 .text Format.word column with
    | error why => rfl
    | ok b => rfl

theorem read_position_array (g : Grammar ι) (line column : Outline) :
    g.read 127 .text Format.position (.array [line, column] true) = do
      let line ← g.read 126 .text Format.word line
      let column ← g.read 126 .text Format.word column
      return ⟨line, column⟩ := by
  show (_ <$> Fields.readArray (g.inside 126) .text _ _ _ true : Reading Position) = _
  simp only [Grammar.inside, Fields.readArray, Fields.readElements, Format.required]
  cases g.read 126 .text Format.word line with
  | error why => rfl
  | ok a =>
    cases g.read 126 .text Format.word column with
    | error why => rfl
    | ok b => rfl

/-- A position is read from its text, in either form, by reading its literals, the line first. -/
theorem readText_position (g : Grammar ι) (line : WholeDigits ds) (column : WholeDigits ds')
    {text : List Char}
    (spelled : text = positionObject (plainText negative ds) (plainText negative' ds') ∨
      text = positionArray (plainText negative ds) (plainText negative' ds')) :
    g.readText Format.position (String.ofList text) = do
      let line ← g.read 126 .text Format.word (.number (plain negative ds))
      let column ← g.read 126 .text Format.word (.number (plain negative' ds'))
      return ⟨line, column⟩ := by
  rcases spelled with rfl | rfl
  · refine (Grammar.readText_of_done ?_).trans (read_position_object g _ _)
    rw [scan_positionObject negative negative' line column]
    rfl
  · refine (Grammar.readText_of_done ?_).trans (read_position_array g _ _)
    rw [scan_positionArray negative negative' line column]
    rfl

end Position

end WireTree
