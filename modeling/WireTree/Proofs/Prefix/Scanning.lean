import Mathlib.Tactic.SplitIfs
import WireTree.Json.Token

/-!
# The tokens of a text and of what follows it

A text that begins with a blank cannot become part of the token before it; so the tokens of both are
those of the first and then those of the second, unless the first breaks off in a token, as a string
without its closing quote does.
Main statement: `scan_append`.
-/

namespace WireTree.Json

/-- A text that becomes no part of the token before it: it is empty or begins with a blank. -/
def Apart (more : List Char) : Prop :=
  ∀ c ∈ more.head?, isBlank c = true

theorem apart_cons_iff {c : Char} {more : List Char} :
    Apart (c :: more) ↔ isBlank c = true := by
  simp [Apart]

instance : (more : List Char) → Decidable (Apart more)
  | [] => .isTrue nofun
  | _ :: _ => decidable_of_iff _ apart_cons_iff.symm

/-- The four blanks. -/
theorem isBlank_iff {c : Char} :
    isBlank c = true ↔ c = ' ' ∨ c = '\t' ∨ c = '\n' ∨ c = '\r' := by
  simp [isBlank, or_assoc]

theorem digit?_of_isBlank {c : Char} (blank : isBlank c = true) : digit? c = none := by
  rcases isBlank_iff.mp blank with rfl | rfl | rfl | rfl <;> decide

/-- A text that stands apart does not begin with a character that is no blank. -/
theorem Apart.ne_cons {more : List Char} (apart : Apart more) {c : Char}
    (solid : isBlank c = false) (rest : List Char) : more ≠ c :: rest := by
  rintro rfl
  rw [apart_cons_iff.mp apart] at solid
  cases solid

variable {text rest more : List Char}

theorem digits_append (apart : Apart more) :
    digits (text ++ more) = ((digits text).1, (digits text).2 ++ more) := by
  induction text with
  | nil =>
    cases more with
    | nil => rfl
    | cons c more =>
      have none := digit?_of_isBlank (apart_cons_iff.mp apart)
      simp [digits, none]
  | cons c text ih =>
    rw [List.cons_append, digits, digits]
    cases digit? c with
    | none => rfl
    | some d => simp [ih]

/-! ## Numbers

Each part of a literal that ends before the end of the text ends there too if more follows. -/

namespace Numeral

theorem scanWhole_append (apart : Apart more) {whole : Nat}
    (scanned : scanWhole text = some (whole, rest)) :
    scanWhole (text ++ more) = some (whole, rest ++ more) := by
  unfold scanWhole at scanned ⊢
  rw [digits_append apart]
  generalize digits text = found at scanned ⊢
  obtain ⟨ds, after⟩ := found
  cases ds with
  | nil => cases scanned
  | cons d ds =>
    split at scanned
    · cases scanned
    · cases scanned
    · rename_i severalZeros same
      cases same
      cases scanned
      split
      · rename_i same
        cases same
      · rename_i same
        cases same
        exact (severalZeros _ _ rfl).elim
      · rename_i same
        cases same
        rfl

theorem scanPlaces_append (apart : Apart more) {places : Option (List (Fin 10))}
    (scanned : scanPlaces text = some (places, rest)) :
    scanPlaces (text ++ more) = some (places, rest ++ more) := by
  unfold scanPlaces at scanned
  split at scanned
  · rename_i tail
    rw [List.cons_append, scanPlaces, digits_append apart]
    generalize digits tail = found at scanned ⊢
    obtain ⟨ds, after⟩ := found
    cases ds with
    | nil => cases scanned
    | cons d ds =>
      cases scanned
      rfl
  · rename_i noPoint
    cases scanned
    cases text with
    | nil =>
      rw [List.nil_append]
      unfold scanPlaces
      split
      · exact absurd rfl (apart.ne_cons (by decide) _)
      · rfl
    | cons c text =>
      rw [List.cons_append]
      unfold scanPlaces
      split
      · rename_i same
        cases same
        exact absurd rfl (noPoint _)
      · rfl

theorem scanExponentDigits_append (apart : Apart more) {negative : Bool} {exponent : Option Int}
    (scanned : scanExponentDigits negative text = some (exponent, rest)) :
    scanExponentDigits negative (text ++ more) = some (exponent, rest ++ more) := by
  unfold scanExponentDigits at scanned ⊢
  rw [digits_append apart]
  generalize digits text = found at scanned ⊢
  obtain ⟨ds, after⟩ := found
  cases ds with
  | nil => cases scanned
  | cons d ds =>
    cases scanned
    rfl

theorem scanExponent_append (apart : Apart more) {exponent : Option Int}
    (scanned : scanExponent text = some (exponent, rest)) :
    scanExponent (text ++ more) = some (exponent, rest ++ more) := by
  cases text with
  | nil =>
    cases scanned
    cases more with
    | nil => rfl
    | cons c more =>
      have noMark : ¬(c = 'e' ∨ c = 'E') := by
        rintro (rfl | rfl) <;> exact absurd (apart_cons_iff.mp apart) (by decide)
      simp [scanExponent, noMark]
  | cons c text =>
    rw [List.cons_append]
    simp only [scanExponent.eq_def] at scanned ⊢
    split at scanned
    · rename_i mark
      rw [if_pos mark]
      cases text with
      | nil => cases scanned
      | cons sign text =>
        rw [List.cons_append]
        split at scanned
        · rename_i same
          cases same
          exact scanExponentDigits_append apart scanned
        · rename_i same
          cases same
          exact scanExponentDigits_append apart scanned
        · rename_i noPlus noMinus
          split
          · rename_i same
            cases same
            exact absurd rfl (noPlus _)
          · rename_i same
            cases same
            exact absurd rfl (noMinus _)
          · rw [← List.cons_append]
            exact scanExponentDigits_append apart scanned
    · rename_i noMark
      rw [if_neg noMark]
      cases scanned
      rfl

theorem scanUnsigned_append (apart : Apart more) {negative : Bool} {numeral : Numeral}
    (scanned : scanUnsigned negative text = some (numeral, rest)) :
    scanUnsigned negative (text ++ more) = some (numeral, rest ++ more) := by
  unfold scanUnsigned at scanned
  split at scanned
  · cases scanned
  · rename_i whole afterWhole foundWhole
    split at scanned
    · cases scanned
    · rename_i places afterPlaces foundPlaces
      split at scanned
      · cases scanned
      · rename_i exponent afterExponent foundExponent
        cases scanned
        simp only [scanUnsigned, scanWhole_append apart foundWhole,
          scanPlaces_append apart foundPlaces, scanExponent_append apart foundExponent]

theorem scan_append (apart : Apart more) {numeral : Numeral}
    (scanned : scan text = some (numeral, rest)) :
    scan (text ++ more) = some (numeral, rest ++ more) := by
  cases text with
  | nil => cases scanned
  | cons c text =>
    rw [List.cons_append]
    unfold scan at scanned ⊢
    split at scanned
    · rename_i same
      cases same
      exact scanUnsigned_append apart scanned
    · rename_i noMinus
      split
      · rename_i same
        cases same
        exact absurd rfl (noMinus _)
      · rw [← List.cons_append]
        exact scanUnsigned_append apart scanned

end Numeral

/-! ## Tokens -/

theorem scanPieces_append {pieces : List Piece} (scanned : scanPieces text = some (pieces, rest)) :
    scanPieces (text ++ more) = some (pieces, rest ++ more) := by
  fun_induction scanPieces text generalizing pieces rest with
  | case1 => cases scanned
  | case2 text =>
    cases scanned
    rfl
  | case3 a b c d text code foundPieces after found foundCode ih =>
    cases scanned
    simp [scanPieces, foundCode, ih found]
  | case4 => cases scanned
  | case5 c text noUnit char foundPieces after found foundChar ih =>
    cases scanned
    have notUnit : c ≠ 'u' := by
      rintro rfl
      cases foundChar
    simp [scanPieces, notUnit, foundChar, ih found]
  | case6 => cases scanned
  | case7 => cases scanned
  | case8 c text noQuote noUnit noEscape plain foundPieces after found ih =>
    cases scanned
    obtain ⟨notControl, notEscape⟩ := not_or.mp plain
    simp [scanPieces, Nat.not_lt.mp notControl, notEscape, ih found]
  | case9 => cases scanned

/-- A token that can be made out is the same whatever follows it. -/
theorem next_append (apart : Apart more) {c : Char} (whole : (next c text).1 ≠ .broken) :
    next c (text ++ more) = ((next c text).1, (next c text).2 ++ more) := by
  unfold next at whole ⊢
  split_ifs at whole ⊢
  all_goals try rfl
  · cases found : scanPieces text with
    | none => simp [found] at whole
    | some scanned => simp [scanPieces_append found]
  · split at whole
    · rfl
    · rfl
    · rfl
    · rename_i noNull noTrue noFalse
      cases found : Numeral.scan (c :: text) with
      | none => simp [found] at whole
      | some scanned =>
        have later := Numeral.scan_append apart found
        rw [List.cons_append] at later
        split
        · cases found
        · cases found
        · cases found
        · simp [later]

theorem next_of_broken {c : Char} (broken : (next c text).1 = .broken) : (next c text).2 = [] := by
  unfold next at broken ⊢
  split_ifs at broken ⊢
  · split at broken
    · cases broken
    · rfl
  · split at broken
    all_goals try cases broken
    split at broken
    · cases broken
    · rfl

theorem scan_eq_nil_iff : scan text = [] ↔ ∀ c ∈ text, isBlank c = true := by
  induction text with
  | nil => simp [scan]
  | cons c text ih =>
    rw [scan]
    by_cases blank : isBlank c = true
    · simp [blank, ih]
    · simp [blank]

/-- The tokens of a text and of what follows it: those of both, unless the first text breaks off
in a token; then nothing is known of what that token becomes. -/
theorem scan_append (apart : Apart more) (text : List Char) :
    scan (text ++ more) = scan text ++ scan more ∨
      ∃ tokens later, scan text = tokens ++ [.broken] ∧ scan (text ++ more) = tokens ++ later := by
  induction text using scan.induct with
  | case1 =>
    left
    rw [scan, List.nil_append, List.nil_append]
  | case2 c text blank ih =>
    rw [List.cons_append, scan, scan, if_pos blank, if_pos blank]
    exact ih
  | case3 c text solid ih =>
    rw [List.cons_append, scan, scan, if_neg solid, if_neg solid]
    by_cases broken : (next c text).1 = .broken
    · right
      refine ⟨[], (next c (text ++ more)).1 :: scan (next c (text ++ more)).2, ?_, rfl⟩
      rw [next_of_broken broken, broken, scan, List.nil_append]
    · rw [next_append apart broken]
      obtain same | ⟨tokens, later, breaks, grown⟩ := ih
      · left
        rw [same, List.cons_append]
      · right
        refine ⟨(next c text).1 :: tokens, later, ?_, ?_⟩
        · rw [breaks, List.cons_append]
        · rw [grown, List.cons_append]

end WireTree.Json
