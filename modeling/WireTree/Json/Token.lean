import WireTree.Json.Numeral

/-!
# The tokens of a JSON text

Scanning never fails as a whole: where no token can be made out it yields the token `broken` and
stops, so that what precedes the fault can still be read.
Main statement: each token takes at least one character (`next_length_le`), which is why scanning
ends.
-/

namespace WireTree.Json

/-- One lexical unit. A string whose `\u` escapes leave a surrogate unpaired is well formed
but holds no text. -/
inductive Token where
  | openObject
  | closeObject
  | openArray
  | closeArray
  | colon
  | comma
  | null
  | boolean (value : Bool)
  | number (numeral : Numeral)
  | text (content : Option String)
  | broken
deriving DecidableEq

/-- Blanks between tokens: space, tab, line feed, carriage return. -/
def isBlank (c : Char) : Bool :=
  c = ' ' || c = '\t' || c = '\n' || c = '\r'

/-- The value of a hexadecimal digit. -/
def hexDigit? (c : Char) : Option Nat :=
  let n := c.toNat
  if 48 ≤ n ∧ n < 58 then some (n - 48)
  else if 97 ≤ n ∧ n < 103 then some (n - 87)
  else if 65 ≤ n ∧ n < 71 then some (n - 55)
  else none

/-- The code unit of four hexadecimal digits. -/
def codeUnit? (a b c d : Char) : Option Nat :=
  match hexDigit? a, hexDigit? b, hexDigit? c, hexDigit? d with
  | some a, some b, some c, some d => some (((a * 16 + b) * 16 + c) * 16 + d)
  | _, _, _, _ => none

/-- What an escape of one character stands for. -/
def simpleEscape? (c : Char) : Option Char :=
  if c = '"' ∨ c = '\\' ∨ c = '/' then some c
  else if c = 'b' then some '\x08'
  else if c = 'f' then some '\x0c'
  else if c = 'n' then some '\n'
  else if c = 'r' then some '\r'
  else if c = 't' then some '\t'
  else none

/-- A piece of a string: a character, or the code unit of a `\u` escape. -/
inductive Piece where
  | char (c : Char)
  | unit (code : Nat)

/-- The pieces of a string up to its closing quote, and what follows it. Control characters
have to be escaped. -/
def scanPieces : List Char → Option (List Piece × List Char)
  | [] => none
  | '"' :: rest => some ([], rest)
  | '\\' :: 'u' :: a :: b :: c :: d :: rest =>
    match codeUnit? a b c d, scanPieces rest with
    | some code, some (pieces, rest) => some (.unit code :: pieces, rest)
    | _, _ => none
  | '\\' :: c :: rest =>
    match simpleEscape? c, scanPieces rest with
    | some c, some (pieces, rest) => some (.char c :: pieces, rest)
    | _, _ => none
  | c :: rest =>
    if c.toNat < 32 ∨ c = '\\' then none
    else
      match scanPieces rest with
      | some (pieces, rest) => some (.char c :: pieces, rest)
      | none => none

/-- The characters that pieces spell. A high surrogate has to be followed at once by the
escape of a low one, and a low one has to follow a high one. -/
def joinPieces : List Piece → Option (List Char)
  | [] => some []
  | .char c :: rest => (joinPieces rest).map (c :: ·)
  | .unit code :: rest =>
    if code < 0xD800 ∨ 0xDFFF < code then (joinPieces rest).map (Char.ofNat code :: ·)
    else if 0xDBFF < code then none
    else
      match rest with
      | .unit low :: rest =>
        if 0xDC00 ≤ low ∧ low ≤ 0xDFFF then
          (joinPieces rest).map
            (Char.ofNat (0x10000 + (code - 0xD800) * 0x400 + (low - 0xDC00)) :: ·)
        else none
      | _ => none

/-- The token that begins with a character that is no blank, and what follows it. -/
def next (c : Char) (rest : List Char) : Token × List Char :=
  if c = '{' then (.openObject, rest)
  else if c = '}' then (.closeObject, rest)
  else if c = '[' then (.openArray, rest)
  else if c = ']' then (.closeArray, rest)
  else if c = ':' then (.colon, rest)
  else if c = ',' then (.comma, rest)
  else if c = '"' then
    match scanPieces rest with
    | some (pieces, rest) => (.text ((joinPieces pieces).map String.ofList), rest)
    | none => (.broken, [])
  else
    match c, rest with
    | 'n', 'u' :: 'l' :: 'l' :: rest => (.null, rest)
    | 't', 'r' :: 'u' :: 'e' :: rest => (.boolean true, rest)
    | 'f', 'a' :: 'l' :: 's' :: 'e' :: rest => (.boolean false, rest)
    | c, rest =>
      match Numeral.scan (c :: rest) with
      | some (numeral, rest) => (.number numeral, rest)
      | none => (.broken, [])

theorem digits_length_le (text : List Char) : (digits text).2.length ≤ text.length := by
  induction text with
  | nil => simp [digits]
  | cons c rest ih =>
    unfold digits
    split
    · simp
    · simpa using Nat.le_succ_of_le ih

theorem digits_length_lt {text : List Char} (someDigit : (digits text).1 ≠ []) :
    (digits text).2.length < text.length := by
  cases text with
  | nil => simp [digits] at someDigit
  | cons c rest =>
    unfold digits at someDigit ⊢
    split
    · simp_all
    · simpa using Nat.lt_succ_of_le (digits_length_le rest)

namespace Numeral

theorem scanWhole_length_lt {text rest : List Char} {whole : Nat}
    (scanned : scanWhole text = some (whole, rest)) : rest.length < text.length := by
  unfold scanWhole at scanned
  split at scanned
  · simp at scanned
  · simp at scanned
  · rename_i ds after someDigit _ found
    obtain ⟨-, rfl⟩ := by simpa using scanned
    have shorter := digits_length_lt (by rw [found]; exact someDigit)
    simpa only [found] using shorter

theorem scanPlaces_length_le {text rest : List Char} {places : Option (List (Fin 10))}
    (scanned : scanPlaces text = some (places, rest)) : rest.length ≤ text.length := by
  unfold scanPlaces at scanned
  split at scanned
  · rename_i tail
    split at scanned
    · simp at scanned
    · rename_i ds after _ found
      obtain ⟨-, rfl⟩ := by simpa using scanned
      have shorter := digits_length_le tail
      simp only [found] at shorter
      simpa using Nat.le_succ_of_le shorter
  · obtain ⟨-, rfl⟩ := by simpa using scanned
    exact Nat.le_refl _

theorem scanExponentDigits_length_le {negative : Bool} {text rest : List Char}
    {exponent : Option Int}
    (scanned : scanExponentDigits negative text = some (exponent, rest)) :
    rest.length ≤ text.length := by
  unfold scanExponentDigits at scanned
  split at scanned
  · simp at scanned
  · rename_i ds after _ found
    obtain ⟨-, rfl⟩ := by simpa using scanned
    have shorter := digits_length_le text
    simpa only [found] using shorter

theorem scanExponent_length_le {text rest : List Char} {exponent : Option Int}
    (scanned : scanExponent text = some (exponent, rest)) : rest.length ≤ text.length := by
  unfold scanExponent at scanned
  split at scanned
  · obtain ⟨-, rfl⟩ := by simpa using scanned
    exact Nat.le_refl _
  · split at scanned
    · split at scanned
      all_goals
        have shorter := scanExponentDigits_length_le scanned
        simp only [List.length_cons]
        omega
    · obtain ⟨-, rfl⟩ := by simpa using scanned
      exact Nat.le_refl _

theorem scanUnsigned_length_lt {negative : Bool} {text rest : List Char} {numeral : Numeral}
    (scanned : scanUnsigned negative text = some (numeral, rest)) :
    rest.length < text.length := by
  unfold scanUnsigned at scanned
  split at scanned
  · simp at scanned
  · rename_i whole afterWhole foundWhole
    split at scanned
    · simp at scanned
    · rename_i places afterPlaces foundPlaces
      split at scanned
      · simp at scanned
      · rename_i exponent afterExponent foundExponent
        obtain ⟨-, rfl⟩ := by simpa using scanned
        have := scanWhole_length_lt foundWhole
        have := scanPlaces_length_le foundPlaces
        have := scanExponent_length_le foundExponent
        omega

theorem scan_length_lt {text rest : List Char} {numeral : Numeral}
    (scanned : scan text = some (numeral, rest)) : rest.length < text.length := by
  unfold scan at scanned
  split at scanned
  · have := scanUnsigned_length_lt scanned
    simp only [List.length_cons]
    omega
  · exact scanUnsigned_length_lt scanned

end Numeral

theorem scanPieces_length_le {text rest : List Char} {pieces : List Piece}
    (scanned : scanPieces text = some (pieces, rest)) : rest.length ≤ text.length := by
  fun_induction scanPieces text generalizing pieces rest
  all_goals simp_all
  all_goals grind

/-- A token takes at least the character that it begins with. -/
theorem next_length_le (c : Char) (rest : List Char) : (next c rest).2.length ≤ rest.length := by
  unfold next
  repeat' split
  all_goals try simp only [List.length_cons, List.length_nil, Nat.le_refl, Nat.zero_le]
  all_goals try omega
  · rename_i found
    exact scanPieces_length_le found
  · rename_i found
    simpa using Nat.le_of_lt_succ (Numeral.scan_length_lt found)

/-- The tokens of a text, ending with `broken` where no further token can be made out. -/
def scan : List Char → List Token
  | [] => []
  | c :: rest =>
    if isBlank c then scan rest
    else (next c rest).1 :: scan (next c rest).2
termination_by text => text.length
decreasing_by
  · simp
  · simpa using Nat.lt_succ_of_le (next_length_le c rest)

end WireTree.Json
