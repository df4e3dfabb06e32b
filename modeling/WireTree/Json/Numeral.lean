import WireTree.Binary64.Rounding

/-!
# Number literals

A literal without fraction and exponent that fits 64 bits (unsigned, or signed after a minus) is an
integer; every other literal is a double, `-0` among them, and one beyond the doubles is no number
at all.
-/

namespace WireTree.Json

/-- A number literal: a sign, the whole part (which has no leading zeros, so that its value
tells its spelling), the decimal places and the exponent, if there are any. -/
structure Numeral where
  negative : Bool
  whole : Nat
  places : Option (List (Fin 10))
  exponent : Option Int
deriving DecidableEq

/-- The number that a literal stands for. -/
inductive Number where
  | integer (value : Int)
  | double (value : Binary64)
deriving DecidableEq

/-- The digit that a character is. -/
def digit? (c : Char) : Option (Fin 10) :=
  if h : 48 ≤ c.toNat ∧ c.toNat < 58 then some ⟨c.toNat - 48, by omega⟩ else none

/-- The run of digits at the head of a text, and what follows it. -/
def digits : List Char → List (Fin 10) × List Char
  | [] => ([], [])
  | c :: rest =>
    match digit? c with
    | none => ([], c :: rest)
    | some d => (d :: (digits rest).1, (digits rest).2)

/-- The number that digits denote, the first being the most significant. -/
def ofDigits (ds : List (Fin 10)) : Nat :=
  ds.foldl (fun n d => 10 * n + d.val) 0

namespace Numeral

/-- The whole part: one zero alone, or digits that begin with another digit. -/
def scanWhole (text : List Char) : Option (Nat × List Char) :=
  match digits text with
  | ([], _) => none
  | (0 :: _ :: _, _) => none
  | (ds, rest) => some (ofDigits ds, rest)

/-- The decimal places: nothing, or a point and at least one digit. -/
def scanPlaces : List Char → Option (Option (List (Fin 10)) × List Char)
  | '.' :: text =>
    match digits text with
    | ([], _) => none
    | (ds, rest) => some (some ds, rest)
  | text => some (none, text)

/-- The digits of an exponent, after its sign. -/
def scanExponentDigits (negative : Bool) (text : List Char) :
    Option (Option Int × List Char) :=
  match digits text with
  | ([], _) => none
  | (ds, rest) =>
    some (some (if negative then -(ofDigits ds : Int) else (ofDigits ds : Int)), rest)

/-- The exponent: nothing, or `e` in either case, perhaps a sign, and at least one digit. -/
def scanExponent : List Char → Option (Option Int × List Char)
  | [] => some (none, [])
  | c :: text =>
    if c = 'e' ∨ c = 'E' then
      match text with
      | '+' :: rest => scanExponentDigits false rest
      | '-' :: rest => scanExponentDigits true rest
      | rest => scanExponentDigits false rest
    else some (none, c :: text)

/-- A literal without its sign. -/
def scanUnsigned (negative : Bool) (text : List Char) : Option (Numeral × List Char) :=
  match scanWhole text with
  | none => none
  | some (whole, text) =>
    match scanPlaces text with
    | none => none
    | some (places, text) =>
      match scanExponent text with
      | none => none
      | some (exponent, text) => some (⟨negative, whole, places, exponent⟩, text)

/-- The longest literal at the head of a text, and what follows it. -/
def scan : List Char → Option (Numeral × List Char)
  | '-' :: text => scanUnsigned true text
  | text => scanUnsigned false text

/-- The first digits of a whole number, as many as 64 bits hold, and how many follow them. -/
def leading (whole : Nat) : Nat × Nat :=
  if whole < UInt64.size then (whole, 0)
  else
    let (kept, dropped) := leading (whole / 10)
    (kept, dropped + 1)
termination_by whole
decreasing_by
  simp only [UInt64.size] at *
  omega

/-- The number with further digits behind it, as long as 64 bits hold it, and how many it has
taken. -/
def extended (kept : Nat) : List (Fin 10) → Nat × Nat
  | [] => (kept, 0)
  | d :: ds =>
    if 10 * kept + d.val < UInt64.size then
      let (kept, taken) := extended (10 * kept + d.val) ds
      (kept, taken + 1)
    else (kept, 0)

/-- The integer of a literal without fraction and exponent that fits 64 bits. Zero after a
minus is no integer: the doubles have a negative zero and the integers have none. -/
def toInteger? (n : Numeral) : Option Int :=
  if n.places.isSome || n.exponent.isSome then none
  else if n.negative then
    if 0 < n.whole ∧ n.whole ≤ Int64.minValue.toInt.natAbs then some (-(n.whole : Int)) else none
  else if n.whole < UInt64.size then some (n.whole : Int)
  else none

/-- The literal as a double, if it is not beyond the doubles. An integer stands for the double
nearest to it. Of the digits of any other literal those count that 64 bits hold; the rest of them
only move the point. -/
def toDouble? (n : Numeral) : Option Binary64 :=
  match n.toInteger? with
  | some value => some (.ofInt value)
  | none =>
    let (whole, dropped) := leading n.whole
    let (significand, taken) := extended whole (n.places.getD [])
    Binary64.ofDecimal? n.negative significand (n.exponent.getD 0 + dropped - taken)

/-- The literal `9e-265` misses the double that is nearest to it by one unit. -/
example : toDouble? ⟨false, 9, none, some (-265)⟩ = some ⟨0x091d05244fe50669⟩ := by decide +kernel

/-- The greatest double is the one nearest to `1.7976931348623158e308`, but on the way to it the
literal leaves the doubles. -/
example :
    toDouble? ⟨false, 1, some [7, 9, 7, 6, 9, 3, 1, 3, 4, 8, 6, 2, 3, 1, 5, 8], some 308⟩ =
      none := by
  decide +kernel

/-- The number that a literal stands for, if it is not beyond the doubles. -/
def toNumber? (n : Numeral) : Option Number :=
  match n.toInteger? with
  | some value => some (.integer value)
  | none => n.toDouble?.map .double

end Numeral

end WireTree.Json
