import WireTree.Format.Shared
import WireTree.Proofs.Conformance.Reading

/-!
# Fields that hold integers

A literal is kept as it is or refused: a field takes it exactly if it is written as an integer and
the integer is in the range of the field, and the value is that integer then.
Main statement: `takesIntegers_bounded`, and from it one statement for each kind of field.
-/

namespace WireTree

open Json (Outline Numeral)

variable {ι α : Type}

namespace Json.Numeral

/-- A literal without fraction and exponent. -/
def IsPlain (n : Numeral) : Prop := n.places = none ∧ n.exponent = none

/-- The literal `-0`. -/
def minusZero : Numeral := ⟨true, 0, none, none⟩

/-- What the sign and the digits before the point denote. -/
def value (n : Numeral) : Int := if n.negative then -(n.whole : Int) else n.whole

/-- A literal is written as this integer. The integers have no negative zero. -/
def Denotes (n : Numeral) (k : Int) : Prop := n.IsPlain ∧ n ≠ minusZero ∧ n.value = k

/-- An integer that 64 bits hold, with a sign if it is negative. -/
def Fits64 (k : Int) : Prop := Int64.minValue.toInt ≤ k ∧ k < UInt64.size

theorem fits64_iff {k : Int} : Fits64 k ↔ -9223372036854775808 ≤ k ∧ k < 18446744073709551616 :=
  Iff.rfl

instance (n : Numeral) : Decidable n.IsPlain :=
  inferInstanceAs (Decidable (n.places = none ∧ n.exponent = none))

instance (n : Numeral) (k : Int) : Decidable (n.Denotes k) :=
  inferInstanceAs (Decidable (n.IsPlain ∧ n ≠ minusZero ∧ n.value = k))

instance (k : Int) : Decidable (Fits64 k) :=
  inferInstanceAs (Decidable (Int64.minValue.toInt ≤ k ∧ k < UInt64.size))

/-- Each integer has one literal. -/
theorem denotes_iff_eq_ofInt {n : Numeral} {k : Int} : n.Denotes k ↔ n = ofInt k := by
  obtain ⟨negative, whole, places, exponent⟩ := n
  simp only [Denotes, IsPlain, minusZero, value, ofInt, mk.injEq]
  cases places with
  | some ds => simp
  | none =>
    cases exponent with
    | some e => simp
    | none =>
      cases negative with
      | false =>
        simp
        omega
      | true =>
        simp
        omega

/-- The literals that count as integers are those that are written as one that 64 bits hold. -/
theorem toInteger?_eq_some_iff {n : Numeral} {k : Int} :
    n.toInteger? = some k ↔ n.Denotes k ∧ Fits64 k := by
  have least : Int64.minValue.toInt.natAbs = 9223372036854775808 := by decide
  have size : UInt64.size = 18446744073709551616 := by decide
  obtain ⟨negative, whole, places, exponent⟩ := n
  unfold toInteger? Denotes IsPlain
  rw [fits64_iff, least, size]
  cases places with
  | some ds => simp
  | none =>
    cases exponent with
    | some e => simp
    | none =>
      cases negative with
      | false =>
        simp [value, minusZero]
        omega
      | true =>
        simp [value, minusZero]
        omega

theorem toInteger?_eq_none_iff {n : Numeral} :
    n.toInteger? = none ↔ ¬ ∃ k, n.Denotes k ∧ Fits64 k := by
  simp [Option.eq_none_iff_forall_ne_some, toInteger?_eq_some_iff]

end Json.Numeral

/-- A field for integers in a range. Literals that are written as such an integer are taken, and
nothing else is; the value is the integer. Another integer is refused by its value if 64 bits hold
it; every other literal counts as a double and is refused as one, unless it is beyond the
doubles. -/
structure TakesIntegers (wanted : String) (least greatest : Int) (value : α → Int)
    (read : Outline → Reading α) : Prop where
  literal {o : Outline} {a : α} (taken : read o = .ok a) : ∃ n, o = .number n
  taken_iff (n : Numeral) :
    (∃ a, read (.number n) = .ok a) ↔ ∃ k, n.Denotes k ∧ least ≤ k ∧ k ≤ greatest
  kept {n : Numeral} {a : α} (taken : read (.number n) = .ok a) : n.Denotes (value a)
  out_of_range {n : Numeral} {k : Int} (denotes : n.Denotes k) (fits : Numeral.Fits64 k)
    (outside : ¬ (least ≤ k ∧ k ≤ greatest)) :
    read (.number n) = refuse (.invalidValue (.integer k) wanted)
  no_integer {n : Numeral} (other : ¬ ∃ k, n.Denotes k ∧ Numeral.Fits64 k) :
    read (.number n) = match n.toDouble? with
      | some d => refuse (.invalidType (.double d) wanted)
      | none => malformed

section Bounded

variable {wanted : String} {least greatest : Int} {make : Int → α} {n : Numeral}

theorem readInteger_of_denotes {k : Int} (denotes : n.Denotes k) (fits : Numeral.Fits64 k) :
    Schema.readInteger (Format.bounded wanted least greatest make) (.number n) =
      if least ≤ k ∧ k ≤ greatest then .ok (make k)
      else refuse (.invalidValue (.integer k) wanted) := by
  have integer := Numeral.toInteger?_eq_some_iff.mpr ⟨denotes, fits⟩
  by_cases inside : least ≤ k ∧ k ≤ greatest
  · simp [Schema.readInteger, integer, Format.bounded, inside]
  · simp [Schema.readInteger, integer, Format.bounded, inside]

theorem readInteger_of_no_integer (other : ¬ ∃ k, n.Denotes k ∧ Numeral.Fits64 k) :
    Schema.readInteger (Format.bounded wanted least greatest make) (.number n) =
      match n.toDouble? with
      | some d => refuse (.invalidType (.double d) wanted)
      | none => malformed := by
  have integer := Numeral.toInteger?_eq_none_iff.mpr other
  cases double : n.toDouble? with
  | none => simp [Schema.readInteger, integer, mismatch, Outline.found?, Numeral.toNumber?, double]
  | some d =>
    simp [Schema.readInteger, integer, mismatch, Outline.found?, Numeral.toNumber?, double,
      Format.bounded]

/-- What a bounded field takes is an integer in its range, as 64 bits hold it. -/
theorem denotes_of_readInteger {a : α}
    (taken : Schema.readInteger (Format.bounded wanted least greatest make) (.number n) = .ok a) :
    ∃ k, n.Denotes k ∧ Numeral.Fits64 k ∧ (least ≤ k ∧ k ≤ greatest) ∧ make k = a := by
  by_cases integer : ∃ k, n.Denotes k ∧ Numeral.Fits64 k
  · obtain ⟨k, denotes, fits⟩ := integer
    rw [readInteger_of_denotes denotes fits] at taken
    by_cases inside : least ≤ k ∧ k ≤ greatest
    · rw [if_pos inside] at taken
      cases taken
      exact ⟨k, denotes, fits, inside, rfl⟩
    · rw [if_neg inside] at taken
      cases taken
  · rw [readInteger_of_no_integer integer] at taken
    cases double : n.toDouble? with
    | none =>
      rw [double] at taken
      cases taken
    | some d =>
      rw [double] at taken
      cases taken

/-- A field with a range that 64 bits hold takes the integers in it, if the value that is made of
one gives it back. -/
theorem takesIntegers_bounded {value : α → Int}
    (within : ∀ k, least ≤ k → k ≤ greatest → Numeral.Fits64 k)
    (inverse : ∀ k, least ≤ k → k ≤ greatest → value (make k) = k) :
    TakesIntegers wanted least greatest value
      (Schema.readInteger (Format.bounded wanted least greatest make)) where
  literal {o} {a} taken := by
    cases o with
    | number n => exact ⟨n, rfl⟩
    | _ => simp [Schema.readInteger] at taken
  taken_iff n := by
    constructor
    · rintro ⟨a, taken⟩
      obtain ⟨k, denotes, -, inside, -⟩ := denotes_of_readInteger taken
      exact ⟨k, denotes, inside⟩
    · rintro ⟨k, denotes, inside⟩
      refine ⟨make k, ?_⟩
      rw [readInteger_of_denotes denotes (within k inside.1 inside.2), if_pos inside]
  kept {n} {a} taken := by
    obtain ⟨k, denotes, -, inside, rfl⟩ := denotes_of_readInteger taken
    rw [inverse k inside.1 inside.2]
    exact denotes
  out_of_range denotes fits outside := by
    rw [readInteger_of_denotes denotes fits, if_neg outside]
  no_integer other := readInteger_of_no_integer other

end Bounded

/-! ## The fields -/

namespace Format

variable (g : Grammar ι) (depth : Nat) (feed : Feed)

theorem read_integer (rule : IntegerRule α) :
    g.read depth feed (.integer rule) = Schema.readInteger rule := by
  funext o
  cases depth <;> rfl

theorem takesIntegers_word :
    TakesIntegers "u32" 0 4294967295 (fun w => (w.toNat : Int)) (g.read depth feed word) := by
  rw [word, read_integer]
  refine takesIntegers_bounded ?_ ?_
  · intro k nonneg small
    rw [Numeral.fits64_iff]
    have : (UInt32.size : Int) - 1 = 4294967295 := rfl
    omega
  · intro k nonneg small
    have : (UInt32.size : Int) - 1 = 4294967295 := rfl
    show ((UInt32.ofNat k.toNat).toNat : Int) = k
    rw [UInt32.toNat_ofNat_of_lt' (by omega)]
    omega

theorem takesIntegers_byte :
    TakesIntegers "u8" 0 255 (fun b => (b.toNat : Int)) (g.read depth feed byte) := by
  rw [byte, read_integer]
  refine takesIntegers_bounded ?_ ?_
  · intro k nonneg small
    rw [Numeral.fits64_iff]
    have : (UInt8.size : Int) - 1 = 255 := rfl
    omega
  · intro k nonneg small
    have : (UInt8.size : Int) - 1 = 255 := rfl
    show ((UInt8.ofNat k.toNat).toNat : Int) = k
    rw [UInt8.toNat_ofNat_of_lt' (by omega)]
    omega

theorem takesIntegers_int64 :
    TakesIntegers "i64" (-9223372036854775808) 9223372036854775807 Int64.toInt
      (g.read depth feed int64) := by
  rw [int64, read_integer]
  refine takesIntegers_bounded ?_ ?_
  · intro k least greatest
    rw [Numeral.fits64_iff]
    have : Int64.maxValue.toInt = 9223372036854775807 := by decide
    have : Int64.minValue.toInt = -9223372036854775808 := by decide
    omega
  · intro k least greatest
    have top : Int64.maxValue.toInt = 9223372036854775807 := by decide
    have bottom : Int64.minValue.toInt = -9223372036854775808 := by decide
    exact Int64.toInt_ofInt_of_le (by omega) (by omega)

end Format

end WireTree
