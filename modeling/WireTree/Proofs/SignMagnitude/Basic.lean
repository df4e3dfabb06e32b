import Mathlib.Data.List.DropRight
import Mathlib.Data.Nat.Digits.Lemmas
import WireTree.Format.Writer
import WireTree.Proofs.TwosComplement

/-!
# Sign and magnitude

Integers of any size are given as a sign and the digits of their magnitude to the base `2 ^ 32`.
Digits may be given with zeros in front, and with a sign that does not go with them; what is written
has neither.
Main statements: the form that is written is the canonical one (`canonical`), the integer of a sign
and digits is the sum of the digits times powers of the base (`ofSignDigits_eq_sum`), and writing it
drops the zeros in front and, for zero, the sign (`toJson_ofSignDigits`).
-/

namespace WireTree.BigInteger

/-- A sign and digits as a JSON value. -/
def form (sign : Sign) (digits : List UInt32) : Json :=
  .array [.ofInt sign.toInt, .ofList (fun d => .ofInt d.toNat) digits]

/-- The sign and the digits of an integer, with no digit more than it has. -/
structure Canonical (n : Int) (sign : Sign) (digits : List UInt32) : Prop where
  sign_eq : sign.toInt = n.sign
  digits_eq : digits.map UInt32.toNat = Nat.digits (2 ^ 32) n.natAbs
  digits_lt : ∀ d ∈ digits, d.toNat < 2 ^ 32
  no_leading_zero : digits.getLast? ≠ some 0
  eq_nil_iff : digits = [] ↔ n = 0

/-! ## Digits -/

theorem base_eq : base = 2 ^ 32 := rfl

theorem one_lt_base : 1 < base := by decide

theorem ofDigits_eq (digits : List UInt32) :
    ofDigits digits = Nat.ofDigits base (digits.map UInt32.toNat) := by
  induction digits with
  | nil => rfl
  | cons low rest ih => rw [ofDigits, ih, List.map_cons, Nat.ofDigits_cons]

theorem digits_zero : digits 0 = [] := by
  rw [digits, if_pos rfl]

theorem map_toNat_digits (n : Nat) : (digits n).map UInt32.toNat = Nat.digits base n := by
  fun_induction digits n with
  | case1 => rw [Nat.digits_zero, List.map_nil]
  | case2 n nonzero ih =>
    rw [List.map_cons, ih, toNat_lowDigit, Nat.digits_def' one_lt_base (Nat.pos_of_ne_zero nonzero)]

theorem digits_eq_nil_iff {n : Nat} : digits n = [] ↔ n = 0 := by
  rw [← List.map_eq_nil_iff, map_toNat_digits, Nat.digits_eq_nil_iff_eq_zero]

theorem getLast?_digits_ne (n : Nat) : (digits n).getLast? ≠ some 0 := by
  intro leading
  have last : (Nat.digits base n).getLast? = some 0 := by
    rw [← map_toNat_digits, List.getLast?_map, leading]
    rfl
  have some_digit : n ≠ 0 := by
    rintro rfl
    rw [Nat.digits_zero] at last
    cases last
  rw [List.getLast?_eq_getLast_of_ne_nil (Nat.digits_ne_nil_iff_ne_zero.mpr some_digit)] at last
  exact Nat.getLast_digit_ne_zero base some_digit (Option.some.inj last)

/-- Digits without a zero in front are those of their number. -/
theorem digits_ofDigits {ds : List UInt32} (canonical : ds.getLast? ≠ some 0) :
    digits (ofDigits ds) = ds := by
  have digitwise : Function.Injective UInt32.toNat := fun _ _ => UInt32.toNat_inj.mp
  refine List.map_injective_iff.mpr digitwise ?_
  rw [map_toNat_digits, ofDigits_eq]
  refine Nat.digits_ofDigits base one_lt_base _ ?_ ?_
  · intro d member
    obtain ⟨digit, -, rfl⟩ := List.mem_map.mp member
    exact digit.toNat_lt
  · intro some_digit zero
    refine canonical ?_
    have some_digit' : ds ≠ [] := fun none => some_digit (List.map_eq_nil_iff.mpr none)
    have leading : ds.getLast some_digit' = 0 := by
      rw [List.getLast_map] at zero
      exact digitwise zero
    rw [List.getLast?_eq_getLast_of_ne_nil some_digit', leading]

theorem ofDigits_concat_zero (ds : List UInt32) : ofDigits (ds ++ [0]) = ofDigits ds := by
  simp [ofDigits_eq, Nat.ofDigits_append]

/-- The digits of a number that is given by digits are these without the zeros in front. -/
theorem digits_ofDigits_eq_rdropWhile (ds : List UInt32) :
    digits (ofDigits ds) = ds.rdropWhile (· == 0) := by
  induction ds using List.reverseRecOn with
  | nil => exact digits_zero
  | append_singleton ds d ih =>
    by_cases zero : d = 0
    · subst zero
      rw [ofDigits_concat_zero, ih, List.rdropWhile_concat_pos _ _ _ rfl]
    · rw [List.rdropWhile_concat_neg _ _ _ (by simpa using zero)]
      exact digits_ofDigits (by simpa using zero)

theorem ofDigits_eq_zero_iff {ds : List UInt32} : ofDigits ds = 0 ↔ ∀ d ∈ ds, d = 0 := by
  rw [← digits_eq_nil_iff, digits_ofDigits_eq_rdropWhile, List.rdropWhile_eq_nil_iff]
  simp

/-! ## Signs -/

/-- The integer of a sign and digits as a sum. -/
theorem ofSignDigits_eq_sum (sign : Sign) (digits : List UInt32) :
    ofSignDigits sign digits =
      sign.toInt * ∑ i : Fin digits.length, (digits[i].toNat : Int) * 2 ^ (32 * (i : Nat)) := by
  rw [ofSignDigits]
  congr 1
  simp only [pow_mul]
  induction digits with
  | nil => rfl
  | cons low rest ih =>
    rw [ofDigits, sum_cons fun d : UInt32 => (d.toNat : Int), ← ih, base_eq]
    push_cast
    rfl

theorem toInt_sign (n : Int) : (sign n).toInt = n.sign := by
  unfold sign
  by_cases negative : n < 0
  · rw [if_pos negative, Int.sign_eq_neg_one_of_neg negative]
    rfl
  · by_cases zero : n = 0
    · rw [if_neg negative, if_pos zero, zero]
      rfl
    · rw [if_neg negative, if_neg zero, Int.sign_eq_one_of_pos (by omega)]
      rfl

theorem ofSignDigits_eq_zero_iff {s : Sign} {ds : List UInt32} :
    ofSignDigits s ds = 0 ↔ s = .zero ∨ ∀ d ∈ ds, d = 0 := by
  rw [ofSignDigits, Int.mul_eq_zero, Int.natCast_eq_zero, ofDigits_eq_zero_iff]
  cases s <;> simp [Sign.toInt]

/-- A sign that goes with the digits is that of the integer, and the digits are its magnitude. -/
theorem sign_natAbs_ofSignDigits {s : Sign} {ds : List UInt32} (nonzero : ofSignDigits s ds ≠ 0) :
    sign (ofSignDigits s ds) = s ∧ (ofSignDigits s ds).natAbs = ofDigits ds := by
  unfold ofSignDigits at *
  cases s with
  | negative =>
    simp only [Sign.toInt] at *
    exact ⟨if_pos (by omega), by omega⟩
  | zero => exact absurd (Int.zero_mul _) nonzero
  | positive =>
    simp only [Sign.toInt] at *
    exact ⟨(if_neg (by omega)).trans (if_neg (by omega)), by omega⟩

/-! ## The form that is written -/

theorem toJson_eq (n : Int) : toJson n = form (sign n) (digits n.natAbs) := rfl

/-- The sign and the digits that are written for an integer are its canonical ones. -/
theorem canonical (n : Int) : Canonical n (sign n) (digits n.natAbs) where
  sign_eq := toInt_sign n
  digits_eq := map_toNat_digits n.natAbs
  digits_lt d _ := d.toNat_lt
  no_leading_zero := getLast?_digits_ne n.natAbs
  eq_nil_iff := by rw [digits_eq_nil_iff, Int.natAbs_eq_zero]

/-- What is written for the integer of a sign and digits: the digits without zeros in front under
the same sign, unless the integer is zero, which has neither. -/
theorem toJson_ofSignDigits (s : Sign) (ds : List UInt32) :
    toJson (ofSignDigits s ds) =
      if ofSignDigits s ds = 0 then form .zero [] else form s (ds.rdropWhile (· == 0)) := by
  by_cases zero : ofSignDigits s ds = 0
  · rw [if_pos zero, toJson_eq, zero, Int.natAbs_zero, digits_zero]
    rfl
  · obtain ⟨sign_eq, magnitude⟩ := sign_natAbs_ofSignDigits zero
    rw [if_neg zero, toJson_eq, sign_eq, magnitude, digits_ofDigits_eq_rdropWhile]

end WireTree.BigInteger
