import Mathlib.Algebra.BigOperators.Fin
import Mathlib.Algebra.BigOperators.Ring.Finset
import Mathlib.Tactic.Ring
import WireTree.Expression.Decode

/-!
# Two's complement

The bytes of an integer may be more than are needed: further bytes that repeat the sign bit change
nothing.
Main statements: the integer is the sum of the bytes times powers of 256, less the next power if the
last byte carries the sign (`ofBytes_eq_sum`); any bytes are the fewest bytes of their integer,
continued by its sign (`eq_toBytes_append`); `Wire.decodeBigInteger_exact` puts these together for
decoding.
-/

namespace WireTree

namespace BigInteger

/-- The byte that repeats the sign bit of an integer's bytes. -/
def signByte (bytes : List UInt8) : UInt8 :=
  if bytes.getLastD 0 < 128 then 0 else 255

/-- The byte that repeats the sign of an integer. -/
def fill (n : Int) : UInt8 :=
  if n < 0 then 255 else 0

/-- Bytes with their sign bit repeated up to a length. -/
def extended (length : Nat) (bytes : List UInt8) : List UInt8 :=
  bytes.rightpad length (signByte bytes)

/-! ## The sum of the bytes -/

theorem ofBytes_singleton_of_lt {top : UInt8} (positive : top < 128) :
    ofBytes [top] = top.toNat + 256 * 0 := by
  rw [ofBytes, if_pos positive]
  omega

theorem ofBytes_singleton_of_not_lt {top : UInt8} (negative : ¬top < 128) :
    ofBytes [top] = top.toNat + 256 * (-1) := by
  rw [ofBytes, if_neg negative]
  omega

/-- The sign of a single byte is its topmost bit. -/
theorem ofBytes_singleton_neg_iff {top : UInt8} : ofBytes [top] < 0 ↔ ¬top < 128 := by
  have bound := top.toNat_lt
  by_cases positive : top < 128
  · rw [ofBytes_singleton_of_lt positive]
    exact iff_of_false (by omega) fun negative => negative positive
  · rw [ofBytes_singleton_of_not_lt positive]
    exact iff_of_true (by omega) positive

/-- To a base, the digits after the first one count as many times as much as on their own. -/
theorem sum_cons {α : Type} (digit : α → Int) (base : Int) (low : α) (rest : List α) :
    ∑ i : Fin (low :: rest).length, digit (low :: rest)[i] * base ^ (i : Nat) =
      digit low + base * ∑ i : Fin rest.length, digit rest[i] * base ^ (i : Nat) := by
  show ∑ i : Fin (rest.length + 1), digit (low :: rest)[i] * base ^ (i : Nat) = _
  rw [Fin.sum_univ_succ, Finset.mul_sum]
  simp only [Fin.getElem_fin, Fin.val_zero, Fin.val_succ, List.getElem_cons_zero,
    List.getElem_cons_succ, pow_zero, mul_one]
  congr 1
  refine Finset.sum_congr rfl fun i _ => ?_
  ring

/-- The integer of bytes: each counts with a power of 256, and a sign bit takes off the next one. -/
theorem ofBytes_eq_sum (bytes : List UInt8) (some_byte : bytes ≠ []) :
    ofBytes bytes =
      ∑ i : Fin bytes.length, (bytes[i].toNat : Int) * 256 ^ (i : Nat) -
        if 128 ≤ bytes.getLast some_byte then 256 ^ bytes.length else 0 := by
  induction bytes with
  | nil => exact absurd rfl some_byte
  | cons low rest ih =>
    rw [sum_cons fun byte : UInt8 => (byte.toNat : Int)]
    by_cases last : rest = []
    · subst last
      by_cases positive : low < 128
      · simp [ofBytes, positive, UInt8.not_le.mpr positive]
      · simp [ofBytes, positive, UInt8.not_lt.mp positive]
    · rw [ofBytes_cons last, ih last, List.getLast_cons last, List.length_cons, pow_succ]
      split
      · ring
      · ring

/-- All bytes but the first tell the sign. -/
theorem fill_ofBytes_cons {low : UInt8} {rest : List UInt8} (more : rest ≠ []) :
    fill (ofBytes (low :: rest)) = fill (ofBytes rest) := by
  have low_lt := low.toNat_lt
  have value : ofBytes (low :: rest) = low.toNat + 256 * ofBytes rest := ofBytes_cons more
  have negative : ofBytes (low :: rest) < 0 ↔ ofBytes rest < 0 := by omega
  simp only [fill, negative]

/-! ## The fewest bytes -/

theorem lowByte_eq (low : UInt8) (n : Int) :
    UInt8.ofNat ((low.toNat + 256 * n) % 256).toNat = low := by
  have small := low.toNat_lt
  have same : ((low.toNat + 256 * n) % 256).toNat = low.toNat := by omega
  rw [same, UInt8.ofNat_toNat]

theorem toBytes_of_small {n : Int} (small : -128 ≤ n ∧ n < 128) :
    toBytes n = [UInt8.ofNat (n % 256).toNat] := by
  rw [toBytes, if_pos small]

theorem toBytes_of_large {n : Int} (large : ¬(-128 ≤ n ∧ n < 128)) :
    toBytes n = UInt8.ofNat (n % 256).toNat :: toBytes (n / 256) := by
  rw [toBytes, if_neg large]

/-- One byte is its own fewest bytes. -/
theorem toBytes_singleton (top : UInt8) : toBytes (ofBytes [top]) = [top] := by
  have bound := top.toNat_lt
  have sign : top < 128 ↔ top.toNat < 128 := UInt8.lt_iff_toNat_lt
  by_cases positive : top < 128
  · have below := sign.mp positive
    rw [ofBytes_singleton_of_lt positive, toBytes_of_small (by omega), lowByte_eq]
  · have above := mt sign.mpr positive
    rw [ofBytes_singleton_of_not_lt positive, toBytes_of_small (by omega), lowByte_eq]

theorem toBytes_zero : toBytes 0 = [0] := toBytes_of_small (by omega)

theorem toBytes_neg_one : toBytes (-1) = [255] := toBytes_of_small (by omega)

/-- Bytes are the fewest of their integer, continued by its sign. -/
theorem eq_toBytes_append {bytes : List UInt8} (some_byte : bytes ≠ []) :
    ∃ more, bytes = toBytes (ofBytes bytes) ++ List.replicate more (fill (ofBytes bytes)) := by
  induction bytes with
  | nil => exact absurd rfl some_byte
  | cons low rest ih =>
    have low_lt := low.toNat_lt
    by_cases last : rest = []
    · subst last
      exact ⟨0, by rw [toBytes_singleton, List.replicate_zero, List.append_nil]⟩
    · obtain ⟨more, rest_eq⟩ := ih last
      have value : ofBytes (low :: rest) = low.toNat + 256 * ofBytes rest := ofBytes_cons last
      rw [fill_ofBytes_cons last]
      by_cases small : -128 ≤ ofBytes (low :: rest) ∧ ofBytes (low :: rest) < 128
      · -- one byte is enough, so that the others only repeat its sign
        refine ⟨more + 1, ?_⟩
        rw [toBytes_of_small small, value, lowByte_eq, List.replicate_succ]
        have ends : ofBytes rest = 0 ∨ ofBytes rest = -1 := by omega
        rcases ends with zero | minus_one
        · rw [zero, toBytes_zero] at rest_eq
          rw [zero]
          exact congrArg (low :: ·) rest_eq
        · rw [minus_one, toBytes_neg_one] at rest_eq
          rw [minus_one]
          exact congrArg (low :: ·) rest_eq
      · refine ⟨more, ?_⟩
        rw [toBytes_of_large small, value, lowByte_eq]
        have high : (low.toNat + 256 * ofBytes rest) / 256 = ofBytes rest := by omega
        rw [high, List.cons_append, ← rest_eq]

theorem length_toBytes_le {bytes : List UInt8} (some_byte : bytes ≠ []) :
    (toBytes (ofBytes bytes)).length ≤ bytes.length := by
  obtain ⟨more, bytes_eq⟩ := eq_toBytes_append some_byte
  have length := congrArg List.length bytes_eq
  rw [List.length_append] at length
  omega

/-! ## Further bytes -/

/-- The last byte tells whether an integer is negative. -/
theorem signByte_eq_fill {bytes : List UInt8} (some_byte : bytes ≠ []) :
    signByte bytes = fill (ofBytes bytes) := by
  induction bytes with
  | nil => exact absurd rfl some_byte
  | cons low rest ih =>
    by_cases last : rest = []
    · subst last
      simp only [signByte, fill, ofBytes_singleton_neg_iff, List.getLastD_cons, List.getLastD_nil]
      split <;> rfl
    · obtain ⟨next, others, rfl⟩ := List.exists_cons_of_ne_nil last
      rw [fill_ofBytes_cons last, ← ih last]
      simp only [signByte, List.getLastD_cons]

theorem ofBytes_replicate_fill (n : Int) (more : Nat) :
    ofBytes (List.replicate (more + 1) (fill n)) = if n < 0 then -1 else 0 := by
  induction more with
  | zero =>
    rw [fill]
    split <;> rfl
  | succ more ih =>
    rw [List.replicate_succ, ofBytes_cons (by simp), ih, fill]
    split <;> rfl

/-- Repeating the sign changes nothing. -/
theorem ofBytes_append_fill {bytes : List UInt8} (some_byte : bytes ≠ []) (more : Nat) :
    ofBytes (bytes ++ List.replicate more (fill (ofBytes bytes))) = ofBytes bytes := by
  cases more with
  | zero => rw [List.replicate_zero, List.append_nil]
  | succ more =>
    induction bytes with
    | nil => exact absurd rfl some_byte
    | cons low rest ih =>
      rw [List.cons_append, ofBytes_cons (by simp)]
      by_cases last : rest = []
      · subst last
        rw [List.nil_append, ofBytes_replicate_fill]
        by_cases positive : low < 128
        · rw [if_neg (mt ofBytes_singleton_neg_iff.mp (not_not.mpr positive)),
            ofBytes_singleton_of_lt positive]
        · rw [if_pos (ofBytes_singleton_neg_iff.mpr positive),
            ofBytes_singleton_of_not_lt positive]
      · rw [fill_ofBytes_cons last, ih last, ofBytes_cons last]

/-- Bytes that are extended far enough are the fewest bytes of their integer, extended as far. -/
theorem extended_eq {bytes : List UInt8} {length : Nat} (some_byte : bytes ≠ [])
    (enough : bytes.length ≤ length) :
    extended length bytes =
      toBytes (ofBytes bytes) ++
        List.replicate (length - (toBytes (ofBytes bytes)).length) (fill (ofBytes bytes)) := by
  obtain ⟨more, bytes_eq⟩ := eq_toBytes_append some_byte
  have count := congrArg List.length bytes_eq
  rw [List.length_append, List.length_replicate] at count
  have all : length - (toBytes (ofBytes bytes)).length = more + (length - bytes.length) := by omega
  rw [all, List.replicate_add, ← List.append_assoc, ← bytes_eq, extended, List.rightpad,
    signByte_eq_fill some_byte]

theorem ofBytes_extended {bytes : List UInt8} (some_byte : bytes ≠ []) (length : Nat) :
    ofBytes (extended length bytes) = ofBytes bytes := by
  rw [extended, List.rightpad, signByte_eq_fill some_byte, ofBytes_append_fill some_byte]

/-- Bytes stand for the same integer exactly if they are the same once they are extended to a common
length. -/
theorem ofBytes_eq_iff_extended_eq {bytes bytes' : List UInt8} {length : Nat}
    (some_byte : bytes ≠ []) (some_byte' : bytes' ≠ []) (enough : bytes.length ≤ length)
    (enough' : bytes'.length ≤ length) :
    ofBytes bytes = ofBytes bytes' ↔ extended length bytes = extended length bytes' := by
  constructor
  · intro same
    rw [extended_eq some_byte enough, extended_eq some_byte' enough', same]
  · intro same
    rw [← ofBytes_extended some_byte length, same, ofBytes_extended some_byte']

end BigInteger

namespace Wire

open BigInteger

theorem decodeBigInteger_of_ne_nil {bytes : List UInt8} (some_byte : bytes ≠ []) :
    decodeBigInteger bytes = .ok (ofBytes bytes) := by
  rw [decodeBigInteger, List.isEmpty_eq_false_iff.mpr some_byte]
  rfl

theorem decodeBigInteger_eq_ok_iff {bytes : List UInt8} {n : Int} :
    decodeBigInteger bytes = .ok n ↔ bytes ≠ [] ∧ ofBytes bytes = n := by
  by_cases none : bytes = []
  · subst none
    exact iff_of_false nofun fun given => given.1 rfl
  · rw [decodeBigInteger_of_ne_nil none]
    simp [none]

/-- Decoding reads bytes as two's complement, the first being the least significant, and refuses
only the empty list. The fewest bytes of an integer decode to it, and any bytes that do so are
these, continued by the sign. So bytes decode to the same integer exactly if they are the same
once their sign bits are repeated up to a common length. -/
theorem decodeBigInteger_exact :
    (∀ bytes fault, decodeBigInteger bytes = .error fault ↔
      bytes = [] ∧ fault = .malformed "big integer" "no bytes") ∧
    (∀ (bytes : List UInt8) (some_byte : bytes ≠ []),
      decodeBigInteger bytes =
        .ok (∑ i : Fin bytes.length, (bytes[i].toNat : Int) * 256 ^ (i : Nat) -
          if 128 ≤ bytes.getLast some_byte then 256 ^ bytes.length else 0)) ∧
    toBytes 0 = [0] ∧
    (∀ n, decodeBigInteger (toBytes n) = .ok n ∧
      ∀ bytes, decodeBigInteger bytes = .ok n →
        (toBytes n).length ≤ bytes.length ∧
          ∃ more, bytes = toBytes n ++ List.replicate more (if n < 0 then 255 else 0)) ∧
    ∀ bytes bytes' length, bytes ≠ [] → bytes' ≠ [] → bytes.length ≤ length →
      bytes'.length ≤ length →
      (decodeBigInteger bytes = decodeBigInteger bytes' ↔
        extended length bytes = extended length bytes') := by
  refine ⟨?_, ?_, toBytes_zero, ?_, ?_⟩
  · intro bytes fault
    by_cases none : bytes = []
    · subst none
      simp [decodeBigInteger, eq_comm]
    · simp [decodeBigInteger_of_ne_nil none, none]
  · intro bytes some_byte
    rw [decodeBigInteger_of_ne_nil some_byte, ofBytes_eq_sum bytes some_byte]
  · intro n
    refine ⟨decodeBigInteger_eq_ok_iff.mpr ⟨toBytes_ne_nil n, ofBytes_toBytes n⟩, ?_⟩
    intro bytes decoded
    obtain ⟨some_byte, rfl⟩ := decodeBigInteger_eq_ok_iff.mp decoded
    exact ⟨length_toBytes_le some_byte, eq_toBytes_append some_byte⟩
  · intro bytes bytes' length some_byte some_byte' enough enough'
    rw [decodeBigInteger_of_ne_nil some_byte, decodeBigInteger_of_ne_nil some_byte',
      Except.ok.injEq]
    exact ofBytes_eq_iff_extended_eq some_byte some_byte' enough enough'

/-- A zero byte below the sign of a negative number, in two and in four bytes. -/
theorem decodeBigInteger_exact_minus_256 :
    toBytes (-256) = [0, 255] ∧ decodeBigInteger [0, 255] = decodeBigInteger [0, 255, 255, 255] ∧
      ∃ more, [0, 255, 255, 255] = toBytes (-256) ++ List.replicate more 255 := by
  obtain ⟨-, -, -, fewest, alike⟩ := decodeBigInteger_exact
  have same : decodeBigInteger [0, 255] = decodeBigInteger [0, 255, 255, 255] :=
    (alike [0, 255] [0, 255, 255, 255] 4 nofun nofun (by decide) (by decide)).mpr (by decide)
  obtain ⟨-, more, split⟩ := (fewest (-256)).2 [0, 255, 255, 255] (by decide)
  have least : toBytes (-256) = [0, 255] := by
    rw [toBytes_of_large (by decide), toBytes_of_small (by decide)]
    decide
  exact ⟨least, same, more, split⟩

end Wire

end WireTree
