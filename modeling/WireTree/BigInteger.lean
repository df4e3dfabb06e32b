/-!
# Integers of any size

They travel in two forms. On the wire they are the bytes of their two's complement, least
significant first; in trees they are a sign and the digits of their magnitude to the base `2 ^ 32`,
least significant first.
Main statements: the bytes and the digits of an integer give it back (`ofBytes_toBytes`,
`ofDigits_digits`).
-/

namespace WireTree.BigInteger

/-- The integer of two's complement bytes: the last byte carries the sign. No bytes are
zero. -/
def ofBytes : List UInt8 → Int
  | [] => 0
  | [top] => if top < 128 then top.toNat else top.toNat - 256
  | low :: rest => low.toNat + 256 * ofBytes rest

/-- The fewest bytes whose two's complement is an integer. -/
def toBytes (n : Int) : List UInt8 :=
  if -128 ≤ n ∧ n < 128 then [UInt8.ofNat (n % 256).toNat]
  else UInt8.ofNat (n % 256).toNat :: toBytes (n / 256)
termination_by n.natAbs
decreasing_by omega

/-- The low byte of an integer. -/
theorem toNat_lowByte (n : Int) : ((UInt8.ofNat (n % 256).toNat).toNat : Int) = n % 256 := by
  have small : (n % 256).toNat < 2 ^ 8 := by omega
  rw [UInt8.toNat_ofNat_of_lt' small]
  omega

theorem ofBytes_cons {low : UInt8} {rest : List UInt8} (more : rest ≠ []) :
    ofBytes (low :: rest) = low.toNat + 256 * ofBytes rest := by
  cases rest with
  | nil => exact absurd rfl more
  | cons next rest => rfl

theorem toBytes_ne_nil (n : Int) : toBytes n ≠ [] := by
  unfold toBytes
  split <;> simp

theorem ofBytes_toBytes (n : Int) : ofBytes (toBytes n) = n := by
  fun_induction toBytes n with
  | case1 n small =>
    have low := toNat_lowByte n
    have sign : UInt8.ofNat (n % 256).toNat < 128 ↔ (UInt8.ofNat (n % 256).toNat).toNat < 128 :=
      UInt8.lt_iff_toNat_lt
    rw [ofBytes]
    split
    · rename_i positive
      have bound := sign.mp positive
      omega
    · rename_i negative
      have bound := mt sign.mpr negative
      omega
  | case2 n large ih =>
    rw [ofBytes_cons (toBytes_ne_nil _), ih, toNat_lowByte]
    omega

/-- The base of the digits. -/
def base : Nat := UInt32.size

/-- The digits of a number, without leading zeros; zero has none. -/
def digits (n : Nat) : List UInt32 :=
  if n = 0 then []
  else UInt32.ofNat (n % base) :: digits (n / base)
termination_by n
decreasing_by
  have : 1 < base := by decide
  exact Nat.div_lt_self (by omega) this

/-- The number that digits denote, leading zeros or not. -/
def ofDigits : List UInt32 → Nat
  | [] => 0
  | low :: rest => low.toNat + base * ofDigits rest

/-- The low digit of a number. -/
theorem toNat_lowDigit (n : Nat) : (UInt32.ofNat (n % base)).toNat = n % base :=
  UInt32.toNat_ofNat_of_lt' (Nat.mod_lt _ (by decide))

theorem ofDigits_digits (n : Nat) : ofDigits (digits n) = n := by
  induction n using Nat.strongRecOn with
  | ind n ih =>
    unfold digits
    split
    · rename_i zero
      simp [ofDigits, zero]
    · rename_i nonzero
      have smaller : n / base < n := Nat.div_lt_self (by omega) (by decide)
      rw [ofDigits, ih _ smaller, toNat_lowDigit, Nat.mod_add_div]

/-- The sign of an integer. -/
inductive Sign where
  | negative
  | zero
  | positive
deriving DecidableEq

/-- The sign as it is written: -1, 0 or 1. -/
def Sign.toInt : Sign → Int
  | .negative => -1
  | .zero => 0
  | .positive => 1

/-- The sign that an integer writes. -/
def Sign.ofInt? (n : Int) : Option Sign :=
  if n = -1 then some .negative
  else if n = 0 then some .zero
  else if n = 1 then some .positive
  else none

/-- The sign of an integer. -/
def sign (n : Int) : Sign :=
  if n < 0 then .negative else if n = 0 then .zero else .positive

/-- The integer with a sign and the digits of a magnitude. The sign zero makes it zero,
whatever the digits are. -/
def ofSignDigits (sign : Sign) (digits : List UInt32) : Int :=
  sign.toInt * ofDigits digits

end WireTree.BigInteger
