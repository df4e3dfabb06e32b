/-!
# Double-precision numbers

They are held as their 64 bits. The bits are what a literal carries: `=` compares them, so that a
NaN literal is the same as itself and the two zeros are different, while `==` is the comparison of
numbers, under which no NaN equals anything and the zeros are equal.
-/

namespace WireTree

/-- An IEEE-754 double-precision number, held as its bits. -/
structure Binary64 where
  bits : UInt64
deriving DecidableEq

namespace Binary64

/-- The weight of the sign bit. -/
def signBit : Nat := 1 <<< 63

/-- The weight of the least bit of the exponent, which the fraction's bits stay below. -/
def exponentBit : Nat := 1 <<< 52

/-- The bits of positive infinity, the least magnitude that is no finite number. -/
def infinityBits : Nat := 0x7FF * exponentBit

/-- Whether the sign bit is set. -/
def negative (d : Binary64) : Bool :=
  decide (signBit ≤ d.bits.toNat)

/-- The bits without the sign bit. -/
def magnitude (d : Binary64) : Nat :=
  d.bits.toNat % signBit

/-- The whole number of units that finite magnitude bits stand for. -/
def significand (magnitude : Nat) : Nat :=
  let fraction := magnitude % exponentBit
  if magnitude / exponentBit = 0 then fraction else exponentBit + fraction

/-- The power of two, by its exponent, that is the unit of magnitude bits. -/
def unit (magnitude : Nat) : Int :=
  (max (magnitude / exponentBit) 1 : Nat) - 1075

/-- The number with the given sign and magnitude bits. -/
def ofMagnitude (negative : Bool) (magnitude : Nat) : Binary64 :=
  ⟨UInt64.ofNat (if negative then signBit + magnitude else magnitude)⟩

/-- Positive zero. -/
def zero : Binary64 := ⟨0⟩

/-- Whether the bits denote no number at all. -/
def isNaN (d : Binary64) : Bool :=
  decide (infinityBits < d.magnitude)

/-- Whether the bits denote a zero of either sign. -/
def isZero (d : Binary64) : Bool :=
  d.magnitude == 0

/-- Equality of the numbers denoted: no NaN equals anything, and the two zeros are equal. -/
def sameNumber (a b : Binary64) : Bool :=
  !a.isNaN && !b.isNaN && (a.bits == b.bits || a.isZero && b.isZero)

instance : BEq Binary64 := ⟨sameNumber⟩

/-- The bits in sixteen hexadecimal digits after `0x`. -/
def hex (d : Binary64) : String :=
  let digits := Nat.toDigits 16 d.bits.toNat
  String.ofList ('0' :: 'x' :: List.replicate (16 - digits.length) '0' ++ digits)

end Binary64

end WireTree
