import WireTree.Binary64.Basic

/-!
# Rounded arithmetic of doubles

The double nearest to a fraction, ties to the even neighbour, in exact arithmetic, and with it the
product and the quotient of two doubles. All of it works on magnitude bits, and a result that is
too great is not below the bits of infinity.

A decimal number becomes a double in steps that round each: its significand is rounded, and then
multiplied with a power of ten, or divided by one, that is itself rounded. The outcome need not be
the double nearest to the decimal number.
-/

namespace WireTree.Binary64

/-- The quotient rounded to the nearest whole number, a tie to the even one. -/
def roundHalfEven (num den : Nat) : Nat :=
  let quotient := num / den
  let twice := 2 * (num % den)
  if twice < den then quotient
  else if den < twice then quotient + 1
  else quotient + quotient % 2

/-- The greatest power of two, by its exponent, that does not exceed `num / den`. Both are
positive. -/
def floorLog2 (num den : Nat) : Int :=
  let guess : Int := (num.log2 : Int) - (den.log2 : Int)
  if den <<< guess.toNat ≤ num <<< (-guess).toNat then guess else guess - 1

/-- The magnitude bits of the number nearest to `num / den`. The significand is a whole
number of units `2 ^ unit`; because neighbouring bit patterns are neighbouring numbers, a
significand that rounds up to the next power of two carries into the exponent by itself. -/
def roundedMagnitude (num den : Nat) : Nat :=
  if num = 0 then 0
  else
    let unit : Int := max (floorLog2 num den - 52) (-1074)
    let significand := roundHalfEven (num <<< (-unit).toNat) (den <<< unit.toNat)
    (unit + 1074).toNat * exponentBit + significand

/-- The double nearest to an integer of at most 64 bits. -/
def ofInt (n : Int) : Binary64 :=
  ofMagnitude (decide (n < 0)) (roundedMagnitude n.natAbs 1)

/-- The magnitude bits of a product. -/
def product (a b : Nat) : Nat :=
  let unit := unit a + unit b
  roundedMagnitude ((significand a * significand b) <<< unit.toNat) (1 <<< (-unit).toNat)

/-- The magnitude bits of a quotient; the divisor is not zero. -/
def quotient (a b : Nat) : Nat :=
  let unit := unit a - unit b
  roundedMagnitude (significand a <<< unit.toNat) (significand b <<< (-unit).toNat)

/-! ## Decimal numbers -/

/-- The exponent of the greatest power of ten that is finite. -/
def greatestPower : Nat := 308

/-- The magnitude bits of a power of ten. -/
def powerOfTen (exponent : Nat) : Nat :=
  roundedMagnitude (Nat.pow 10 exponent) 1

/-- The magnitude bits of a number multiplied with a power of ten, if that is finite. One power
is enough unless it is too small for a double: then as many of the greatest are divided by as are
needed, or as leave anything. -/
def scaled? (magnitude : Nat) (scale : Int) : Option Nat :=
  if scale.natAbs ≤ greatestPower then
    if 0 ≤ scale then
      let magnitude := product magnitude (powerOfTen scale.natAbs)
      if magnitude < infinityBits then some magnitude else none
    else some (quotient magnitude (powerOfTen scale.natAbs))
  else if magnitude = 0 then some 0
  else if 0 ≤ scale then none
  else scaled? (quotient magnitude (powerOfTen greatestPower)) (scale + greatestPower)
termination_by scale.natAbs
decreasing_by
  simp only [greatestPower] at *
  omega

/-- The double that stands for a decimal number, if it is finite. -/
def ofDecimal? (negative : Bool) (significand : Nat) (scale : Int) : Option Binary64 :=
  (scaled? (roundedMagnitude significand 1) scale).map (ofMagnitude negative)

end WireTree.Binary64
