import WireTree.Binary64.Basic

/-!
# The shortest decimal text of a double

It has the fewest significant digits that read back as the same number; of those it is the nearest
to it, and of two equally near the one with the even last digit.
-/

namespace WireTree.Binary64

/-- The interval of reals that round to a positive finite magnitude. All four are whole
numbers of units `2 ^ unit`. -/
structure Rounds where
  value : Nat
  low : Nat
  high : Nat
  unit : Int
  /-- Whether the two ends round to the number too. -/
  closed : Bool

/-- The interval that rounds to a magnitude: half a step to each side, but a quarter of the
upper step below a power of two, where the lower step is half as wide. -/
def rounds (magnitude : Nat) : Rounds :=
  let significand := significand magnitude
  { value := 4 * significand
    low := 4 * significand -
      (if magnitude % exponentBit = 0 ∧ 1 < magnitude / exponentBit then 1 else 2)
    high := 4 * significand + 2
    unit := unit magnitude - 2
    closed := significand % 2 = 0 }

/-- A decimal number: `digits * 10 ^ scale`. -/
structure Decimal where
  digits : Nat
  scale : Int

/-- The multiples of `10 ^ scale` next to the value, those of them that round to it, and of
two the nearer (the even one of two equally near). -/
def Rounds.onGrid? (r : Rounds) (scale : Int) : Option Decimal :=
  -- one unit is `num / den` steps of the grid
  let num := Nat.pow 10 (-scale).toNat <<< r.unit.toNat
  let den := Nat.pow 10 scale.toNat <<< (-r.unit).toNat
  let inside (d : Nat) : Bool :=
    if r.closed then r.low * num ≤ d * den && d * den ≤ r.high * num
    else r.low * num < d * den && d * den < r.high * num
  let below := r.value * num / den
  let above := below + 1
  let toBelow := r.value * num - below * den
  let toAbove := above * den - r.value * num
  let chosen :=
    if inside below && 0 < below then
      if inside above then
        if toBelow < toAbove then some below
        else if toAbove < toBelow then some above
        else some (below + below % 2)
      else some below
    else if inside above then some above
    else none
  chosen.map fun digits => ⟨digits, scale⟩

/-- The first grid with a hit, from coarse to fine. -/
def Rounds.search (r : Rounds) : Nat → Int → Decimal
  | 0, scale => ⟨0, scale⟩
  | steps + 1, scale =>
    match r.onGrid? scale with
    | some decimal => decimal
    | none => r.search steps (scale - 1)

/-- A scale whose grid is coarser than the value, a little more than its decimal exponent. -/
def Rounds.coarsest (r : Rounds) : Int :=
  ((r.value.log2 : Int) + r.unit) * 1233 / 4096 + 2

/-- The shortest decimal of a positive finite magnitude. Seventeen digits always read back,
and the search begins at most a few grids above the first one. -/
def shortest (magnitude : Nat) : Decimal :=
  let r := rounds magnitude
  r.search 25 r.coarsest

/-- How a shortest decimal is laid out. -/
structure Layout where
  /-- The leading digit's exponents that are written positionally. -/
  lowest : Int
  highest : Int
  /-- What a whole number ends in. -/
  wholeEnding : String
  /-- What stands before a positive exponent, and before a negative one. -/
  positiveMark : String
  negativeMark : String

/-- From `0.00001` to fifteen zeros positionally, with a point in every such text, and beyond
that with an exponent after `e`, which always has a sign. -/
def layout : Layout := ⟨-5, 15, ".0", "e+", "e-"⟩

private def zeros (n : Nat) : String :=
  String.ofList (List.replicate n '0')

/-- The text of a positive decimal. -/
def Layout.text (l : Layout) (d : Decimal) : String :=
  let digits := Nat.toDigits 10 d.digits
  let leading : Int := (digits.length : Int) - 1 + d.scale
  if l.lowest ≤ leading ∧ leading ≤ l.highest then
    if 0 ≤ d.scale then
      String.ofList digits ++ zeros d.scale.toNat ++ l.wholeEnding
    else if 0 ≤ leading then
      String.ofList (digits.take (leading.toNat + 1)) ++ "." ++
        String.ofList (digits.drop (leading.toNat + 1))
    else
      "0." ++ zeros (-leading - 1).toNat ++ String.ofList digits
  else
    String.ofList (digits.take 1) ++ (if digits.length = 1 then "" else ".") ++
      String.ofList (digits.drop 1) ++
      (if leading < 0 then l.negativeMark else l.positiveMark) ++ toString leading.natAbs

/-- The shortest text of a finite double. -/
def text (d : Binary64) : String :=
  (if d.negative then "-" else "") ++
    if d.isZero then "0" ++ layout.wholeEnding else layout.text (shortest d.magnitude)

end WireTree.Binary64
