/-!
# Shortest decimal digits of a double

A finite non-zero double is a binary fraction `m · 2 ^ q`. The reals that round to it form an
interval around it, whose ends belong to it exactly when `m` is even. Its shortest decimal is the
decimal with the fewest significant digits inside that interval; of the two neighbours of the
double on that decimal grid, the nearer one is taken, and an exact tie goes to the even one.

All arithmetic is on natural numbers: a value `a · 2 ^ i · 10 ^ j` is kept as a fraction.
-/

namespace StripedMerkle
namespace Decimal

/-- A fraction of natural numbers, compared by cross multiplication. -/
structure Fraction where
  /-- The numerator. -/
  num : Nat
  /-- The denominator, positive for every fraction built here. -/
  den : Nat

namespace Fraction

/-- The value `value · 2 ^ twos · 10 ^ tens`. -/
def scaled (value : Nat) (twos tens : Int) : Fraction :=
  ⟨value * Nat.pow 2 twos.toNat * Nat.pow 10 tens.toNat,
    Nat.pow 2 (-twos).toNat * Nat.pow 10 (-tens).toNat⟩

/-- The order of two fractions. -/
def compare (a b : Fraction) : Ordering :=
  Ord.compare (a.num * b.den) (b.num * a.den)

/-- The number of decimal digits of a natural number, one for zero. -/
def digitCount (n : Nat) : Nat :=
  (Nat.toDigits 10 n).length

/-- The exponent of the highest power of ten at most a positive fraction. -/
def floorLog10 (x : Fraction) : Int :=
  if x.den ≤ x.num then
    (digitCount (x.num / x.den) : Int) - 1
  else
    -- the least `j` with `10 ^ j ≥ den / num`, which is the least with `10 ^ j ≥ ⌈den / num⌉`
    -(digitCount ((x.den + x.num - 1) / x.num - 1) : Int)

end Fraction

/-- A finite non-zero magnitude `mantissa · 2 ^ exponent` of a double, and whether the gap to the
next double below is half the gap above, as at the lowest value of a binade. -/
structure Binary where
  /-- The integer significand. -/
  mantissa : Nat
  /-- The power of two it is scaled by. -/
  exponent : Int
  /-- Whether the double below lies half as far as the double above. -/
  narrowBelow : Bool

namespace Binary

/-- The magnitude of a double given by its bits; `none` for zero. Infinities and NaNs are read as
if their exponent field were that of a finite double, and are never passed here. -/
def ofBits (bits : UInt64) : Option Binary :=
  let biased := ((bits >>> 52) &&& 0x7FF).toNat
  let fraction := (bits &&& 0xFFFFFFFFFFFFF).toNat
  if biased = 0 then
    if fraction = 0 then none else some ⟨fraction, -1074, false⟩
  else
    some ⟨fraction + Nat.pow 2 52, (biased : Int) - 1075, fraction = 0 && 1 < biased⟩

/-- The value itself. -/
def value (b : Binary) : Fraction :=
  .scaled b.mantissa b.exponent 0

/-- Whether `digits · 10 ^ exponent` rounds to this double. -/
def rounds (b : Binary) (digits : Nat) (exponent : Int) : Bool :=
  let lower := Fraction.scaled (4 * b.mantissa - if b.narrowBelow then 1 else 2) (b.exponent - 2) 0
  let upper := Fraction.scaled (4 * b.mantissa + 2) (b.exponent - 2) 0
  let x := Fraction.scaled digits 0 exponent
  if b.mantissa % 2 = 0 then
    lower.compare x != .gt && x.compare upper != .gt
  else
    lower.compare x == .lt && x.compare upper == .lt

/-- The decimal of `count` significant digits that rounds to this double, if one does: of the
two neighbours on that grid, the one inside the interval, or the nearer if both are. -/
def withDigits (b : Binary) (count : Nat) : Option (Nat × Int) :=
  let exponent := Fraction.floorLog10 b.value + 1 - count
  let grid := Fraction.scaled b.mantissa b.exponent (-exponent)
  let below := grid.num / grid.den
  match b.rounds below exponent, b.rounds (below + 1) exponent with
  | true, true =>
      match (Fraction.scaled (2 * b.mantissa) b.exponent 0).compare
          (.scaled (2 * below + 1) 0 exponent) with
      | .lt => some (below, exponent)
      | .gt => some (below + 1, exponent)
      | .eq => if below % 2 = 0 then some (below, exponent) else some (below + 1, exponent)
  | true, false => some (below, exponent)
  | false, true => some (below + 1, exponent)
  | false, false => none

end Binary

/-- Removes the trailing zeros of `digits · 10 ^ exponent`, keeping its value. -/
def trimZeros (digits : Nat) (exponent : Int) : Nat × Int :=
  if digits ≠ 0 ∧ digits % 10 = 0 then trimZeros (digits / 10) (exponent + 1) else (digits, exponent)
termination_by digits
decreasing_by omega

/-- The shortest decimal `digits · 10 ^ exponent` of a finite non-zero double, without trailing
zeros. Seventeen significant digits always suffice. -/
def shortest (b : Binary) : Nat × Int :=
  let found := (List.range 17).findSome? fun count => b.withDigits (count + 1)
  let (digits, exponent) := found.getD ((b.withDigits 17).getD (b.mantissa, 0))
  trimZeros digits exponent

end Decimal
end StripedMerkle
