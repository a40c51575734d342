/-!
# Decimal scaling in double arithmetic

A decimal `significand · 10 ^ exponent` with a 64-bit significand is turned into a double in
double arithmetic: the significand is rounded to a double, then multiplied or divided by the
double nearest to `10 ^ |exponent|`, each operation rounding once. Below `10 ^ -308` the value is
first divided by `10 ^ 308` as often as needed. This is not always the double nearest to the
decimal: a significand of more than 53 bits, or a power of ten that is not exact, can move the
result by one unit in the last place.

A product that overflows, or an exponent above 308 with a non-zero significand, has no double.
-/

namespace StripedMerkle
namespace Decimal

/-- The double nearest to `10 ^ k`. -/
def powerOfTen (k : Nat) : Float :=
  Float.ofScientific 1 false k

/-- Scales `value` by `10 ^ exponent` in double arithmetic; `none` when the result overflows. -/
def scaleByTen (value : Float) (exponent : Int) : Option Float :=
  if exponent.natAbs ≤ 308 then
    if 0 ≤ exponent then
      let product := value * powerOfTen exponent.natAbs
      if product.isInf then none else some product
    else some (value / powerOfTen exponent.natAbs)
  else if value == 0 then some value
  else if 0 ≤ exponent then none
  else scaleByTen (value / powerOfTen 308) (exponent + 308)
termination_by (-exponent).toNat
decreasing_by omega

/-- The double of `±significand · 10 ^ exponent`, in double arithmetic. -/
def ofParts (negative : Bool) (significand : UInt64) (exponent : Int) : Option Float :=
  (scaleByTen significand.toFloat exponent).map fun magnitude =>
    if negative then -magnitude else magnitude

end Decimal
end StripedMerkle
