/-!
A double from a significand and a decimal exponent: the significand is rounded to a double first and
then multiplied or divided by a power of ten, one rounding each. The result may differ from the
double nearest to the decimal in its last bit; it is the value that peers agree on.
-/
namespace MessageRelay.Scaled

def powerOfTen (n : Nat) : Float := Float.ofScientific 1 false n

/-- Divides by `10^308` as long as the exponent is below `-308`; two rounds empty any significand. -/
def shrink (x : Float) : (fuel : Nat) → Int → Float
  | 0, _ => x
  | fuel + 1, exponent =>
    if -308 ≤ exponent then x / powerOfTen (-exponent).toNat
    else if x == 0 then x
    else shrink (x / powerOfTen 308) fuel (exponent + 308)

/-- `significand * 10^exponent`; no value where it would be infinite. -/
def toDouble? (significand : UInt64) (exponent : Int) : Option Float :=
  let x := significand.toFloat
  if exponent < 0 then some (shrink x 4 exponent)
  else if exponent ≤ 308 then
    let y := x * powerOfTen exponent.toNat
    if y.isInf then none else some y
  else if x == 0 then some x else none

end MessageRelay.Scaled
