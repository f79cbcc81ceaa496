/-!
# The exact value of a double

A finite double is `± significand · 2 ^ exponent`. Reading it this way from its bits lets rounding
to a word be done in exact integer arithmetic: to the nearest integer, a half away from zero,
and then to the nearest word.
-/

namespace Skirmish

/-- The number `± significand · 2 ^ exponent`. -/
structure Binary where
  negative : Bool
  significand : Nat
  exponent : Int
  deriving DecidableEq

namespace Binary

/-- The value of a double. An infinity reads as `± 2 ^ 1024`, beyond every finite double. -/
def ofFloat (x : Float) : Binary :=
  let bits := x.toBits.toNat
  let fraction := bits % (1 <<< 52)
  let field := (bits >>> 52) % (1 <<< 11)
  { negative := bits >>> 63 == 1
    significand := if field = 0 then fraction else fraction + (1 <<< 52)
    exponent := (max field 1 : Nat) - 1075 }

/-- The absolute value, rounded to the nearest natural number, a half upwards. -/
def nearestNat (b : Binary) : Nat :=
  if 0 ≤ b.exponent then
    b.significand <<< b.exponent.toNat
  else
    let unit := 1 <<< (-b.exponent).toNat
    (2 * b.significand + unit) / (2 * unit)

/-- The nearest integer, a half away from zero. -/
def nearest (b : Binary) : Int :=
  if b.negative then -b.nearestNat else b.nearestNat

end Binary

namespace Number

/-- The word nearest to a double, a half away from zero; not a number gives zero. -/
def toWord (x : Float) : Int64 :=
  if x.isNaN then 0 else .ofIntClamp (Binary.ofFloat x).nearest

/-- The double nearest to a word, a tie to the even one. -/
def ofWord (n : Int64) : Float :=
  Float.ofInt n.toInt

/-- A word scaled by a ratio and rounded back to a word. -/
def scale (n : Int64) (ratio : Float) : Int64 :=
  toWord (ofWord n * ratio)

/-- The greater of two doubles, of equal ones the second; a number wins over not a number. -/
def maxOf (x y : Float) : Float :=
  if y.isNaN || y < x then x else y

/-- The lesser of two doubles, of equal ones the second; a number wins over not a number. -/
def minOf (x y : Float) : Float :=
  if y.isNaN || x < y then x else y

/-- A double kept within `[low, high]`; not a number stays as it is. -/
def clamp (x low high : Float) : Float :=
  let x := if x < low then low else x
  if high < x then high else x

end Number

end Skirmish
