import Skirmish.Number.Binary

/-!
# The shortest decimal that reads back

A double stands for the interval of reals that round to it. Its text is the decimal with the
fewest digits in that interval and, of two such decimals, the nearer one; a tie goes up.
The search runs over the grids `10 ^ k`, coarsest first: a grid has a point in the interval only if
one of the two neighbours of the value on the grid lies there.
-/

namespace Skirmish

/-- The number `digits · 10 ^ exponent`. -/
structure Decimal where
  digits : Nat
  exponent : Int
  deriving DecidableEq

namespace Shortest

/-- The values of one double and a decimal grid on a common scale: a point `c` of the grid is
`c * step`, the double is `value`, and `low` to `high` is the interval that rounds to it. -/
structure Frame where
  step : Nat
  low : Nat
  value : Nat
  high : Nat
  closed : Bool

/-- The frame of a positive double on the grid `10 ^ k`. -/
def frame (b : Binary) (k : Int) : Frame :=
  let step := Nat.pow 10 k.toNat <<< (2 - b.exponent).toNat
  let scale := Nat.pow 10 (-k).toNat <<< (b.exponent - 2).toNat
  let gap := if b.significand = 1 <<< 52 ∧ -1074 < b.exponent then 1 else 2
  { step
    low := (4 * b.significand - gap) * scale
    value := 4 * b.significand * scale
    high := (4 * b.significand + 2) * scale
    closed := b.significand % 2 == 0 }

/-- Whether the point `c` of the grid rounds to the double. -/
def Frame.holds (f : Frame) (c : Nat) : Bool :=
  c != 0 &&
    if f.closed then decide (f.low ≤ c * f.step ∧ c * f.step ≤ f.high)
    else decide (f.low < c * f.step ∧ c * f.step < f.high)

/-- The nearest point of the grid that rounds to the double, if there is one. -/
def Frame.point? (f : Frame) : Option Nat :=
  let below := f.value / f.step
  let above := below + 1
  match f.holds below, f.holds above with
  | true, true =>
    if f.value - below * f.step < above * f.step - f.value then some below else some above
  | true, false => some below
  | false, true => some above
  | false, false => none

/-- Tries the grids `10 ^ k`, `10 ^ (k - 1)` and so on; the last one is taken as it is. -/
def search (b : Binary) : Nat → Int → Decimal
  | 0, k => ⟨(frame b k).value / (frame b k).step, k⟩
  | n + 1, k =>
    match (frame b k).point? with
    | some c => ⟨c, k⟩
    | none => search b n (k - 1)

/-- The shortest decimal of a positive double. The first grid is coarser than the number, and
seventeen digits always suffice. -/
def ofBinary (b : Binary) : Decimal :=
  search b 20 (((Nat.log2 b.significand + 1 + b.exponent) * 30103) / 100000 + 1)

end Shortest

/-- The digits of a decimal without exponent: zeros fill the places up to the point. -/
def Decimal.positional (d : Decimal) : String :=
  let ds := Nat.toDigits 10 d.digits
  let places := (-d.exponent).toNat
  String.ofList <|
    if places = 0 then ds ++ List.replicate d.exponent.toNat '0'
    else if places < ds.length then
      ds.take (ds.length - places) ++ '.' :: ds.drop (ds.length - places)
    else '0' :: '.' :: (List.replicate (places - ds.length) '0' ++ ds)

/-- The text of a double: sign, then the shortest decimal in positional form; a whole number has
no point. -/
def Number.text (x : Float) : String :=
  if x.isNaN then "NaN"
  else
    let b := Binary.ofFloat x
    let magnitude :=
      if x.isInf then "inf"
      else if b.significand = 0 then "0"
      else (Shortest.ofBinary b).positional
    if b.negative then "-" ++ magnitude else magnitude

end Skirmish
