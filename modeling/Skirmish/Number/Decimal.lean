import Skirmish.Number.Shortest
import Skirmish.Text.Blank

/-!
# Reading numbers from text

An integer is an optional sign and decimal digits. A decimal number is an optional sign, digits
with at most one point among them, and an optional exponent; the words for infinity and for not a
number are read in any letter case. Decimals round to the nearest double.
-/

namespace Skirmish

/-- The double nearest to a decimal, a tie to the even one. Exponents far outside the range of
doubles are decided by the number of digits alone. -/
def Decimal.toFloat (d : Decimal) : Float :=
  let top := d.exponent + (Nat.toDigits 10 d.digits).length
  if d.digits = 0 ∨ top < -400 then 0.0
  else if 400 < top then 1.0 / 0.0
  else if d.exponent < 0 then Float.ofScientific d.digits true (-d.exponent).toNat
  else Float.ofScientific d.digits false d.exponent.toNat

namespace Number

def digit? (c : Char) : Option Nat :=
  if c.isDigit then some (c.toNat - '0'.toNat) else none

/-- The number that a list of decimal digits spells. -/
def ofDigits (cs : List Char) : Nat :=
  cs.foldl (fun n c => 10 * n + (c.toNat - '0'.toNat)) 0

/-- Splits an optional sign from a text. -/
def sign : List Char → Bool × List Char
  | '-' :: cs => (true, cs)
  | '+' :: cs => (false, cs)
  | cs => (false, cs)

/-- An integer written as an optional sign and at least one digit. -/
def int? (cs : List Char) : Option Int :=
  let (negative, ds) := sign cs
  if ds ≠ [] ∧ ds.all Char.isDigit then
    some (if negative then -ofDigits ds else ofDigits ds)
  else none

/-- The word that an integer stands for, if it is in range. -/
def word? (n : Int) : Option Int64 :=
  if Int64.minValue.toInt ≤ n ∧ n ≤ Int64.maxValue.toInt then some (.ofInt n) else none

/-- A word written as an integer. -/
def readWord? (cs : List Char) : Option Int64 :=
  (int? cs).bind word?

/-- An unsigned decimal number: digits with at most one point, and an optional exponent. -/
def decimal? (cs : List Char) : Option Decimal :=
  let whole := cs.takeWhile Char.isDigit
  let rest := cs.dropWhile Char.isDigit
  let (places, rest) :=
    match rest with
    | '.' :: rest => (rest.takeWhile Char.isDigit, rest.dropWhile Char.isDigit)
    | rest => ([], rest)
  if whole.isEmpty && places.isEmpty then none
  else
    let exponent? : Option Int :=
      match rest with
      | [] => some 0
      | e :: rest => if e = 'e' ∨ e = 'E' then int? rest else none
    exponent?.map fun e => ⟨ofDigits (whole ++ places), e - places.length⟩

/-- A double written as a decimal number or as one of the words for a special value. -/
def readFloat? (cs : List Char) : Option Float :=
  let (negative, body) := sign cs
  let word := body.map Char.toLower
  let magnitude? : Option Float :=
    if word = "inf".toList ∨ word = "infinity".toList then some (1.0 / 0.0)
    else if word = "nan".toList then some (0.0 / 0.0)
    else (decimal? body).map Decimal.toFloat
  magnitude?.map fun x => if negative then -x else x

end Number

end Skirmish
