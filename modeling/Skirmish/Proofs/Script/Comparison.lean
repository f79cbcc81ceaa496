import Skirmish.Proofs.Number.Nearest
import Skirmish.Script.Eval

/-!
# Comparing integers

Integers are compared as doubles. So a comparison never takes one of them for the greater that is the
smaller, but it takes neighbours for equal that are the same double (`CmpOp.compare_int`), and such
neighbours there are right above `2 ^ 53` (`CmpOp.compare_int_neighbours`).
-/

namespace Skirmish

namespace Number

open Float.Model

variable {x y : Float}

theorem beq_eq : (x == y) = x.toModel.unpack.beq y.toModel.unpack := rfl

/-- Doubles with all their bits are in the order of the numbers that they stand for. -/
theorem floatOrder_eq_value (hx : Full x.toModel.unpack) (hy : Full y.toModel.unpack) :
    Script.floatOrder x y = compare (value x.toModel.unpack) (value y.toModel.unpack) := by
  have hcompare := compare_eq_value hx hy
  have hlt : x < y ↔ _ := lt_iff
  rw [UnpackedFloat.lt, hcompare] at hlt
  rw [Script.floatOrder, beq_eq, UnpackedFloat.beq, hcompare]
  cases hvalue : compare (value x.toModel.unpack) (value y.toModel.unpack) with
  | lt => exact if_pos (hlt.2 (by rw [hvalue]; rfl))
  | eq => exact if_neg fun h => absurd (hlt.1 h) (by rw [hvalue]; decide)
  | gt => exact if_neg fun h => absurd (hlt.1 h) (by rw [hvalue]; decide)

theorem unpack_ofWord (n : Int64) : Full (ofWord n).toModel.unpack ∧
    value (ofWord n).toModel.unpack = nearest n.toInt := by
  have hlow := n.le_toInt
  have hhigh := n.toInt_lt
  exact unpack_ofInt (by omega)

/-- Words are in the order of the numbers that they are rounded to. -/
theorem floatOrder_ofWord (a b : Int64) :
    Script.floatOrder (ofWord a) (ofWord b) = compare (nearest a.toInt) (nearest b.toInt) := by
  obtain ⟨ha, hvaluea⟩ := unpack_ofWord a
  obtain ⟨hb, hvalueb⟩ := unpack_ofWord b
  rw [floatOrder_eq_value ha hb, hvaluea, hvalueb, ← cmp_eq_compare, Int.cast_strictMono.cmp_map_eq,
    cmp_eq_compare]

end Number

namespace Script

open Number

/-- A comparison of integers is one of what they are rounded to: it is exact, except that integers
that are rounded to the same number count as equal, and up to `2 ^ 53` no two different ones are. -/
theorem CmpOp.compare_int (op : CmpOp) (a b : Int64) :
    op.compare (.int a) (.int b) = op.accepts
      (if nearest a.toInt = nearest b.toInt then .eq else Ord.compare a.toInt b.toInt) ∧
    (a.toInt.natAbs ≤ 2 ^ 53 → b.toInt.natAbs ≤ 2 ^ 53 →
      op.compare (.int a) (.int b) = op.accepts (Ord.compare a.toInt b.toInt)) := by
  have hcompare : op.compare (.int a) (.int b) =
      op.accepts (Ord.compare (nearest a.toInt) (nearest b.toInt)) :=
    congrArg op.accepts (floatOrder_ofWord a b)
  refine ⟨by rw [hcompare, compare_nearest], fun ha hb => ?_⟩
  rw [hcompare, nearest_of_le ha, nearest_of_le hb]

theorem CmpOp.compare_int_below :
    CmpOp.lt.compare (.int 9007199254740991) (.int 9007199254740992) = true :=
  ((CmpOp.compare_int .lt 9007199254740991 9007199254740992).2 (by decide) (by decide)).trans
    (by decide)

/-- Right above `2 ^ 53` there are different integers that count as equal. -/
theorem CmpOp.compare_int_neighbours :
    CmpOp.eq.compare (.int 9007199254740993) (.int 9007199254740992) = true ∧
    CmpOp.lt.compare (.int 9007199254740992) (.int 9007199254740993) = false ∧
    (9007199254740992 : Int64).toInt < (9007199254740993 : Int64).toInt := by
  decide +kernel

end Script

end Skirmish
