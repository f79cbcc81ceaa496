import Skirmish.Grid.Distance
import Skirmish.Proofs.Number.Sign
import Skirmish.Value

/-!
# Which doubles are numbers

Whatever a value reads as is a number (`Value.isNaN_asFloat`), so is every distance
(`Metric.isNaN_distance`), and of two numbers one is at most the other or above it
(`Number.not_le_iff_lt`).
-/

namespace Skirmish

namespace Number

open Float.Model UnpackedFloat

variable {x y : Float}

/-! ## Numbers as they are made -/

theorem isNaN_ofNat (n : Nat) : (Float.ofNat n).isNaN = false := (signed_ofNat n).isNaN_eq

theorem isNaN_neg (h : x.isNaN = false) : x.neg.isNaN = false := by
  obtain ⟨s, hs⟩ := exists_signed (u := x.toModel.unpack) h
  exact (signed_unpack_pack (signed_neg hs)).isNaN_eq

theorem isNaN_ofInt (n : Int) : (Float.ofInt n).isNaN = false := by
  cases n with
  | ofNat n => exact isNaN_ofNat n
  | negSucc n => exact isNaN_neg (isNaN_ofNat _)

/-! ## The order of numbers -/

theorem compare_swap (a b : UnpackedFloat) :
    a.compare b = (b.compare a).map Ordering.swap := by
  have hsigns : ∀ s t : Sign, compare s t = (compare t s).swap := by
    intro s t
    cases s <;> cases t <;> rfl
  have hfinite : ∀ (e f : Int) (m n : Nat), (compare e f).then (compare m n) =
      ((compare f e).then (compare n m)).swap := by
    intro e f m n
    rw [Ordering.swap_then, ← Std.OrientedCmp.eq_swap, ← Std.OrientedCmp.eq_swap]
  rcases a with (_ | _) | _ | _ | ⟨_ | _, m, e, hm⟩ <;>
    rcases b with (_ | _) | _ | _ | ⟨_ | _, n, f, hn⟩ <;>
    first
    | rfl
    | exact congrArg some (hfinite ..)
    | exact congrArg (fun o => some o.swap) (hfinite ..)

theorem isSome_compare {a b : UnpackedFloat} (ha : a.isNaN = false) (hb : b.isNaN = false) :
    ∃ o, a.compare b = some o := by
  rcases a with (_ | _) | _ | _ | ⟨_ | _, m, e, hm⟩ <;>
    rcases b with (_ | _) | _ | _ | ⟨_ | _, n, f, hn⟩ <;>
    first
    | exact ⟨_, rfl⟩
    | exact absurd ha.symm Bool.false_ne_true
    | exact absurd hb.symm Bool.false_ne_true

theorem lt_iff : x < y ↔ x.toModel.unpack.lt y.toModel.unpack := by
  have hlt : (x < y) = (Float.lt x y = true) := rfl
  have hmodel : Float.lt x y = x.toModel.unpack.lt y.toModel.unpack := by
    rw [Float.lt]
    exact Bool.decide_eq_true
  rw [hlt, hmodel]

/-- Numbers are ordered one way or the other. -/
theorem not_le_iff_lt (hx : x.isNaN = false) (hy : y.isNaN = false) : ¬ x ≤ y ↔ y < x := by
  rw [le_iff, lt_iff, UnpackedFloat.le, UnpackedFloat.lt, compare_swap y.toModel.unpack]
  obtain ⟨o, ho⟩ := isSome_compare (a := x.toModel.unpack) (b := y.toModel.unpack) hx hy
  rw [ho]
  cases o <;> decide

theorem isNaN_of_isFinite (h : x.isFinite = true) : x.isNaN = false := by
  change x.toModel.unpack.isFinite = true at h
  change x.toModel.unpack.isNaN = false
  cases hx : x.toModel.unpack with
  | notANumber =>
    rw [hx] at h
    cases h
  | _ => rfl

end Number

/-- A value reads as a number. -/
theorem Value.isNaN_asFloat (v : Value) : v.asFloat.isNaN = false := by
  have hzero : (0.0 : Float).isNaN = false := rfl
  cases v with
  | int n => exact Number.isNaN_ofInt n.toInt
  | float x =>
    rw [asFloat]
    split
    · next h => exact Number.isNaN_of_isFinite h
    · exact hzero
  | bool b => cases b <;> rfl
  | text s =>
    rw [asFloat]
    cases h : (Number.readFloat? (Text.trim s.toList)).filter Float.isFinite with
    | none => exact hzero
    | some x => exact Number.isNaN_of_isFinite (Option.filter_eq_some_iff.1 h).2
  | coord c => exact hzero

open Number in
/-- A distance is a number. -/
theorem Metric.isNaN_distance (m : Metric) (a b : Coord) : (m.distance a b).isNaN = false := by
  have hx := signed_ofNat (a.difference b).1.natAbs
  have hy := signed_ofNat (a.difference b).2.natAbs
  cases m with
  | manhattan => exact (hx.add hy).isNaN_eq
  | chebyshev =>
    show (ite _ _ _ : Float).isNaN = false
    split
    · exact hy.isNaN_eq
    · exact hx.isNaN_eq
  | euclidean => exact (hx.square.add hy.square).sqrt.isNaN_eq

end Skirmish
