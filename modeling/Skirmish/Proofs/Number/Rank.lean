import Skirmish.Proofs.Number.Order

/-!
# The rank of a number

Every double that is a number has a rank: its side of zero, then its exponent, then its significand,
the last two turned round below zero. Numbers compare as their ranks do (`le_iff_rank_le`), so they
are in a total order up to the two zeros.
-/

namespace Skirmish.Number

open Float.Model UnpackedFloat

variable {x y z : Float}

/-- Where a number stands among all numbers. -/
def rank : UnpackedFloat → ℤ ×ₗ ℤ ×ₗ ℤ
  | .infinity .negative => toLex (-2, toLex (0, 0))
  | .finite .negative m e _ => toLex (-1, toLex (-e, -m))
  | .zero _ => toLex (0, toLex (0, 0))
  | .finite .positive m e _ => toLex (1, toLex (e, m))
  | .infinity .positive => toLex (2, toLex (0, 0))
  | .notANumber => toLex (3, toLex (0, 0))

theorem rank_lt_of_side {i j : ℤ} (h : i < j) (p q : ℤ ×ₗ ℤ) :
    (toLex (i, p) : ℤ ×ₗ ℤ ×ₗ ℤ) < toLex (j, q) :=
  Prod.Lex.toLex_lt_toLex.2 (.inl h)

/-- Significands are compared only if the exponents are the same. -/
theorem isLE_then_compare_iff (e f : ℤ) (m n : ℕ) :
    ((compare e f).then (compare m n)).isLE = true ↔
      (toLex (e, (m : ℤ)) : ℤ ×ₗ ℤ) ≤ toLex (f, (n : ℤ)) := by
  rw [Prod.Lex.toLex_le_toLex, Ordering.isLE_then_iff_or, Int.compare_eq_lt, Int.compare_eq_eq,
    Nat.isLE_compare, Int.ofNat_le]

theorem le_iff_rank_le_of_unpacked {a b : UnpackedFloat} (ha : a.isNaN = false)
    (hb : b.isNaN = false) : a.le b = true ↔ rank a ≤ rank b := by
  have hsame : ∀ {i : ℤ} {p q : ℤ ×ₗ ℤ}, (toLex (i, p) : ℤ ×ₗ ℤ ×ₗ ℤ) ≤ toLex (i, q) ↔ p ≤ q := by
    intro i p q
    simp [Prod.Lex.toLex_le_toLex]
  have hswap : ∀ {e f : ℤ} {m n : ℕ}, ((compare e f).then (compare m n)).swap.isLE = true ↔
      (toLex (-e, -(m : ℤ)) : ℤ ×ₗ ℤ) ≤ toLex (-f, -(n : ℤ)) := by
    intro e f m n
    rw [Ordering.swap_then, ← Std.OrientedCmp.eq_swap, ← Std.OrientedCmp.eq_swap,
      isLE_then_compare_iff, Prod.Lex.toLex_le_toLex, Prod.Lex.toLex_le_toLex]
    omega
  -- On different sides the sides decide, on the same side exponent and significand.
  rcases a with (_ | _) | _ | s | ⟨_ | _, m, e, hm⟩ <;>
    rcases b with (_ | _) | _ | t | ⟨_ | _, n, f, hn⟩ <;>
    first
    | exact absurd ha.symm Bool.false_ne_true
    | exact absurd hb.symm Bool.false_ne_true
    | exact iff_of_true rfl (rank_lt_of_side (by decide) _ _).le
    | exact iff_of_false Bool.false_ne_true (rank_lt_of_side (by decide) _ _).not_ge
    | exact iff_of_true rfl le_rfl
    | exact (isLE_then_compare_iff ..).trans hsame.symm
    | exact hswap.trans hsame.symm

theorem le_iff_rank_le (hx : x.isNaN = false) (hy : y.isNaN = false) :
    x ≤ y ↔ rank x.toModel.unpack ≤ rank y.toModel.unpack := by
  rw [le_iff]
  exact le_iff_rank_le_of_unpacked hx hy

theorem lt_iff_rank_lt (hx : x.isNaN = false) (hy : y.isNaN = false) :
    x < y ↔ rank x.toModel.unpack < rank y.toModel.unpack := by
  rw [← not_le_iff_lt hy hx, le_iff_rank_le hy hx, not_le]

theorem le_trans_of_numbers (hx : x.isNaN = false) (hy : y.isNaN = false) (hz : z.isNaN = false)
    (hxy : x ≤ y) (hyz : y ≤ z) : x ≤ z := by
  rw [le_iff_rank_le hx hz]
  exact le_trans ((le_iff_rank_le hx hy).1 hxy) ((le_iff_rank_le hy hz).1 hyz)

theorem le_total_of_numbers (hx : x.isNaN = false) (hy : y.isNaN = false) : x ≤ y ∨ y ≤ x := by
  rw [le_iff_rank_le hx hy, le_iff_rank_le hy hx]
  exact le_total _ _

end Skirmish.Number
