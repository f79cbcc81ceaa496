import Skirmish.Proofs.Number.Rank
import Skirmish.Proofs.Number.Rounding

/-!
# Whole numbers as doubles

A positive whole number below `2 ^ 53` is a double (`unpack_ofNat`), and doubles keep the order of
such numbers. From there on whole numbers are rounded, but stay at or above `2 ^ 53`.
-/

namespace Skirmish.Number

open Float.Model UnpackedFloat

theorem log2_lt_of_lt {n k : ℕ} (hn : 0 < n) (h : n < 2 ^ k) : n.log2 < k :=
  (Nat.log2_lt (Nat.ne_of_gt hn)).2 h

/-- The significand of a whole number with all its bits. -/
def significand (n : ℕ) : ℕ := n * 2 ^ (52 - n.log2)

theorem significand_pos {n : ℕ} (hn : 0 < n) : 0 < significand n :=
  Nat.mul_pos hn (Nat.two_pow_pos _)

theorem log2_significand {n : ℕ} (hn : 0 < n) (h : n < 2 ^ 53) : (significand n).log2 = 52 := by
  have hlog := log2_lt_of_lt hn h
  rw [significand, log2_mul_two_pow hn]
  omega

/-- A whole number is rounded to itself. -/
theorem normalize_natCast {n : ℕ} (hn : 0 < n) (h : n < 2 ^ 53) :
    UnpackedFloat.normalize .binary64 n 0 .positive =
      .finite .positive (significand n) (n.log2 - 52) (significand_pos hn) := by
  have hlog := log2_lt_of_lt hn h
  have htotal : totalExponent n 0 = n.log2 + 1 := by rw [totalExponent]; omega
  have hshift : (0 - ((n.log2 : ℤ) + 1 - 53)).toNat = 52 - n.log2 := by omega
  have hexact := roundWithAccuracy_exact .positive (k := 0) (e := 0 - ((52 - n.log2 : ℕ) : ℤ))
    (significand_pos hn) (log2_significand hn h) (by omega)
  have hfilled : n * 2 ^ (52 - n.log2) = significand n := rfl
  rw [Nat.pow_zero, Nat.mul_one] at hexact
  rw [normalize_of_pos hn, UnpackedFloat.round, htotal, targetExponent_of_le (by omega),
    decreaseExponent, hshift, Nat.shiftLeft_eq, hfilled]
  dsimp only
  rw [hexact]
  congr 1
  omega

/-- A whole number below `2 ^ 53` is a double. -/
theorem unpack_ofNat {n : ℕ} (hn : 0 < n) (h : n < 2 ^ 53) :
    (Float.ofNat n).toModel.unpack =
      .finite .positive (significand n) (n.log2 - 52) (significand_pos hn) := by
  have hlog := log2_lt_of_lt hn h
  have hfull := unpack_pack_of_full .positive (significand_pos hn) (log2_significand hn h)
    (e := n.log2 - 52) (by omega) (by omega)
  have hword : n.toUInt64.toFloat.toModel.unpack =
      .finite .positive (significand n) (n.log2 - 52) (significand_pos hn) := by
    have htoNat : n.toUInt64.toNat = n := by
      show n % 2 ^ 64 = n
      omega
    rw [← hfull, ← normalize_natCast hn h]
    show UnpackedFloat.unpack .binary64 ((UnpackedFloat.normalize .binary64
      (n.toUInt64.toNat : ℤ) 0 .positive).pack .binary64) = _
    rw [htoNat]
  have hone : (Float.exactlyRepresentablePowersOfTen[0]).toModel.unpack =
      .finite .positive (2 ^ 52) (-52) (by decide) := rfl
  have hproduct : roundWithAccuracy .binary64 (.positive * .positive) (significand n * 2 ^ 52)
      ((n.log2 : ℤ) - 52 + -52) .exact =
        .finite .positive (significand n) (n.log2 - 52) (significand_pos hn) := by
    refine (roundWithAccuracy_exact .positive (significand_pos hn) (log2_significand hn h)
      (by omega)).trans ?_
    congr 1
    omega
  show (Float.ofScientific n false 0).toModel.unpack = _
  unfold Float.ofScientific
  rw [dif_pos ⟨h, by decide⟩, if_neg Bool.false_ne_true]
  show UnpackedFloat.unpack .binary64 ((UnpackedFloat.mul .binary64
    n.toUInt64.toFloat.toModel.unpack
    (Float.exactlyRepresentablePowersOfTen[0]).toModel.unpack).pack .binary64) = _
  rw [hword, hone, UnpackedFloat.mul, hproduct]
  exact hfull

/-- With zeros behind the point a whole number has bits enough to be rounded. -/
theorem spans_round_whole {n : ℕ} (hn : 0 < n) : Spans (n.log2 - 52) (n.log2 - 51)
    (roundWithAccuracy .binary64 .positive (n * 2 ^ 53) (-53) .exact) := by
  have htotal : totalExponent (n * 2 ^ 53) (-53) = n.log2 + 1 := by
    rw [totalExponent, log2_mul_two_pow hn]
    push_cast
    ring
  have hbits : 52 ≤ (n * 2 ^ 53).log2 := by
    rw [log2_mul_two_pow hn]
    omega
  exact (spans_roundWithAccuracy (e := -53) hbits (by omega) .exact).mono (by omega) (by omega)

/-- Larger whole numbers are rounded. -/
theorem unpack_ofNat_of_le {n : ℕ} (hn : 2 ^ 53 ≤ n) (h : n < 2 ^ 64) :
    (Float.ofNat n).toModel.unpack =
      roundWithAccuracy .binary64 .positive (n * 2 ^ 53) (-53) .exact := by
  have hpos : 0 < n := Nat.lt_of_lt_of_le (by decide) hn
  have hlog := log2_lt_of_lt hpos h
  have hrounded : UnpackedFloat.ofScientific .binary64 n 0 =
      roundWithAccuracy .binary64 .positive (n * 2 ^ 53) (-53) .exact := by
    have hfield : (2 : ℤ) ^ Format.binary64.exponentBits = 2048 := rfl
    unfold UnpackedFloat.ofScientific
    rw [hfield, dif_neg (Nat.ne_of_gt hpos), if_neg (by decide), if_neg (by omega), if_pos le_rfl]
    show roundWithAccuracy .binary64 .positive (n <<< 53 * 1) (-53) .exact = _
    rw [Nat.mul_one, Nat.shiftLeft_eq]
  show (Float.ofScientific n false 0).toModel.unpack = _
  unfold Float.ofScientific
  rw [dif_neg fun hsmall => absurd hsmall.1 (Nat.not_lt.2 hn), if_neg Bool.false_ne_true]
  show UnpackedFloat.unpack .binary64 ((UnpackedFloat.ofScientific .binary64 n 0).pack .binary64) = _
  rw [hrounded, (spans_round_whole hpos).unpack_pack_eq (by omega) (by omega)]

/-- Larger whole numbers stay where they are up to a power of two. -/
theorem spans_ofNat_of_le {n : ℕ} (hn : 2 ^ 53 ≤ n) (h : n < 2 ^ 64) :
    Spans (n.log2 - 52) (n.log2 - 51) (Float.ofNat n).toModel.unpack := by
  rw [unpack_ofNat_of_le hn h]
  exact spans_round_whole (Nat.lt_of_lt_of_le (by decide) hn)

/-- Whole numbers that are not zero are doubles with all their bits. -/
theorem spans_ofNat {n : ℕ} (hn : 0 < n) (h : n < 2 ^ 64) :
    Spans (n.log2 - 52) (n.log2 - 51) (Float.ofNat n).toModel.unpack := by
  rcases Nat.lt_or_ge n (2 ^ 53) with hsmall | hlarge
  · rw [unpack_ofNat hn hsmall]
    exact .mk (significand_pos hn) (log2_significand hn hsmall) le_rfl (by omega)
  · exact spans_ofNat_of_le hlarge h

/-! ## The order of whole numbers -/

theorem unpack_ofNat_zero : (Float.ofNat 0).toModel.unpack = .zero .positive := rfl

/-- Whole numbers below `2 ^ 53` are ordered as doubles as they are as numbers. -/
theorem ofNat_lt_ofNat {m n : ℕ} (h : m < n) (hn : n < 2 ^ 53) :
    Float.ofNat m < Float.ofNat n := by
  have hpos : 0 < n := by omega
  rw [lt_iff_rank_lt (isNaN_ofNat m) (isNaN_ofNat n), unpack_ofNat hpos hn]
  rcases Nat.eq_zero_or_pos m with rfl | hm
  · rw [unpack_ofNat_zero]
    exact rank_lt_of_side (by decide) _ _
  · rw [unpack_ofNat hm (by omega)]
    refine Prod.Lex.toLex_lt_toLex.2 (.inr ⟨rfl, Prod.Lex.toLex_lt_toLex.2 ?_⟩)
    have hlog := log2_le_log2 hm h.le
    rcases Nat.lt_or_eq_of_le hlog with hbelow | hsame
    · exact .inl (by omega)
    · refine .inr ⟨by rw [hsame], ?_⟩
      show ((significand m : ℕ) : ℤ) < (significand n : ℕ)
      rw [significand, significand, hsame]
      exact_mod_cast Nat.mul_lt_mul_of_pos_right h (Nat.two_pow_pos _)

end Skirmish.Number
