import Skirmish.Grid.Distance
import Skirmish.Proofs.Number.Size

/-!
# Distances and ranges

Places are less than `2 ^ 32` columns and rows apart, so distances stay below `2 ^ 53` under every
metric (`Metric.sized_distance`). Up to there words are exact as doubles, and words beyond are
above every distance. So no distance is at least one word and at most a smaller one
(`Metric.not_between`).
-/

namespace Skirmish

open Float.Model

namespace Number

/-! ## Words as doubles -/

theorem isNaN_ofWord (n : Int64) : (ofWord n).isNaN = false := isNaN_ofInt n.toInt

theorem ofWord_of_nonneg {n : Int64} (h : 0 ≤ n.toInt) : ofWord n = Float.ofNat n.toInt.toNat := by
  obtain ⟨k, hk⟩ := Int.eq_ofNat_of_zero_le h
  rw [ofWord, hk]
  rfl

theorem ofWord_of_neg {n : Int64} (h : n.toInt < 0) :
    ofWord n = (Float.ofNat n.toInt.natAbs).neg := by
  obtain ⟨k, hk⟩ := Int.eq_negSucc_of_lt_zero h
  rw [ofWord, hk]
  rfl

/-- A number that is zero or more is above every negative word. -/
theorem ofWord_lt_of_neg {high : ℤ} {x : Float} (hx : Sized high x.toModel.unpack) {n : Int64}
    (h : n.toInt < 0) (hnumber : x.isNaN = false) : ofWord n < x := by
  have hlow := n.le_toInt
  have habs : 0 < n.toInt.natAbs := Int.natAbs_pos.2 (Int.ne_of_lt h)
  have hspans := spans_ofNat habs (by omega)
  have hlog := log2_lt_of_lt habs (k := 64) (by omega)
  obtain ⟨m, e, hm, hnegative⟩ : ∃ m e hm,
      (ofWord n).toModel.unpack = .finite .negative m e hm := by
    rw [ofWord_of_neg h]
    show ∃ m e hm, UnpackedFloat.unpack .binary64
      ((Float.ofNat n.toInt.natAbs).toModel.unpack.neg.pack .binary64) = .finite .negative m e hm
    revert hspans
    generalize (Float.ofNat n.toInt.natAbs).toModel.unpack = u
    intro hspans
    cases hspans with
    | @mk m e hm hbits hl hh =>
      exact ⟨m, e, hm, unpack_pack_of_full .negative hm hbits (by omega) (by omega)⟩
  rw [lt_iff_rank_lt (isNaN_ofWord n) hnumber, hnegative]
  revert hx
  generalize x.toModel.unpack = u
  intro hx
  cases hx with
  | zero => exact rank_lt_of_side (by decide) _ _
  | full hx =>
    cases hx with
    | mk => exact rank_lt_of_side (by decide) _ _

/-- A word from `2 ^ 53` on is above every number below. -/
theorem lt_ofWord_of_le {x : Float} (hx : Sized 0 x.toModel.unpack) {n : Int64}
    (h : 2 ^ 53 ≤ n.toInt) (hnumber : x.isNaN = false) : x < ofWord n := by
  have hhigh := n.toInt_lt
  have hlarge : 2 ^ 53 ≤ n.toInt.toNat := by omega
  have hspans := spans_ofNat (n := n.toInt.toNat) (by omega) (by omega)
  have hlog : 53 ≤ n.toInt.toNat.log2 := (Nat.le_log2 (by omega)).2 hlarge
  rw [lt_iff_rank_lt hnumber (isNaN_ofWord n), ofWord_of_nonneg (by omega)]
  revert hspans hx
  generalize (Float.ofNat n.toInt.toNat).toModel.unpack = u
  generalize x.toModel.unpack = v
  intro hx hspans
  cases hspans with
  | mk hm hbits hlow _ =>
    cases hx with
    | zero => exact rank_lt_of_side (by decide) _ _
    | full hx =>
      cases hx with
      | mk _ _ _ hhigh =>
        refine Prod.Lex.toLex_lt_toLex.2 (.inr ⟨rfl, Prod.Lex.toLex_lt_toLex.2 (.inl ?_)⟩)
        show _ < _
        omega

end Number

/-! ## Distances -/

namespace Coord

theorem natAbs_difference_lt (a b : Coord) :
    (a.difference b).1.natAbs < 2 ^ 32 ∧ (a.difference b).2.natAbs < 2 ^ 32 := by
  have hax := a.x.le_toInt
  have hax' := a.x.toInt_lt
  have hay := a.y.le_toInt
  have hay' := a.y.toInt_lt
  have hbx := b.x.le_toInt
  have hbx' := b.x.toInt_lt
  have hby := b.y.le_toInt
  have hby' := b.y.toInt_lt
  simp only [difference]
  omega

end Coord

namespace Metric

open Number

/-- Every distance is zero or at least one, and below `2 ^ 53`. -/
theorem sized_distance (m : Metric) (a b : Coord) : Sized 0 (m.distance a b).toModel.unpack := by
  have hoffset : ∀ {n : ℕ}, n < 2 ^ 32 → Sized (-20) (Float.ofNat n).toModel.unpack := by
    intro n hn
    refine (sized_ofNat (by omega)).mono ?_
    rcases Nat.eq_zero_or_pos n with rfl | hpos
    · decide
    · have hlog := log2_lt_of_lt hpos hn
      omega
  obtain ⟨hdx, hdy⟩ := a.natAbs_difference_lt b
  have hx := hoffset hdx
  have hy := hoffset hdy
  cases m with
  | manhattan => exact (hx.add hy (by decide)).mono (by decide)
  | chebyshev =>
    show Sized 0 (ite _ _ _ : Float).toModel.unpack
    split
    · exact hy.mono (by decide)
    · exact hx.mono (by decide)
  | euclidean =>
    have hsum := (hx.square (by decide)).add (hy.square (by decide)) (by decide)
    exact (hsum.sqrt (by decide)).mono (by decide)

/-- No distance is at least one word and at most a smaller one. -/
theorem not_between (m : Metric) (a b : Coord) {low high : Int64} (h : high < low) :
    ¬ (ofWord low ≤ m.distance a b ∧ m.distance a b ≤ ofWord high) := by
  rintro ⟨hlow, hhigh⟩
  have hsized := m.sized_distance a b
  have hnumber := m.isNaN_distance a b
  rw [Int64.lt_iff_toInt_lt] at h
  rcases Int.lt_or_le high.toInt 0 with hnegative | hnonneg
  · exact (not_le_iff_lt hnumber (isNaN_ofWord high)).2
      (ofWord_lt_of_neg hsized hnegative hnumber) hhigh
  rcases Int.lt_or_le low.toInt (2 ^ 53) with hsmall | hlarge
  · have hbelow : ofWord high < ofWord low := by
      rw [ofWord_of_nonneg hnonneg, ofWord_of_nonneg (by omega)]
      exact ofNat_lt_ofNat (by omega) (by omega)
    exact (not_le_iff_lt (isNaN_ofWord low) (isNaN_ofWord high)).2 hbelow
      (le_trans_of_numbers (isNaN_ofWord low) hnumber (isNaN_ofWord high) hlow hhigh)
  · exact (not_le_iff_lt (isNaN_ofWord low) hnumber).2
      (lt_ofWord_of_le hsized hlarge hnumber) hlow

end Metric

end Skirmish
