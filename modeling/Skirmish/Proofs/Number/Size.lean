import Skirmish.Proofs.Number.Whole

/-!
# The size of sums, squares and roots

Sums, squares and roots of zero and of numbers from one upwards are again zero or at least one
(`Sized`), so they are far from the tiny numbers that have fewer bits. The exponents go up by two in
a sum, are doubled in a square and halved in a root, each up to a rounding.
-/

namespace Skirmish.Number

open Float.Model UnpackedFloat

/-- Zero, or a number of at least one with an exponent up to a bound. -/
inductive Sized (high : ℤ) : UnpackedFloat → Prop
  | zero : Sized high (.zero .positive)
  | full {u : UnpackedFloat} (h : Spans (-52) high u) : Sized high u

variable {high : ℤ} {u v : UnpackedFloat} {x y : Float}

theorem Sized.mono {high' : ℤ} (h : Sized high u) (hle : high ≤ high') : Sized high' u := by
  cases h with
  | zero => exact .zero
  | full h => exact .full (h.mono le_rfl hle)

theorem Sized.unpack_pack_eq (h : Sized high u) (hhigh : high ≤ 971) :
    UnpackedFloat.unpack .binary64 (u.pack .binary64) = u := by
  cases h with
  | zero => rfl
  | full h => exact h.unpack_pack_eq (by omega) hhigh

theorem sized_ofNat {n : ℕ} (h : n < 2 ^ 64) : Sized (n.log2 - 51) (Float.ofNat n).toModel.unpack := by
  rcases Nat.eq_zero_or_pos n with rfl | hn
  · exact .zero
  · exact .full ((spans_ofNat hn h).mono (by omega) le_rfl)

/-! ## Sums -/

/-- The sum of two numbers at a common exponent. -/
theorem log2_add_shifted {m n j k : ℕ} (hm : m.log2 = 52) (hn : n.log2 = 52) :
    52 + max j k ≤ (m * 2 ^ j + n * 2 ^ k).log2 ∧
      (m * 2 ^ j + n * 2 ^ k).log2 ≤ 53 + max j k := by
  have hmpos := pos_of_log2 (Nat.lt_of_lt_of_eq (by decide : 0 < 52) hm.symm)
  have hnpos := pos_of_log2 (Nat.lt_of_lt_of_eq (by decide : 0 < 52) hn.symm)
  have hmbits := log2_mul_two_pow hmpos j
  have hnbits := log2_mul_two_pow hnpos k
  have hmlog := log2_le_log2 (Nat.mul_pos hmpos (Nat.two_pow_pos j))
    (Nat.le_add_right (m * 2 ^ j) (n * 2 ^ k))
  have hnlog := log2_le_log2 (Nat.mul_pos hnpos (Nat.two_pow_pos k))
    (Nat.le_add_left (n * 2 ^ k) (m * 2 ^ j))
  refine ⟨by omega, ?_⟩
  have hmlt : m * 2 ^ j < 2 ^ (53 + max j k) := by
    refine Nat.lt_of_lt_of_le Nat.lt_log2_self (Nat.pow_le_pow_right (by decide) ?_)
    omega
  have hnlt : n * 2 ^ k < 2 ^ (53 + max j k) := by
    refine Nat.lt_of_lt_of_le Nat.lt_log2_self (Nat.pow_le_pow_right (by decide) ?_)
    omega
  have hsum : m * 2 ^ j + n * 2 ^ k < 2 ^ (53 + max j k + 1) := by
    rw [Nat.pow_succ]
    omega
  have hpos : m * 2 ^ j + n * 2 ^ k ≠ 0 := by
    have hleft := Nat.mul_pos hmpos (Nat.two_pow_pos j)
    omega
  exact Nat.lt_succ_iff.1 ((Nat.log2_lt hpos).2 hsum)

theorem spans_add {low : ℤ} (hlow : -1074 ≤ low) (hu : Spans low high u)
    (hv : Spans low high v) : Spans low (high + 2) (u.add .binary64 v) := by
  cases hu with
  | @mk m e hm hmbits hmlow hmhigh =>
    cases hv with
    | @mk n f hn hnbits hnlow hnhigh =>
      have hlog := log2_add_shifted (j := (e - min e f).toNat) (k := (f - min e f).toNat)
        hmbits hnbits
      have hsum : (UnpackedFloat.finite .positive m e hm).add .binary64
            (.finite .positive n f hn) =
          UnpackedFloat.normalize .binary64
            ((m * 2 ^ (e - min e f).toNat + n * 2 ^ (f - min e f).toNat : ℕ) : ℤ)
            (min e f) .positive := by
        rw [← Nat.shiftLeft_eq, ← Nat.shiftLeft_eq]
        rfl
      have hpos : 0 < m * 2 ^ (e - min e f).toNat + n * 2 ^ (f - min e f).toNat :=
        Nat.add_pos_left (Nat.mul_pos hm (Nat.two_pow_pos _)) _
      rw [hsum, normalize_of_pos hpos]
      revert hlog hpos
      generalize m * 2 ^ (e - min e f).toNat + n * 2 ^ (f - min e f).toNat = total
      intro hlog hpos
      have htotal : totalExponent total (min e f) = total.log2 + 1 + min e f := rfl
      have hspans := spans_round (e := min e f) hpos (by omega)
      exact hspans.mono (by omega) (by omega)

theorem sized_add (hu : Sized high u) (hv : Sized high v) :
    Sized (high + 2) (u.add .binary64 v) := by
  cases hu with
  | zero =>
    cases hv with
    | zero => exact .zero
    | full hv =>
      cases hv with
      | mk hn hbits hlow hhigh => exact .full (.mk hn hbits hlow (by omega))
  | full hu =>
    cases hv with
    | zero =>
      cases hu with
      | mk hm hbits hlow hhigh => exact .full (.mk hm hbits hlow (by omega))
    | full hv => exact .full (spans_add (by decide) hu hv)

/-! ## Squares -/

theorem sized_square (hu : Sized high u) : Sized (2 * high + 54) (u.mul .binary64 u) := by
  cases hu with
  | zero => exact .zero
  | full hu =>
    cases hu with
    | @mk m e hm hbits hlow hhigh =>
      obtain ⟨hge, hlt⟩ := bounds_of_log2 hm hbits
      have hne : m * m ≠ 0 := Nat.ne_of_gt (Nat.mul_pos hm hm)
      have hleast : 104 ≤ (m * m).log2 := by
        rw [Nat.le_log2 hne]
        calc 2 ^ 104 = 2 ^ 52 * 2 ^ 52 := by rw [← Nat.pow_add]
          _ ≤ m * m := Nat.mul_le_mul hge hge
      have hmost : (m * m).log2 < 106 := by
        rw [Nat.log2_lt hne]
        calc m * m < 2 ^ 53 * 2 ^ 53 := Nat.mul_lt_mul'' hlt hlt
          _ = 2 ^ 106 := by rw [← Nat.pow_add]
      have htotal : totalExponent (m * m) (e + e) = (m * m).log2 + 1 + (e + e) := rfl
      have hspans := spans_roundWithAccuracy (m := m * m) (e := e + e) (by omega) (by omega) .exact
      exact .full (hspans.mono (by omega) (by omega))

/-! ## Roots -/

theorem log2_sqrt {n : ℕ} (hn : 0 < n) : n.sqrt.log2 = n.log2 / 2 := by
  have hge := two_pow_log2_le hn
  have hlt := Nat.lt_log2_self (n := n)
  refine log2_eq ?_ ?_
  · rw [Nat.le_sqrt', ← Nat.pow_mul]
    exact Nat.le_trans (Nat.pow_le_pow_right (by decide) (by omega)) hge
  · rw [Nat.sqrt_lt', ← Nat.pow_mul]
    exact Nat.lt_of_lt_of_le hlt (Nat.pow_le_pow_right (by decide) (by omega))

theorem sized_sqrt (hu : Sized high u) : Sized ((high + 54) / 2 - 52) (u.sqrt .binary64) := by
  cases hu with
  | zero => exact .zero
  | full hu =>
    cases hu with
    | @mk m e hm hbits hlow hhigh =>
      -- The significand is first widened such that its root has 53 bits.
      have htotal : totalExponent m e = 53 + e := by rw [totalExponent, hbits]; rfl
      have htarget : min (e.ediv 2)
          (Format.binary64.targetExponent ((totalExponent m e + 1).ediv 2)) = e / 2 - 26 := by
        have hhalf : (totalExponent m e + 1).ediv 2 = e / 2 + 27 := by
          rw [htotal]
          show (53 + e + 1) / 2 = e / 2 + 27
          omega
        rw [hhalf, targetExponent_of_le (by omega)]
        show min (e / 2) (e / 2 + 27 - 53) = e / 2 - 26
        omega
      obtain ⟨k, hk⟩ : ∃ k, (e - 2 * (e / 2 - 26)).toNat = k := ⟨_, rfl⟩
      have hroot : (m * 2 ^ k).sqrt.log2 = 52 := by
        rw [log2_sqrt (Nat.mul_pos hm (Nat.two_pow_pos k)), log2_mul_two_pow hm, hbits]
        omega
      have hexponent : totalExponent (m * 2 ^ k).sqrt (e / 2 - 26) = e / 2 + 27 := by
        rw [totalExponent, hroot]
        omega
      obtain ⟨a, ha⟩ : ∃ a, (UnpackedFloat.finite .positive m e hm).sqrt .binary64 =
          roundWithAccuracy .binary64 .positive (m * 2 ^ k).sqrt (e / 2 - 26) a := by
        rw [UnpackedFloat.sqrt, sqrtCore, htarget, hk, Nat.shiftLeft_eq]
        exact ⟨_, rfl⟩
      have hspans := spans_roundWithAccuracy (e := e / 2 - 26) (Nat.le_of_eq hroot.symm) (by omega) a
      rw [hexponent] at hspans
      rw [ha]
      exact .full (hspans.mono (by omega) (by omega))

/-! ## Doubles -/

namespace Sized

theorem add (hx : Sized high x.toModel.unpack) (hy : Sized high y.toModel.unpack)
    (hhigh : high ≤ 969) : Sized (high + 2) (x + y).toModel.unpack := by
  have hsum := sized_add hx hy
  show Sized _ (UnpackedFloat.unpack .binary64
    ((x.toModel.unpack.add .binary64 y.toModel.unpack).pack .binary64))
  rw [hsum.unpack_pack_eq (by omega)]
  exact hsum

theorem square (hx : Sized high x.toModel.unpack) (hhigh : 2 * high + 54 ≤ 971) :
    Sized (2 * high + 54) (x * x).toModel.unpack := by
  have hsquare := sized_square hx
  show Sized _ (UnpackedFloat.unpack .binary64
    ((x.toModel.unpack.mul .binary64 x.toModel.unpack).pack .binary64))
  rw [hsquare.unpack_pack_eq hhigh]
  exact hsquare

theorem sqrt (hx : Sized high x.toModel.unpack) (hhigh : (high + 54) / 2 - 52 ≤ 971) :
    Sized ((high + 54) / 2 - 52) x.sqrt.toModel.unpack := by
  have hroot := sized_sqrt hx
  show Sized _ (UnpackedFloat.unpack .binary64 ((x.toModel.unpack.sqrt .binary64).pack .binary64))
  rw [hroot.unpack_pack_eq hhigh]
  exact hroot

end Sized

end Skirmish.Number
