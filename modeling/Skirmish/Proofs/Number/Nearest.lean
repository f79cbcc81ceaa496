import Skirmish.Proofs.Number.Whole

/-!
# Integers as doubles, exactly

An integer becomes the nearest number with a significand of 53 bits, of two the one that is even
(`nearest`, `value_ofInt`). Doubles with all their bits compare as the numbers that they stand for
(`compare_eq_value`). So integers keep their order as doubles, but neighbours may become equal
(`compare_nearest`); up to `2 ^ 53` none do (`nearest_of_le`).
-/

namespace Skirmish.Number

open Float.Model UnpackedFloat

/-! ## Rounding to nearest -/

/-- A number without its last `k` bits, rounded to the nearer one, of two to the even one. -/
def halfEven (m k : ℕ) : ℕ :=
  if 2 * (m % 2 ^ k) < 2 ^ k then m / 2 ^ k
  else if 2 * (m % 2 ^ k) = 2 ^ k then m / 2 ^ k + m / 2 ^ k % 2
  else m / 2 ^ k + 1

theorem halfEven_zero (m : ℕ) : halfEven m 0 = m := by
  rw [halfEven, Nat.pow_zero, Nat.mod_one, Nat.div_one]
  rfl

theorem le_halfEven (m k : ℕ) : m / 2 ^ k ≤ halfEven m k := by
  unfold halfEven
  split_ifs <;> omega

theorem halfEven_le (m k : ℕ) : halfEven m k ≤ m / 2 ^ k + 1 := by
  unfold halfEven
  split_ifs <;> omega

theorem halfEven_mono {m n : ℕ} (k : ℕ) (h : m ≤ n) : halfEven m k ≤ halfEven n k := by
  rcases Nat.lt_or_eq_of_le (Nat.div_le_div_right (c := 2 ^ k) h) with hlt | hsame
  · exact (halfEven_le m k).trans (hlt.trans_le (le_halfEven n k))
  · -- with the same bits kept, the bits that go decide
    have hrest : m % 2 ^ k ≤ n % 2 ^ k := by
      have hm := Nat.div_add_mod m (2 ^ k)
      have hn := Nat.div_add_mod n (2 ^ k)
      rw [hsame] at hm
      omega
    unfold halfEven
    rw [hsame]
    split_ifs <;> omega

/-- Zeros at the end make no difference. -/
theorem halfEven_mul_two_pow (m k j : ℕ) : halfEven (m * 2 ^ j) (k + j) = halfEven m k := by
  have hpos := Nat.two_pow_pos j
  have hdiv : m * 2 ^ j / 2 ^ (k + j) = m / 2 ^ k := by
    rw [Nat.pow_add, Nat.mul_div_mul_right _ _ hpos]
  have hmod : m * 2 ^ j % 2 ^ (k + j) = m % 2 ^ k * 2 ^ j := by
    rw [Nat.pow_add, Nat.mul_mod_mul_right]
  have hlt : 2 * (m % 2 ^ k * 2 ^ j) < 2 ^ (k + j) ↔ 2 * (m % 2 ^ k) < 2 ^ k := by
    rw [Nat.pow_add, ← Nat.mul_assoc]
    exact Nat.mul_lt_mul_right hpos
  have heq : 2 * (m % 2 ^ k * 2 ^ j) = 2 ^ (k + j) ↔ 2 * (m % 2 ^ k) = 2 ^ k := by
    rw [Nat.pow_add, ← Nat.mul_assoc]
    exact Nat.mul_left_inj (Nat.ne_of_gt hpos)
  simp only [halfEven, hdiv, hmod, hlt, heq]

/-! ## The bits that go -/

/-- Shifting keeps whether any bit that went was a one. -/
theorem roundBit_or_stickyBit (m k : ℕ) :
    ((ExtendedMantissa.ofMantissaAndAccuracy m .exact >>> k).roundBit ||
      (ExtendedMantissa.ofMantissaAndAccuracy m .exact >>> k).stickyBit) = (m % 2 ^ k != 0) := by
  induction k with
  | zero =>
    rw [Nat.pow_zero, Nat.mod_one]
    rfl
  | succ k ih =>
    rw [shiftRight_succ, ExtendedMantissa.shiftRightOne, ih, mantissa_shiftRight,
      mantissa_ofMantissaAndAccuracy, Nat.pow_succ, Nat.mod_mul]
    have hpos := Nat.two_pow_pos k
    rcases Nat.mod_two_eq_zero_or_one (m / 2 ^ k) with hbit | hbit <;> rw [hbit]
    · simp
    · simp

/-- What is left of a significand, the last bit that went, and whether any bit before it was a one. -/
theorem shiftRight_add_one (m k : ℕ) : ExtendedMantissa.ofMantissaAndAccuracy m .exact >>> (k + 1) =
    ⟨m / 2 ^ (k + 1), m / 2 ^ k % 2 != 0, m % 2 ^ k != 0⟩ := by
  rw [shiftRight_succ, ExtendedMantissa.shiftRightOne, roundBit_or_stickyBit, mantissa_shiftRight,
    mantissa_ofMantissaAndAccuracy, Nat.div_div_eq_div_mul, ← Nat.pow_succ]

/-- Rounding after a shift is rounding to nearest. -/
theorem roundedMantissa_shiftRight (m k : ℕ) :
    (ExtendedMantissa.ofMantissaAndAccuracy m .exact >>> k).roundedMantissa = halfEven m k := by
  cases k with
  | zero =>
    rw [halfEven_zero]
    rfl
  | succ k =>
    have hpos := Nat.two_pow_pos k
    have hrest := Nat.mod_lt m hpos
    have hmod : m % 2 ^ (k + 1) = m % 2 ^ k + 2 ^ k * (m / 2 ^ k % 2) := by
      rw [Nat.pow_succ, Nat.mod_mul]
    rw [shiftRight_add_one, halfEven, hmod, Nat.pow_succ]
    -- the last bit that went is a half, and the others are less than a half
    rcases Nat.mod_two_eq_zero_or_one (m / 2 ^ k) with hbit | hbit <;> rw [hbit]
    · rw [if_pos (by omega)]
      cases m % 2 ^ k != 0 <;> rfl
    · rcases Nat.eq_zero_or_pos (m % 2 ^ k) with hzero | hsome
      · rw [hzero, if_neg (by omega), if_pos (by omega)]
        rfl
      · rw [if_neg (by omega), if_neg (by omega), bne_iff_ne.2 (Nat.ne_of_gt hsome)]
        rfl

/-! ## What doubles stand for -/

/-- The number that a finite double stands for. -/
def value : UnpackedFloat → ℚ
  | .finite .positive m e _ => m * 2 ^ e
  | .finite .negative m e _ => -(m * 2 ^ e)
  | .zero _ | .infinity _ | .notANumber => 0

/-- Zero or a number with all its bits. -/
inductive Full : UnpackedFloat → Prop
  | zero (s : Sign) : Full (.zero s)
  | finite (s : Sign) {m : ℕ} {e : ℤ} (hm : 0 < m) (hbits : m.log2 = 52) : Full (.finite s m e hm)

/-- With all bits there, the greater exponent makes the greater number. -/
theorem scaled_lt_of_lt {m n : ℕ} {e f : ℤ} (hm : 0 < m) (hn : 0 < n) (hmbits : m.log2 = 52)
    (hnbits : n.log2 = 52) (h : e < f) : (m * 2 ^ e : ℚ) < n * 2 ^ f := by
  have hhigh : (m : ℚ) < 2 ^ 53 := by exact_mod_cast (bounds_of_log2 hm hmbits).2
  have hlow : (2 ^ 52 : ℚ) ≤ n := by exact_mod_cast (bounds_of_log2 hn hnbits).1
  calc (m * 2 ^ e : ℚ) < 2 ^ 53 * 2 ^ e := by gcongr
    _ = 2 ^ 52 * 2 ^ (e + 1) := by rw [zpow_add_one₀ (by norm_num)]; ring
    _ ≤ 2 ^ 52 * 2 ^ f :=
      mul_le_mul_of_nonneg_left (zpow_le_zpow_right₀ one_le_two (Int.add_one_le_of_lt h)) (by positivity)
    _ ≤ n * 2 ^ f := by gcongr

theorem compare_scaled {m n : ℕ} {e f : ℤ} (hm : 0 < m) (hn : 0 < n) (hmbits : m.log2 = 52)
    (hnbits : n.log2 = 52) :
    (compare e f).then (compare m n) = compare (m * 2 ^ e : ℚ) (n * 2 ^ f) := by
  rcases lt_trichotomy e f with hlt | rfl | hgt
  · rw [compare_lt_iff_lt.2 hlt, compare_lt_iff_lt.2 (scaled_lt_of_lt hm hn hmbits hnbits hlt)]
    rfl
  · rw [compare_eq_iff_eq.2 rfl, ← cmp_eq_compare (m * 2 ^ e : ℚ), cmp_mul_pos_right (by positivity),
      Nat.strictMono_cast.cmp_map_eq, cmp_eq_compare]
    rfl
  · rw [compare_gt_iff_gt.2 hgt, compare_gt_iff_gt.2 (scaled_lt_of_lt hn hm hnbits hmbits hgt)]
    rfl

theorem compare_neg_neg (x y : ℚ) : compare (-x) (-y) = (compare x y).swap := by
  rw [← cmp_eq_compare, ← cmp_eq_compare, cmp_swap]
  exact strictMono_id.neg.cmp_map_eq x y

/-- Numbers with all their bits compare as what they stand for. -/
theorem compare_eq_value {a b : UnpackedFloat} (ha : Full a) (hb : Full b) :
    a.compare b = some (compare (value a) (value b)) := by
  have hpos : ∀ {m : ℕ} {e : ℤ}, 0 < m → (0 : ℚ) < m * 2 ^ e := by
    intro m e hm
    positivity
  cases ha with
  | zero s =>
    cases hb with
    | zero t => rfl
    | finite t hn hnbits =>
      cases t with
      | positive => exact congrArg some (compare_lt_iff_lt.2 (hpos hn)).symm
      | negative => exact congrArg some (compare_gt_iff_gt.2 (neg_lt_zero.2 (hpos hn))).symm
  | finite s hm hmbits =>
    cases hb with
    | zero t =>
      cases s with
      | positive => exact congrArg some (compare_gt_iff_gt.2 (hpos hm)).symm
      | negative => exact congrArg some (compare_lt_iff_lt.2 (neg_lt_zero.2 (hpos hm))).symm
    | finite t hn hnbits =>
      cases s with
      | positive =>
        cases t with
        | positive => exact congrArg some (compare_scaled hm hn hmbits hnbits)
        | negative =>
          exact congrArg some (compare_gt_iff_gt.2 ((neg_lt_zero.2 (hpos hn)).trans (hpos hm))).symm
      | negative =>
        cases t with
        | positive =>
          exact congrArg some (compare_lt_iff_lt.2 ((neg_lt_zero.2 (hpos hm)).trans (hpos hn))).symm
        | negative =>
          refine congrArg some ((congrArg Ordering.swap (compare_scaled hm hn hmbits hnbits)).trans ?_)
          exact (compare_neg_neg _ _).symm

/-! ## Rounded numbers -/

/-- Rounding what has enough bits is rounding its significand to nearest. -/
theorem value_roundWithAccuracy {m : ℕ} {e : ℤ} (hbits : 52 ≤ m.log2)
    (hlow : -1021 ≤ totalExponent m e) :
    value (roundWithAccuracy .binary64 .positive m e .exact) =
      halfEven m (m.log2 - 52) * 2 ^ (e + (m.log2 - 52 : ℕ)) := by
  obtain ⟨k, hk⟩ : ∃ k, m.log2 = 52 + k := ⟨m.log2 - 52, by omega⟩
  rw [totalExponent, hk] at hlow
  rw [hk, Nat.add_sub_cancel_left]
  have hleft : (ExtendedMantissa.ofMantissaAndAccuracy m .exact >>> k).mantissa.log2 = 52 := by
    rw [mantissa_shiftRight, mantissa_ofMantissaAndAccuracy,
      log2_div_two_pow (by omega) (pos_of_log2 (by omega)), hk, Nat.add_sub_cancel]
  obtain ⟨j, hj, hrounded⟩ := log2_roundedMantissa hleft
  rw [mantissa_shiftRight, mantissa_ofMantissaAndAccuracy] at hleft
  rw [roundedMantissa_shiftRight] at hrounded
  have hfirst := shift_of_full (e := e) hk (by omega) .exact
  have hsecond := shift_of_full (e := e + k) hrounded (by omega) .exact
  -- one bit more comes from rounding up to a power of two only, so that no other bit is lost
  have hwhole : halfEven m k / 2 ^ j * 2 ^ j = halfEven m k := by
    have hbelow := (bounds_of_log2 (pos_of_log2 (by omega)) hleft).2
    have habove := (bounds_of_log2 (pos_of_log2 (by omega)) hrounded).1
    have hle := halfEven_le m k
    obtain rfl | rfl : j = 0 ∨ j = 1 := by omega
    · rw [Nat.pow_zero, Nat.div_one, Nat.mul_one]
    · omega
  have hpos : 0 < halfEven m k / 2 ^ j := by
    have hrest : 0 < halfEven m k := pos_of_log2 (by omega)
    refine Nat.pos_of_ne_zero fun hzero => ?_
    rw [hzero, Nat.zero_mul] at hwhole
    omega
  unfold roundWithAccuracy
  simp only [hfirst, roundedMantissa_shiftRight, hsecond, mantissa_shiftRight,
    mantissa_ofMantissaAndAccuracy]
  rw [dif_neg (Nat.ne_of_gt hpos)]
  calc ((halfEven m k / 2 ^ j : ℕ) * 2 ^ (e + k + j) : ℚ)
      = ((halfEven m k / 2 ^ j * 2 ^ j : ℕ) : ℚ) * 2 ^ (e + k) := by
        rw [zpow_add₀ two_ne_zero, zpow_natCast, Nat.cast_mul, Nat.cast_pow]
        ring
    _ = halfEven m k * 2 ^ (e + k) := by rw [hwhole]

/-! ## Integers -/

/-- A natural number rounded to 53 significant bits. -/
def nearestNat (n : ℕ) : ℕ := halfEven n (n.log2 - 52) * 2 ^ (n.log2 - 52)

/-- An integer rounded to 53 significant bits, the same on both sides of zero. -/
def nearest (n : ℤ) : ℤ := n.sign * nearestNat n.natAbs

/-- Up to `2 ^ 53` every number has 53 significant bits at most. -/
theorem nearestNat_of_le {n : ℕ} (h : n ≤ 2 ^ 53) : nearestNat n = n := by
  rcases Nat.eq_or_lt_of_le h with rfl | hlt
  · decide
  · have hbits : n.log2 - 52 = 0 := by
      rcases Nat.eq_zero_or_pos n with rfl | hpos
      · rfl
      · have hlog := log2_lt_of_lt hpos hlt
        omega
    rw [nearestNat, hbits, halfEven_zero, Nat.pow_zero, Nat.mul_one]

theorem two_pow_log2_le_nearestNat {n : ℕ} (hn : 0 < n) : 2 ^ n.log2 ≤ nearestNat n := by
  calc 2 ^ n.log2 = 2 ^ (n.log2 - (n.log2 - 52)) * 2 ^ (n.log2 - 52) := by
        rw [← Nat.pow_add, Nat.sub_add_cancel (Nat.sub_le _ _)]
    _ ≤ n / 2 ^ (n.log2 - 52) * 2 ^ (n.log2 - 52) := by
        refine Nat.mul_le_mul_right _ ?_
        rw [Nat.le_div_iff_mul_le (Nat.two_pow_pos _), ← Nat.pow_add,
          Nat.sub_add_cancel (Nat.sub_le _ _)]
        exact two_pow_log2_le hn
    _ ≤ nearestNat n := Nat.mul_le_mul_right _ (le_halfEven n _)

theorem nearestNat_le_two_pow (n : ℕ) : nearestNat n ≤ 2 ^ (n.log2 + 1) := by
  have hfits : n / 2 ^ (n.log2 - 52) < 2 ^ (n.log2 + 1 - (n.log2 - 52)) := by
    rw [Nat.div_lt_iff_lt_mul (Nat.two_pow_pos _), ← Nat.pow_add, Nat.sub_add_cancel (by omega)]
    exact Nat.lt_log2_self
  calc nearestNat n ≤ 2 ^ (n.log2 + 1 - (n.log2 - 52)) * 2 ^ (n.log2 - 52) :=
        Nat.mul_le_mul_right _ ((halfEven_le n _).trans hfits)
    _ = 2 ^ (n.log2 + 1) := by rw [← Nat.pow_add, Nat.sub_add_cancel (by omega)]

/-- Rounding keeps the order: numbers of one length lose the same bits, and a power of two lies
between numbers of different lengths. -/
theorem nearestNat_mono {m n : ℕ} (h : m ≤ n) : nearestNat m ≤ nearestNat n := by
  rcases Nat.eq_zero_or_pos m with rfl | hm
  · exact Nat.zero_le _
  rcases Nat.lt_or_eq_of_le (log2_le_log2 hm h) with hlt | hsame
  · calc nearestNat m ≤ 2 ^ (m.log2 + 1) := nearestNat_le_two_pow m
      _ ≤ 2 ^ n.log2 := Nat.pow_le_pow_right (by decide) hlt
      _ ≤ nearestNat n := two_pow_log2_le_nearestNat (hm.trans_le h)
  · rw [nearestNat, nearestNat, hsame]
    exact Nat.mul_le_mul_right _ (halfEven_mono _ h)

theorem nearest_natCast (n : ℕ) : nearest n = nearestNat n := by
  rw [nearest, Int.natAbs_natCast]
  rcases Nat.eq_zero_or_pos n with rfl | hn
  · rfl
  · rw [Int.sign_natCast_of_ne_zero (Nat.ne_of_gt hn), Int.one_mul]

theorem nearest_neg (n : ℤ) : nearest (-n) = -nearest n := by
  rw [nearest, nearest, Int.sign_neg, Int.natAbs_neg, Int.neg_mul]

theorem nearest_of_le {n : ℤ} (h : n.natAbs ≤ 2 ^ 53) : nearest n = n := by
  rw [nearest, nearestNat_of_le h, Int.sign_mul_natAbs]

theorem nearest_mono {m n : ℤ} (h : m ≤ n) : nearest m ≤ nearest n := by
  obtain ⟨a, rfl | rfl⟩ := m.eq_nat_or_neg <;> obtain ⟨b, rfl | rfl⟩ := n.eq_nat_or_neg
  · rw [nearest_natCast, nearest_natCast]
    exact_mod_cast nearestNat_mono (by omega)
  · obtain ⟨rfl, rfl⟩ : a = 0 ∧ b = 0 := by omega
    exact le_rfl
  · rw [nearest_neg, nearest_natCast, nearest_natCast]
    omega
  · rw [nearest_neg, nearest_neg, nearest_natCast, nearest_natCast, neg_le_neg_iff]
    exact_mod_cast nearestNat_mono (by omega)

/-- Two integers compare after rounding as they do before it, unless they are rounded to the same. -/
theorem compare_nearest (m n : ℤ) :
    compare (nearest m) (nearest n) = if nearest m = nearest n then .eq else compare m n := by
  split_ifs with h
  · exact compare_eq_iff_eq.2 h
  · rcases lt_trichotomy m n with hlt | rfl | hgt
    · rw [compare_lt_iff_lt.2 hlt, compare_lt_iff_lt.2 (lt_of_le_of_ne (nearest_mono hlt.le) h)]
    · exact absurd rfl h
    · rw [compare_gt_iff_gt.2 hgt,
        compare_gt_iff_gt.2 (lt_of_le_of_ne (nearest_mono (le_of_lt hgt)) (Ne.symm h))]

/-! ## Integers as doubles -/

theorem Spans.full {low high : ℤ} {u : UnpackedFloat} (h : Spans low high u) : Full u := by
  cases h with
  | mk hm hbits => exact .finite .positive hm hbits

theorem value_ofNat {n : ℕ} (h : n < 2 ^ 64) :
    value (Float.ofNat n).toModel.unpack = nearestNat n := by
  rcases Nat.eq_zero_or_pos n with rfl | hn
  · rw [nearestNat_of_le (Nat.zero_le _), Nat.cast_zero]
    rfl
  rcases Nat.lt_or_ge n (2 ^ 53) with hsmall | hlarge
  · have hlog := log2_lt_of_lt hn hsmall
    have hexp : ((n.log2 : ℤ) - 52) = -((52 - n.log2 : ℕ) : ℤ) := by omega
    rw [unpack_ofNat hn hsmall, nearestNat_of_le hsmall.le, value, significand, hexp, zpow_neg,
      zpow_natCast, Nat.cast_mul, Nat.cast_pow]
    exact mul_inv_cancel_right₀ (by positivity) _
  · have hlog : 53 ≤ n.log2 := (Nat.le_log2 (Nat.ne_of_gt hn)).2 hlarge
    have hbits : (n * 2 ^ 53).log2 - 52 = n.log2 - 52 + 53 := by
      rw [log2_mul_two_pow hn]
      omega
    have hexp : (-53 : ℤ) + ((n.log2 - 52 + 53 : ℕ) : ℤ) = (n.log2 - 52 : ℕ) := by omega
    rw [unpack_ofNat_of_le hlarge h, value_roundWithAccuracy, hbits, halfEven_mul_two_pow, hexp,
      zpow_natCast, nearestNat, Nat.cast_mul, Nat.cast_pow]
    · rfl
    · rw [log2_mul_two_pow hn]
      omega
    · rw [totalExponent, log2_mul_two_pow hn]
      omega

/-- The opposite of a number with all its bits is not rounded. -/
theorem unpack_neg {low high : ℤ} {x : Float} (h : Spans low high x.toModel.unpack)
    (hlow : -1074 ≤ low) (hhigh : high ≤ 971) : x.neg.toModel.unpack = x.toModel.unpack.neg := by
  show UnpackedFloat.unpack .binary64 (x.toModel.unpack.neg.pack .binary64) = _
  generalize x.toModel.unpack = u at h
  cases h with
  | mk hm hbits hl hh => exact unpack_pack_of_full .negative hm hbits (by omega) (by omega)

theorem Full.neg {u : UnpackedFloat} (h : Full u) : Full u.neg := by
  cases h with
  | zero s => exact .zero _
  | finite s hm hbits => exact .finite _ hm hbits

theorem value_neg (u : UnpackedFloat) : value u.neg = -value u := by
  rcases u with s | _ | s | ⟨_ | _, m, e, hm⟩
  · exact neg_zero.symm
  · exact neg_zero.symm
  · exact neg_zero.symm
  · exact (neg_neg _).symm
  · rfl

/-- An integer as a double stands for the nearest number with 53 significant bits. -/
theorem unpack_ofInt {n : ℤ} (h : n.natAbs < 2 ^ 64) :
    Full (Float.ofInt n).toModel.unpack ∧ value (Float.ofInt n).toModel.unpack = nearest n := by
  cases n with
  | ofNat n =>
    refine ⟨?_, (value_ofNat h).trans ?_⟩
    · rcases Nat.eq_zero_or_pos n with rfl | hn
      · exact .zero .positive
      · exact (spans_ofNat hn h).full
    · exact_mod_cast congrArg (Int.cast : ℤ → ℚ) (nearest_natCast n).symm
  | negSucc n =>
    have h : n.succ < 2 ^ 64 := h
    have hspans := spans_ofNat n.succ_pos h
    have hlog := log2_lt_of_lt n.succ_pos h
    have hneg : (Float.ofInt (.negSucc n)).toModel.unpack = (Float.ofNat n.succ).toModel.unpack.neg :=
      unpack_neg hspans (by omega) (by omega)
    rw [hneg, value_neg, value_ofNat h]
    refine ⟨hspans.full.neg, ?_⟩
    rw [Int.negSucc_eq, ← Nat.cast_succ, nearest_neg, nearest_natCast]
    push_cast
    rfl

end Skirmish.Number
