import Skirmish.Proofs.Number.Sign

/-!
# Rounding of doubles

A number with all its bits has a significand of exactly 53 bits (`Spans`). Rounding something that
has at least as many bits, and is not tiny, gives such a number, at the exponent of what was rounded
or one above (`spans_roundWithAccuracy`); where the bits that go are zeros, nothing is lost
(`roundWithAccuracy_exact`). Packing keeps numbers with all their bits (`unpack_pack`).
-/

namespace Skirmish.Number

open Float.Model UnpackedFloat

/-- A positive number with all its bits, at an exponent between two bounds. -/
inductive Spans (low high : ℤ) : UnpackedFloat → Prop
  | mk {m : ℕ} {e : ℤ} (hm : 0 < m) (hbits : m.log2 = 52) (hlow : low ≤ e) (hhigh : e ≤ high) :
      Spans low high (.finite .positive m e hm)

/-! ## Bits -/

theorem log2_eq {n k : ℕ} (hlow : 2 ^ k ≤ n) (hhigh : n < 2 ^ (k + 1)) : n.log2 = k :=
  (Nat.log2_eq_iff (Nat.ne_of_gt (Nat.lt_of_lt_of_le (Nat.two_pow_pos k) hlow))).2 ⟨hlow, hhigh⟩

theorem two_pow_log2_le {n : ℕ} (h : 0 < n) : 2 ^ n.log2 ≤ n := Nat.log2_self_le (Nat.ne_of_gt h)

theorem bounds_of_log2 {n k : ℕ} (hn : 0 < n) (h : n.log2 = k) : 2 ^ k ≤ n ∧ n < 2 ^ (k + 1) :=
  (Nat.log2_eq_iff (Nat.ne_of_gt hn)).1 h

theorem log2_mul_two_pow {n : ℕ} (h : 0 < n) (k : ℕ) : (n * 2 ^ k).log2 = n.log2 + k := by
  refine log2_eq ?_ ?_
  · rw [Nat.pow_add]
    exact Nat.mul_le_mul_right _ (two_pow_log2_le h)
  · rw [Nat.add_right_comm, Nat.pow_add]
    exact Nat.mul_lt_mul_of_pos_right Nat.lt_log2_self (Nat.two_pow_pos k)

theorem log2_div_two_pow {n k : ℕ} (h : k ≤ n.log2) (hn : 0 < n) :
    (n / 2 ^ k).log2 = n.log2 - k := by
  refine log2_eq ?_ ?_
  · rw [Nat.le_div_iff_mul_le (Nat.two_pow_pos k), ← Nat.pow_add, Nat.sub_add_cancel h]
    exact two_pow_log2_le hn
  · rw [Nat.div_lt_iff_lt_mul (Nat.two_pow_pos k), ← Nat.pow_add]
    have hsum : n.log2 - k + 1 + k = n.log2 + 1 := by omega
    rw [hsum]
    exact Nat.lt_log2_self

theorem log2_le_log2 {m n : ℕ} (hm : 0 < m) (h : m ≤ n) : m.log2 ≤ n.log2 :=
  (Nat.le_log2 (by omega)).2 (Nat.le_trans (two_pow_log2_le hm) h)

theorem pos_of_log2 {n : ℕ} (h : 0 < n.log2) : 0 < n := by
  refine Nat.pos_of_ne_zero fun hzero => ?_
  rw [hzero, Nat.log2_zero] at h
  exact Nat.lt_irrefl 0 h

/-! ## Shifting -/

theorem shiftRight_succ (em : ExtendedMantissa) (n : ℕ) :
    em >>> (n + 1) = (em >>> n).shiftRightOne := rfl

theorem mantissa_shiftRight (em : ExtendedMantissa) (n : ℕ) :
    (em >>> n).mantissa = em.mantissa / 2 ^ n := by
  induction n with
  | zero => exact (Nat.div_one _).symm
  | succ n ih =>
    rw [shiftRight_succ, Nat.pow_succ, ← Nat.div_div_eq_div_mul, ← ih]
    rfl

/-- Zeros that are shifted out leave no trace. -/
theorem shiftRight_mul_two_pow (m n : ℕ) :
    ExtendedMantissa.ofMantissaAndAccuracy (m * 2 ^ n) .exact >>> n = ⟨m, false, false⟩ := by
  induction n generalizing m with
  | zero =>
    rw [Nat.pow_zero, Nat.mul_one]
    rfl
  | succ n ih =>
    have hsplit : m * 2 ^ (n + 1) = m * 2 * 2 ^ n := by rw [Nat.pow_succ]; ring
    rw [hsplit, shiftRight_succ, ih (m * 2)]
    simp [ExtendedMantissa.shiftRightOne]

theorem mantissa_ofMantissaAndAccuracy (m : ℕ) (a : Accuracy) :
    (ExtendedMantissa.ofMantissaAndAccuracy m a).mantissa = m := by
  rcases a with _ | (_ | _ | _) <;> rfl

/-- Rounding leaves a significand or goes up by one. -/
theorem roundedMantissa_cases (em : ExtendedMantissa) :
    em.roundedMantissa = em.mantissa ∨ em.roundedMantissa = em.mantissa + 1 := by
  obtain ⟨m, roundBit, stickyBit⟩ := em
  cases roundBit with
  | false => cases stickyBit <;> exact .inl rfl
  | true =>
    cases stickyBit with
    | true => exact .inr rfl
    | false =>
      show m + m % 2 = m ∨ m + m % 2 = m + 1
      omega

/-! ## Rounding -/

theorem targetExponent_of_le {t : ℤ} (h : -1021 ≤ t) :
    Format.binary64.targetExponent t = t - 53 := by
  show max (t - 53) (-1074) = t - 53
  omega

/-- A number with all its bits is at the exponent that it should have. -/
theorem shift_of_full {m : ℕ} {e : ℤ} {k : ℕ} (hbits : m.log2 = 52 + k)
    (hlow : -1074 ≤ e + k) (a : Accuracy) :
    shiftToTargetExponent .binary64 m e a =
      (ExtendedMantissa.ofMantissaAndAccuracy m a >>> k, e + k) := by
  have htotal : totalExponent m e = e + k + 53 := by
    rw [totalExponent, hbits]
    push_cast
    ring
  have hshift : (Format.binary64.targetExponent (totalExponent m e) - e).toNat = k := by
    rw [htotal, targetExponent_of_le (by omega)]
    omega
  rw [shiftToTargetExponent, shiftToExponent, hshift]

/-- Rounding is exact where the bits that go are zeros. -/
theorem roundWithAccuracy_exact (s : Sign) {m k : ℕ} {e : ℤ} (hm : 0 < m) (hbits : m.log2 = 52)
    (hlow : -1074 ≤ e + k) :
    roundWithAccuracy .binary64 s (m * 2 ^ k) e .exact = .finite s m (e + k) hm := by
  have hfirst := shift_of_full (m := m * 2 ^ k) (k := k) (e := e)
    (by rw [log2_mul_two_pow hm, hbits]) hlow .exact
  have hsecond := shift_of_full (m := m) (k := 0) (e := e + k) hbits (by omega) .exact
  have hrounded : ExtendedMantissa.roundedMantissa ⟨m, false, false⟩ = m := rfl
  have hkept : (ExtendedMantissa.ofMantissaAndAccuracy m .exact >>> 0).mantissa = m := rfl
  unfold roundWithAccuracy
  simp only [hfirst, shiftRight_mul_two_pow, hrounded, hsecond, hkept]
  rw [dif_neg (Nat.ne_of_gt hm)]
  congr 1
  omega

/-- Rounding up a significand of 53 bits makes it one bit longer at most. -/
theorem log2_roundedMantissa {em : ExtendedMantissa} (h : em.mantissa.log2 = 52) :
    ∃ j ≤ 1, em.roundedMantissa.log2 = 52 + j := by
  obtain ⟨hge, hlt⟩ := bounds_of_log2 (pos_of_log2 (by omega)) h
  have hcases := roundedMantissa_cases em
  rcases Nat.lt_or_ge em.roundedMantissa (2 ^ 53) with hfits | hover
  · exact ⟨0, by omega, log2_eq (by omega) hfits⟩
  · exact ⟨1, le_rfl, log2_eq hover (by omega)⟩

/-- Rounding keeps the exponent of a number that has enough bits, or raises it by one. -/
theorem spans_roundWithAccuracy {m : ℕ} {e : ℤ} (hbits : 52 ≤ m.log2)
    (hlow : -1021 ≤ totalExponent m e) (a : Accuracy) :
    Spans (totalExponent m e - 53) (totalExponent m e - 52)
      (roundWithAccuracy .binary64 .positive m e a) := by
  obtain ⟨k, hk⟩ : ∃ k, m.log2 = 52 + k := ⟨m.log2 - 52, by omega⟩
  have htotal : totalExponent m e = e + k + 53 := by
    rw [totalExponent, hk]
    push_cast
    ring
  rw [htotal] at hlow ⊢
  -- What is left of the significand has 53 bits, and one more if rounding up overflows.
  let em := ExtendedMantissa.ofMantissaAndAccuracy m a >>> k
  have hfirst : shiftToTargetExponent .binary64 m e a = (em, e + k) :=
    shift_of_full hk (by omega) a
  have hleft : em.mantissa.log2 = 52 := by
    rw [mantissa_shiftRight, mantissa_ofMantissaAndAccuracy,
      log2_div_two_pow (by omega) (pos_of_log2 (by omega))]
    omega
  obtain ⟨j, hj, hrounded⟩ := log2_roundedMantissa hleft
  have hsecond := shift_of_full (e := e + k) hrounded (by omega) .exact
  have hfinal : (ExtendedMantissa.ofMantissaAndAccuracy em.roundedMantissa .exact >>>
      j).mantissa.log2 = 52 := by
    rw [mantissa_shiftRight, mantissa_ofMantissaAndAccuracy,
      log2_div_two_pow (by omega) (pos_of_log2 (by omega))]
    omega
  have hpositive := pos_of_log2 (Nat.lt_of_lt_of_eq (by decide : 0 < 52) hfinal.symm)
  unfold roundWithAccuracy
  simp only [hfirst, hsecond]
  rw [dif_neg (Nat.ne_of_gt hpositive)]
  exact .mk hpositive hfinal (by omega) (by omega)

/-- Rounding what may have too few bits fills them up first. -/
theorem spans_round {m : ℕ} {e : ℤ} (hm : 0 < m) (hlow : -1021 ≤ totalExponent m e) :
    Spans (totalExponent m e - 53) (totalExponent m e - 52)
      (UnpackedFloat.round .binary64 .positive m e) := by
  obtain ⟨k, hk⟩ : ∃ k, (e - (totalExponent m e - 53)).toNat = k := ⟨_, rfl⟩
  have htotal : totalExponent (m * 2 ^ k) (e - k) = totalExponent m e := by
    rw [totalExponent, totalExponent, log2_mul_two_pow hm]
    push_cast
    ring
  have hbits : 52 ≤ (m * 2 ^ k).log2 := by
    rw [log2_mul_two_pow hm]
    rw [totalExponent] at hk
    omega
  have hspans := spans_roundWithAccuracy (e := e - k) hbits (by rwa [htotal]) .exact
  rw [htotal] at hspans
  rw [UnpackedFloat.round, targetExponent_of_le hlow, decreaseExponent, hk, Nat.shiftLeft_eq]
  exact hspans

theorem normalize_of_pos {n : ℕ} (hn : 0 < n) (e : ℤ) (zeroSign : Sign) :
    UnpackedFloat.normalize .binary64 n e zeroSign = UnpackedFloat.round .binary64 .positive n e := by
  have hcompare : compare (n : ℤ) 0 = .gt := Int.compare_eq_gt.2 (Int.natCast_pos.2 hn)
  rw [UnpackedFloat.normalize, hcompare]
  rfl

/-! ## Packing -/

/-- A significand is its first bit, which is a one, and the others. -/
theorem toNat_one_append {m w : ℕ} (hbits : m.log2 = w) (hm : 0 < m) :
    (1#1 ++ BitVec.ofNat w m).toNat = m := by
  obtain ⟨hge, hlt⟩ := bounds_of_log2 hm hbits
  rw [Nat.pow_succ] at hlt
  have hrest : m % 2 ^ w = m - 2 ^ w := by
    rw [Nat.mod_eq_sub_mod hge, Nat.mod_eq_of_lt (by omega)]
  have hlow : m - 2 ^ w < 2 ^ w := by omega
  rw [BitVec.toNat_append, BitVec.toNat_ofNat, BitVec.toNat_ofNat, hrest,
    ← Nat.shiftLeft_add_eq_or_of_lt hlow, Nat.shiftLeft_eq]
  omega

/-- A number with all its bits whose exponent fits is packed as it is. -/
theorem unpack_pack {spec : Format} (s : Sign) {m : ℕ} {e : ℤ} (hm : 0 < m)
    (hbits : m.log2 = spec.mantissaBitsWithoutImplicit)
    (hlow : 0 < e + spec.exponentBias + spec.mantissaBitsWithoutImplicit)
    (hhigh : (e + spec.exponentBias + spec.mantissaBitsWithoutImplicit).toNat + 1 <
      2 ^ spec.exponentBits) :
    UnpackedFloat.unpack spec ((UnpackedFloat.finite s m e hm).pack spec) = .finite s m e hm := by
  let biased := (e + spec.exponentBias + spec.mantissaBitsWithoutImplicit).toNat
  have hpacked : (UnpackedFloat.finite s m e hm).pack spec =
      packComponents spec s (BitVec.ofNat _ biased) (BitVec.ofNat _ m) := by
    unfold UnpackedFloat.pack
    dsimp only
    rw [if_neg (Nat.not_le.2 hhigh), if_pos (by rw [hbits, Format.mantissaBits, Nat.add_comm])]
  have hfield : (BitVec.ofNat spec.exponentBits biased).toNat = biased := by
    rw [BitVec.toNat_ofNat, Nat.mod_eq_of_lt (by omega)]
  have hnonzero : BitVec.ofNat spec.exponentBits biased ≠ 0#_ := by
    intro hzero
    have hvalue := congrArg BitVec.toNat hzero
    rw [hfield, BitVec.toNat_ofNat, Nat.zero_mod] at hvalue
    omega
  rw [hpacked]
  unfold UnpackedFloat.unpack
  simp only [unpackExponent_packComponents, unpackMantissa_packComponents,
    unpackSign_packComponents, Sign.ofBitVec_toBitVec]
  rw [if_neg (ofNat_ne_full hhigh), if_neg hnonzero]
  simp only [toNat_one_append hbits hm, hfield]
  congr 1
  omega

theorem unpack_pack_of_full (s : Sign) {m : ℕ} {e : ℤ} (hm : 0 < m) (hbits : m.log2 = 52)
    (hlow : -1074 ≤ e) (hhigh : e ≤ 971) :
    UnpackedFloat.unpack .binary64 ((UnpackedFloat.finite s m e hm).pack .binary64) =
      .finite s m e hm := by
  have hbias : ((Format.binary64.exponentBias : ℕ) : ℤ) = 1023 := rfl
  refine unpack_pack s hm hbits ?_ ?_
  · rw [hbias]
    show 0 < e + 1023 + 52
    omega
  · rw [hbias]
    show (e + 1023 + 52).toNat + 1 < 2048
    omega

namespace Spans

variable {low high : ℤ} {u : UnpackedFloat}

theorem mono {low' high' : ℤ} (h : Spans low high u) (hlow : low' ≤ low) (hhigh : high ≤ high') :
    Spans low' high' u := by
  cases h with
  | mk hm hbits hl hh => exact .mk hm hbits (by omega) (by omega)

theorem unpack_pack_eq (h : Spans low high u) (hlow : -1074 ≤ low) (hhigh : high ≤ 971) :
    UnpackedFloat.unpack .binary64 (u.pack .binary64) = u := by
  cases h with
  | mk hm hbits hl hh => exact unpack_pack_of_full .positive hm hbits (by omega) (by omega)

end Spans

end Skirmish.Number
