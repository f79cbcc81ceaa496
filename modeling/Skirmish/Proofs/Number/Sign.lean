import Skirmish.Proofs.Number.Zero

/-!
# The signs of doubles

Doubles are judged by how they unpack. What is a number has a sign, rounding and packing keep it
(`signed_unpack_pack`), and only what is not a number packs into something that unpacks as none.

A natural number becomes a double without a minus sign (`signed_ofNat`). Sums, squares and roots of
such doubles are again of this kind, because no infinity is taken from another one and no root is
taken below zero.
-/

namespace Skirmish.Number

open Float.Model UnpackedFloat

/-- A number with a sign. -/
inductive Signed (s : Sign) : UnpackedFloat → Prop
  | infinity : Signed s (.infinity s)
  | zero : Signed s (.zero s)
  | finite (m : Nat) (e : Int) (h : 0 < m) : Signed s (.finite s m e h)

variable {u v : UnpackedFloat} {x y : Float} {s : Sign} {spec : Format}

theorem Signed.isNaN_eq (h : Signed s u) : u.isNaN = false := by
  cases h <;> rfl

theorem exists_signed (h : u.isNaN = false) : ∃ s, Signed s u := by
  cases u with
  | notANumber => cases h
  | infinity s => exact ⟨s, .infinity⟩
  | zero s => exact ⟨s, .zero⟩
  | finite s m e hm => exact ⟨s, .finite m e hm⟩

theorem signed_neg (h : Signed s u) : Signed (-s) u.neg := by
  cases h with
  | infinity => exact .infinity
  | zero => exact .zero
  | finite => exact .finite ..

/-! ## Rounding and packing -/

theorem signed_round (s : Sign) (m : Nat) (e : Int) (a : Accuracy) :
    Signed s (roundWithAccuracy spec s m e a) := by
  unfold roundWithAccuracy
  dsimp only
  split
  · exact .zero
  · exact .finite ..

theorem signed_normalize {m : Int} (hm : 0 ≤ m) (e : Int) :
    Signed .positive (UnpackedFloat.normalize spec m e .positive) := by
  unfold UnpackedFloat.normalize
  split
  · next h => exact absurd (Int.compare_eq_lt.1 h) (by omega)
  · exact .zero
  · exact signed_round ..

theorem signed_unpack_components (s : Sign) (e : BitVec spec.exponentBits)
    (m : BitVec spec.mantissaBitsWithoutImplicit) (h : e = -1#_ → m = 0#_) :
    Signed s (UnpackedFloat.unpack spec (packComponents spec s e m)) := by
  unfold UnpackedFloat.unpack
  simp only [unpackExponent_packComponents, unpackMantissa_packComponents,
    unpackSign_packComponents, Sign.ofBitVec_toBitVec]
  split
  · next he =>
    rw [if_pos (h he)]
    exact .infinity
  · split
    · split
      · exact .zero
      · exact .finite ..
    · exact .finite ..

/-- Fields that leave room for one more are not all ones. -/
theorem ofNat_ne_full {n w : Nat} (h : n + 1 < 2 ^ w) : BitVec.ofNat w n ≠ -1#w := by
  intro hfull
  have hvalue := congrArg BitVec.toNat hfull
  rw [BitVec.toNat_ofNat, Nat.mod_eq_of_lt (by omega), BitVec.neg_one_eq_allOnes,
    BitVec.toNat_allOnes] at hvalue
  omega

theorem signed_unpack_pack (h : Signed s u) :
    Signed s (UnpackedFloat.unpack spec (u.pack spec)) := by
  cases h with
  | infinity => exact signed_unpack_components s _ _ fun _ => rfl
  | zero => exact signed_unpack_components s _ _ fun _ => rfl
  | finite m e hm =>
    have hbits := spec.he
    unfold UnpackedFloat.pack
    dsimp only
    split
    · exact signed_unpack_components s _ _ fun _ => rfl
    · next hfits =>
      split
      · exact signed_unpack_components s _ _ fun hfull => absurd hfull (ofNat_ne_full (by omega))
      · refine signed_unpack_components s _ _ fun hfull => absurd hfull (ofNat_ne_full ?_)
        exact Nat.one_lt_two_pow (by omega)

/-! ## Arithmetic without minus signs -/

theorem signed_add (hu : Signed .positive u) (hv : Signed .positive v) :
    Signed .positive (u.add spec v) := by
  cases hu with
  | infinity => cases hv <;> exact .infinity
  | zero =>
    cases hv with
    | infinity => exact .infinity
    | zero => exact .zero
    | finite => exact .finite ..
  | finite =>
    cases hv with
    | infinity => exact .infinity
    | zero => exact .finite ..
    | finite =>
      refine signed_normalize (Int.add_nonneg ?_ ?_) _
      · exact Int.natCast_nonneg _
      · exact Int.natCast_nonneg _

theorem signed_square (hu : Signed .positive u) : Signed .positive (u.mul spec u) := by
  cases hu with
  | infinity => exact .infinity
  | zero => exact .zero
  | finite => exact signed_round ..

theorem signed_sqrt (hu : Signed .positive u) : Signed .positive (u.sqrt spec) := by
  cases hu with
  | infinity => exact .infinity
  | zero => exact .zero
  | finite => exact signed_round ..

theorem signed_mul_finite (hu : Signed .positive u) (m : Nat) (e : Int) (hm : 0 < m) :
    Signed .positive (u.mul spec (.finite .positive m e hm)) := by
  cases hu with
  | infinity => exact .infinity
  | zero => exact .zero
  | finite => exact signed_round ..

theorem signed_ofScientific (m e : Nat) :
    Signed .positive (UnpackedFloat.ofScientific spec m e) := by
  unfold UnpackedFloat.ofScientific
  split
  · exact .zero
  · split
    · exact .infinity
    · split
      · exact .zero
      · rw [if_pos (Int.natCast_nonneg e)]
        exact signed_mul_finite (.finite ..) ..

theorem signed_ofNat (n : Nat) : Signed .positive (Float.ofNat n).toModel.unpack := by
  show Signed .positive (Float.ofScientific n false 0).toModel.unpack
  unfold Float.ofScientific
  split
  · have hword : Signed .positive n.toUInt64.toFloat.toModel.unpack :=
      signed_unpack_pack (signed_normalize (Int.natCast_nonneg _) 0)
    have hone : (Float.exactlyRepresentablePowersOfTen[0]).toModel.unpack =
        .finite .positive (2 ^ 52) (-52) (by decide) := rfl
    refine signed_unpack_pack ?_
    exact hone ▸ signed_mul_finite hword ..
  · exact signed_unpack_pack (signed_ofScientific n 0)

namespace Signed

theorem add (hx : Signed .positive x.toModel.unpack) (hy : Signed .positive y.toModel.unpack) :
    Signed .positive (x + y).toModel.unpack :=
  signed_unpack_pack (signed_add hx hy)

theorem square (hx : Signed .positive x.toModel.unpack) :
    Signed .positive (x * x).toModel.unpack :=
  signed_unpack_pack (signed_square hx)

theorem sqrt (hx : Signed .positive x.toModel.unpack) : Signed .positive x.sqrt.toModel.unpack :=
  signed_unpack_pack (signed_sqrt hx)

end Signed

end Skirmish.Number
