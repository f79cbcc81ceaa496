import Mathlib

/-!
# Doubles and zero

Two doubles that are equal as numbers are the same, except for the zeros, which are equal and have
different bits (`eq_of_beq_of_ne_zero`, `toBits_of_zero`). What is not above zero is below a hundred
(`not_hundred_le`).
-/

namespace Skirmish.Number

open Float.Model

variable {x y : Float}

/-! ## Comparing with zero -/

theorem beq_zero_iff : x == 0.0 ↔ x = 0 ∨ x = -0 := by
  constructor
  · intro h
    rcases (Float.beq_iff_ne_nan_and_eq.1 h).2.2 with rfl | ⟨rfl, -⟩ | ⟨rfl, -⟩
    · exact .inl rfl
    · exact .inl rfl
    · exact .inr rfl
  · rintro (rfl | rfl) <;> rfl

theorem eq_of_beq_of_ne_zero (h : x == y) (hx : (x == 0.0) = false) : x = y := by
  rcases (Float.beq_iff_ne_nan_and_eq.1 h).2.2 with heq | ⟨rfl, -⟩ | ⟨rfl, -⟩
  · exact heq
  · cases hx
  · cases hx

/-- What is equal to a zero is a zero. -/
theorem beq_zero_congr (h : x == y) : (x == 0.0) = (y == 0.0) := by
  rcases (Float.beq_iff_ne_nan_and_eq.1 h).2.2 with rfl | ⟨rfl, rfl⟩ | ⟨rfl, rfl⟩ <;> rfl

/-- The zeros have no bits but their sign. -/
theorem toBits_of_zero (h : x == 0.0) : x.toBits = 0 ∨ x.toBits = 0x8000000000000000 := by
  rcases beq_zero_iff.1 h with rfl | rfl
  · exact .inl rfl
  · exact .inr rfl

/-! ## On the other side of zero -/

theorem le_iff : x ≤ y ↔ x.toModel.unpack.le y.toModel.unpack := by
  have hle : (x ≤ y) = (Float.le x y = true) := rfl
  have hmodel : Float.le x y = x.toModel.unpack.le y.toModel.unpack := by
    rw [Float.le]
    exact Bool.decide_eq_true
  rw [hle, hmodel]

theorem unpack_zero : (0.0 : Float).toModel.unpack = .zero .positive := rfl

theorem unpacked_le_zero_iff {a : UnpackedFloat} : a.le (.zero .positive) ↔
    (∃ s, a = .zero s) ∨ a = .infinity .negative ∨ ∃ m e h, a = .finite .negative m e h := by
  rcases a with (_ | _) | _ | s | ⟨_ | _, m, e, h⟩ <;>
    simp [UnpackedFloat.le, UnpackedFloat.compare, *]

/-- No double is at most zero and at least a hundred. -/
theorem not_hundred_le (h : x ≤ 0.0) : ¬ 100.0 ≤ x := by
  rw [le_iff, unpack_zero, unpacked_le_zero_iff] at h
  rw [le_iff]
  obtain ⟨s, hs⟩ | hs | ⟨m, e, hm, hs⟩ := h <;> rw [hs] <;> exact Bool.false_ne_true

end Skirmish.Number
