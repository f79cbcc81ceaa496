import Mathlib.Algebra.Order.Group.Abs
import Mathlib.Algebra.Order.Group.Unbundled.Int
import Mathlib.Algebra.Order.Ring.Int
import Skirmish.Grid.Shape

/-!
# Lines, step by step

A line covers a place if one of its steps comes within the radius on both axes
(`Shape.covers_line_iff`). The line is never walked: what is kept of its steps is a first and a last
one, and every axis narrows them to those that come near enough on it (`Shape.Steps.mem_near?_iff`).

Where the bound of an axis stops at the end of the words it bounds nothing: the first step is at
least one, and the last one is a word.
-/

namespace Skirmish.Shape

namespace Steps

instance : Membership Int Steps where
  mem s t := s.first.toInt ≤ t ∧ t ≤ s.last.toInt

theorem mem_iff {s : Steps} {t : Int} : t ∈ s ↔ s.first.toInt ≤ t ∧ t ≤ s.last.toInt := Iff.rfl

/-- There are steps if the first is not behind the last. -/
theorem exists_mem_iff {s : Steps} : (∃ t, t ∈ s) ↔ s.first ≤ s.last := by
  rw [Int64.le_iff_toInt_le]
  constructor
  · rintro ⟨t, hfirst, hlast⟩
    exact Int.le_trans hfirst hlast
  · intro h
    exact ⟨s.first.toInt, Int.le_refl _, h⟩

variable {radius : Int64} {step offset : Int} {s : Steps}

theorem first_near? (h : 1 ≤ s.first.toInt) {axis : Int × Int} {n : Steps}
    (hn : s.near? radius axis = some n) : 1 ≤ n.first.toInt := by
  simp only [near?] at hn
  split at hn
  · split at hn
    · cases hn
    · cases hn
      exact h
  · cases hn
    rw [Saturating.toInt_max]
    omega

/-- A line that goes along an axis comes near an offset between two of its steps. -/
theorem mem_narrowed_iff (hradius : 0 ≤ radius.toInt) (hstep : step = 1 ∨ step = -1)
    (hoffset : offset.natAbs < 4294967296) (hfirst : 1 ≤ s.first.toInt) (t : Int) :
    let along := Int64.ofInt (step * offset)
    t ∈ Steps.mk (max s.first (Saturating.sub along radius))
        (min s.last (Saturating.add along radius)) ↔
      t ∈ s ∧ |offset - t * step| ≤ radius.toInt := by
  intro along
  have hlong : along.toInt = step * offset := by
    refine Int64.toInt_ofInt_of_le ?_ ?_ <;> rcases hstep with rfl | rfl <;> omega
  have hlast := s.last.toInt_lt
  have hword := radius.toInt_lt
  rw [mem_iff, mem_iff, Saturating.toInt_max, Saturating.toInt_min, Saturating.toInt_sub,
    Saturating.toInt_add, hlong, abs_le]
  rcases hstep with rfl | rfl <;> omega

/-- Of the steps of a line those are left that come near enough on the axis. -/
theorem mem_near?_iff (hradius : 0 ≤ radius.toInt) (hstep : step.natAbs ≤ 1)
    (hoffset : offset.natAbs < 4294967296) (hfirst : 1 ≤ s.first.toInt) (t : Int) :
    (∃ n, s.near? radius (step, offset) = some n ∧ t ∈ n) ↔
      t ∈ s ∧ |offset - t * step| ≤ radius.toInt := by
  by_cases hlevel : step = 0
  · -- The line stays where it is on this axis, near enough with all its steps or with none.
    have hdistance : |offset - t * step| = offset.natAbs := by
      rw [hlevel, Int.mul_zero, Int.sub_zero, Int.abs_eq_natAbs]
    rw [hdistance]
    by_cases hfar : radius.toInt < offset.natAbs
    · simp only [near?, hlevel, if_true, if_pos hfar]
      constructor
      · rintro ⟨n, ⟨⟩, -⟩
      · rintro ⟨-, hnear⟩
        exact absurd hnear (Int.not_le.2 hfar)
    · simp only [near?, hlevel, if_true, if_neg hfar, Option.some.injEq, exists_eq_left']
      exact (and_iff_left (Int.not_lt.1 hfar)).symm
  · have hunit : step = 1 ∨ step = -1 := by omega
    simp only [near?, if_neg hlevel, Option.some.injEq, exists_eq_left']
    exact mem_narrowed_iff hradius hunit hoffset hfirst t

/-- After all axes those steps are left that come near enough on every one of them. -/
theorem mem_foldlM_near?_iff (hradius : 0 ≤ radius.toInt) {axes : List (Int × Int)}
    (haxes : ∀ axis ∈ axes, axis.1.natAbs ≤ 1 ∧ axis.2.natAbs < 4294967296)
    (hfirst : 1 ≤ s.first.toInt) (t : Int) :
    (∃ n, axes.foldlM (near? radius) s = some n ∧ t ∈ n) ↔
      t ∈ s ∧ ∀ axis ∈ axes, |axis.2 - t * axis.1| ≤ radius.toInt := by
  induction axes generalizing s with
  | nil => simp
  | cons axis axes ih =>
    obtain ⟨hstep, hoffset⟩ := haxes axis List.mem_cons_self
    have hrest : ∀ n, s.near? radius axis = some n →
        ((∃ m, axes.foldlM (near? radius) n = some m ∧ t ∈ m) ↔
          t ∈ n ∧ ∀ axis ∈ axes, |axis.2 - t * axis.1| ≤ radius.toInt) := fun n hn =>
      ih (fun a ha => haxes a (List.mem_cons_of_mem axis ha)) (first_near? hfirst hn)
    have hone := mem_near?_iff hradius hstep hoffset hfirst t
    rw [List.forall_mem_cons, ← and_assoc, ← hone]
    cases hn : s.near? radius axis with
    | none => simp [hn]
    | some n => simpa [hn] using hrest n hn

end Steps

/-! ## Lines -/

variable {length radius : Int64}

theorem lineCovers_iff (d : Direction) {offset : Int × Int}
    (hcolumns : offset.1.natAbs < 4294967296) (hrows : offset.2.natAbs < 4294967296) :
    lineCovers d length radius offset = true ↔
      ∃ t : Int, 1 ≤ t ∧ t ≤ length.toInt ∧
        |offset.1 - t * d.step.1| ≤ max radius.toInt 0 ∧
        |offset.2 - t * d.step.2| ≤ max radius.toInt 0 := by
  have hreach : (max radius 0).toInt = max radius.toInt 0 := Saturating.toInt_max ..
  have hradius : 0 ≤ (max radius 0).toInt := by omega
  have haxes : ∀ axis ∈ [(d.step.1, offset.1), (d.step.2, offset.2)],
      axis.1.natAbs ≤ 1 ∧ axis.2.natAbs < 4294967296 := by
    have hstep : d.step.1.natAbs ≤ 1 ∧ d.step.2.natAbs ≤ 1 := by cases d <;> decide
    simp [hstep, hcolumns, hrows]
  have hleft := fun t => Steps.mem_foldlM_near?_iff (s := ⟨1, length⟩) hradius haxes
    (Int.le_refl 1) t
  simp only [List.forall_mem_cons, List.not_mem_nil, false_imp_iff, implies_true, and_true,
    Steps.mem_iff, hreach] at hleft
  rw [lineCovers, Option.any_eq_true]
  simp only [decide_eq_true_eq, ← Steps.exists_mem_iff]
  constructor
  · rintro ⟨s, hs, t, ht⟩
    obtain ⟨⟨hfirst, hlast⟩, hnear⟩ := (hleft t).1 ⟨s, hs, ht⟩
    exact ⟨t, hfirst, hlast, hnear⟩
  · rintro ⟨t, hfirst, hlast, hnear⟩
    obtain ⟨s, hs, ht⟩ := (hleft t).2 ⟨⟨hfirst, hlast⟩, hnear⟩
    exact ⟨s, hs, t, ht⟩

/-- A line covers a place other than its origin if a step `t` from `1` to its length ends within its
radius of the place on both axes; a negative radius counts as zero. -/
theorem covers_line_iff (d : Direction) (length radius : Int64) (origin p : Coord) :
    (line d length radius).covers origin p = true ↔
      p ≠ origin ∧ ∃ t : Int, 1 ≤ t ∧ t ≤ length.toInt ∧
        |p.x.toInt - (origin.x.toInt + t * d.step.1)| ≤ max radius.toInt 0 ∧
        |p.y.toInt - (origin.y.toInt + t * d.step.2)| ≤ max radius.toInt 0 := by
  have hwords : ∀ a b : Int32, (b.toInt - a.toInt).natAbs < 4294967296 := by
    intro a b
    have hlow := a.le_toInt
    have hhigh := a.toInt_lt
    have hlow' := b.le_toInt
    have hhigh' := b.toInt_lt
    omega
  have hlines : lineCovers d length radius (origin.difference p) = true ↔ _ :=
    lineCovers_iff d (hwords ..) (hwords ..)
  simp only [Coord.difference, Int.sub_sub] at hlines
  simp only [covers, Bool.and_eq_true, decide_eq_true_eq, Coord.difference, hlines]

/-- The greatest length and the greatest radius, whose bounds are no words. -/
example : (line .west .maxValue .maxValue).covers ⟨1, 1⟩ ⟨.minValue, .maxValue⟩ = true := by decide

end Skirmish.Shape
