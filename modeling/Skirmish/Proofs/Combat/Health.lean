import Skirmish.Proofs.Combat.Hit

/-!
# Health in exact integers

Words wrap and saturate. The health that hits and heals leave, and the amounts that are recorded,
stay in the range all the same and obey the plain laws of integers. A hit leaves health between zero
and what there was (`impact_after_nonneg`, `impact_after_le`), an undying unit that it would kill at
the floor (`held_iff_wouldKill`, `impact_after_of_held`); a heal leaves it between what there was
and the greatest (`le_of_healedTo?`, `healedTo?_le`); and the recorded amounts are the differences.
-/

namespace Skirmish.Combat

variable {rules : Rules} {unit : Bag} {amount after : Int64}

/-- What the shield lets through of a hit. -/
def Impact.through (i : Impact) (amount : Int64) : Int64 := amount - i.absorbed

/-! ## What is left of health -/

/-- The floor holds an undying unit that would fall below it and be dead. -/
theorem healthLeft_held_iff {loss : Int64} :
    (healthLeft rules unit loss).2 = true ↔
      unit.isActive Stat.undyingTurns = true ∧
        (Saturating.sub unit.hp loss).toInt < min 1 (min rules.undyingFloor.toInt unit.hp.toInt) := by
  have hone : (1 : Int64).toInt = 1 := rfl
  simp only [healthLeft, Bool.and_eq_true, decide_eq_true_eq, Int64.lt_iff_toInt_lt,
    Saturating.toInt_min, hone, and_assoc]
  refine and_congr_right fun _ => ?_
  omega

theorem toInt_healthLeft {loss : Int64} :
    (healthLeft rules unit loss).1.toInt =
      max (if (healthLeft rules unit loss).2 = true then
        min rules.undyingFloor.toInt unit.hp.toInt
      else (Saturating.sub unit.hp loss).toInt) 0 := by
  have hleft : (healthLeft rules unit loss).1 =
      max (if (healthLeft rules unit loss).2 = true then min rules.undyingFloor unit.hp
        else Saturating.sub unit.hp loss) 0 := rfl
  rw [hleft, Saturating.toInt_max, Int64.toInt_zero]
  split
  · rw [Saturating.toInt_min]
  · rfl

theorem toInt_sub_hp {loss : Int64} (h : 0 ≤ loss.toInt) :
    (Saturating.sub unit.hp loss).toInt =
      max (-9223372036854775808) (unit.hp.toInt - loss.toInt) := by
  have hhigh := unit.hp.toInt_lt
  rw [Saturating.toInt_sub]
  omega

/-! ## Hits -/

theorem impact_before (rules : Rules) (unit : Bag) (amount : Int64) :
    (impact rules unit amount).before = unit.hp := rfl

theorem impact_after (rules : Rules) (unit : Bag) (amount : Int64) :
    (impact rules unit amount).after =
      (healthLeft rules unit ((impact rules unit amount).through amount)).1 := rfl

theorem impact_held (rules : Rules) (unit : Bag) (amount : Int64) :
    (impact rules unit amount).held =
      (healthLeft rules unit ((impact rules unit amount).through amount)).2 := rfl

theorem toInt_through (rules : Rules) (unit : Bag) (h : ¬amount ≤ 0) :
    ((impact rules unit amount).through amount).toInt =
      amount.toInt - min (max (unit.int Stat.shield).toInt 0) amount.toInt := by
  rw [Int64.le_iff_toInt_le, Int64.toInt_zero] at h
  have hhigh := amount.toInt_lt
  have habsorbed : (impact rules unit amount).absorbed.toInt =
      min (max (unit.int Stat.shield).toInt 0) amount.toInt := by
    simp only [impact, Saturating.toInt_min, Saturating.toInt_max, Int64.toInt_zero]
  rw [Impact.through, Saturating.toInt_sub_of_fits (by omega) (by omega), habsorbed]

theorem through_nonneg (rules : Rules) (unit : Bag) (h : ¬amount ≤ 0) :
    0 ≤ ((impact rules unit amount).through amount).toInt := by
  have hthrough := toInt_through rules unit h
  omega

theorem impact_after_nonneg (rules : Rules) (unit : Bag) (amount : Int64) :
    0 ≤ (impact rules unit amount).after.toInt := by
  rw [impact_after, toInt_healthLeft]
  omega

/-- A hit does not raise health, unless it was below zero. -/
theorem impact_after_le (rules : Rules) (unit : Bag) (h : ¬amount ≤ 0) :
    (impact rules unit amount).after.toInt ≤ max unit.hp.toInt 0 := by
  have hthrough := through_nonneg rules unit h
  have hlow := unit.hp.le_toInt
  rw [impact_after, toInt_healthLeft, toInt_sub_hp hthrough]
  split <;> omega

/-- The amount that is recorded of a hit is the health that is gone. -/
theorem toInt_dealt (rules : Rules) (unit : Bag) (h : ¬amount ≤ 0) :
    ((impact rules unit amount).before - (impact rules unit amount).after).toInt =
      unit.hp.toInt - (impact rules unit amount).after.toInt := by
  have hnonneg := impact_after_nonneg rules unit amount
  have hle := impact_after_le rules unit h
  have hlow := unit.hp.le_toInt
  have hhigh := unit.hp.toInt_lt
  rw [impact_before]
  exact Saturating.toInt_sub_of_fits (by omega) (by omega)

/-- A hit on a unit that has no shield and is not undying takes its amount, or all that there is. -/
theorem toInt_impact_after_of_bare (rules : Rules) (hshield : (unit.int Stat.shield).toInt ≤ 0)
    (hundying : unit.isActive Stat.undyingTurns = false) (h : ¬amount ≤ 0) :
    (impact rules unit amount).after.toInt = max (unit.hp.toInt - amount.toInt) 0 := by
  have hthrough := toInt_through rules unit h
  have hnonneg := through_nonneg rules unit h
  have hheld : ¬(impact rules unit amount).held = true := by
    rw [impact_held, healthLeft_held_iff, hundying]
    exact fun hheld => Bool.false_ne_true hheld.1
  rw [impact_after, toInt_healthLeft, ← impact_held, if_neg hheld, toInt_sub_hp hnonneg]
  rw [Int64.le_iff_toInt_le, Int64.toInt_zero] at h
  omega

/-- A hit would bring the health of a unit to zero or below. -/
def WouldKill (unit : Bag) (amount : Int64) : Prop :=
  unit.hp.toInt - (amount.toInt - min (max (unit.int Stat.shield).toInt 0) amount.toInt) ≤ 0

instance (unit : Bag) (amount : Int64) : Decidable (WouldKill unit amount) :=
  inferInstanceAs (Decidable (_ ≤ _))

section Undying

variable (hfloor : 1 ≤ rules.undyingFloor.toInt) (hhp : 1 ≤ unit.hp.toInt)

include hfloor hhp

/-- The floor holds an undying unit exactly when a hit would kill it. -/
theorem held_iff_wouldKill (hundying : unit.isActive Stat.undyingTurns = true)
    (h : ¬amount ≤ 0) : (impact rules unit amount).held = true ↔ WouldKill unit amount := by
  have hthrough := through_nonneg rules unit h
  rw [impact_held, healthLeft_held_iff, toInt_sub_hp hthrough, WouldKill,
    ← toInt_through rules unit h]
  constructor
  · rintro ⟨-, hbelow⟩
    omega
  · intro hkill
    exact ⟨hundying, by omega⟩

/-- The floor leaves a unit at the floor, or at what there was if that is less. -/
theorem impact_after_of_held (hheld : (impact rules unit amount).held = true) :
    (impact rules unit amount).after = min rules.undyingFloor unit.hp := by
  refine Int64.toInt_inj.1 ?_
  rw [impact_after, toInt_healthLeft, ← impact_held, if_pos hheld, Saturating.toInt_min]
  omega

theorem one_le_impact_after (hundying : unit.isActive Stat.undyingTurns = true)
    (h : ¬amount ≤ 0) : 1 ≤ (impact rules unit amount).after.toInt := by
  -- Either the floor holds, and it is at least one, or the hit was not deadly in the first place.
  by_cases hheld : (impact rules unit amount).held = true
  · rw [impact_after_of_held hfloor hhp hheld, Saturating.toInt_min]
    omega
  · have hthrough := through_nonneg rules unit h
    have hsafe : ¬WouldKill unit amount := mt (held_iff_wouldKill hfloor hhp hundying h).2 hheld
    rw [WouldKill, ← toInt_through rules unit h] at hsafe
    rw [impact_after, toInt_healthLeft, ← impact_held, if_neg hheld, toInt_sub_hp hthrough]
    omega

end Undying

/-! ## Heals -/

/-- A heal has an amount, is for the living, and stops at the greatest health or at what there was
if that is more. -/
theorem eq_of_healedTo? (h : healedTo? unit amount = some after) :
    0 < amount.toInt ∧ 0 < unit.hp.toInt ∧
      after = if unit.contains Stat.maxHp = true then
        min (Saturating.add unit.hp amount) (max unit.maxHp unit.hp)
      else Saturating.add unit.hp amount := by
  rw [healedTo?] at h
  split at h
  · cases h
  · next hdoes =>
    split at h
    · cases h
    · obtain ⟨hamount, halive⟩ := not_or.1 hdoes
      simp only [Bag.isAlive, Bool.not_eq_true', Bool.not_eq_false, decide_eq_true_eq,
        Int64.lt_iff_toInt_lt, Int64.toInt_zero] at halive
      rw [Int64.le_iff_toInt_le, Int64.toInt_zero] at hamount
      exact ⟨by omega, halive, (Option.some.inj h).symm⟩

theorem le_of_healedTo? (h : healedTo? unit amount = some after) :
    unit.hp.toInt ≤ after.toInt := by
  obtain ⟨hamount, hhp, rfl⟩ := eq_of_healedTo? h
  have hadd := Saturating.toInt_add unit.hp amount
  have hhigh := unit.hp.toInt_lt
  split
  · rw [Saturating.toInt_min, Saturating.toInt_max]
    omega
  · omega

theorem healedTo?_le (h : healedTo? unit amount = some after)
    (hbounded : unit.contains Stat.maxHp = true) :
    after.toInt ≤ max unit.maxHp.toInt unit.hp.toInt := by
  obtain ⟨-, -, rfl⟩ := eq_of_healedTo? h
  rw [if_pos hbounded, Saturating.toInt_min, Saturating.toInt_max]
  omega

/-- The amount that is recorded of a heal is the health that is won. -/
theorem toInt_restored (h : healedTo? unit amount = some after) :
    (after - unit.hp).toInt = after.toInt - unit.hp.toInt := by
  have hhp := (eq_of_healedTo? h).2.1
  have hle := le_of_healedTo? h
  have hhigh := after.toInt_lt
  exact Saturating.toInt_sub_of_fits (by omega) (by omega)

end Skirmish.Combat
