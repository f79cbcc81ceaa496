import Skirmish.Combat.Attack
import Skirmish.Proofs.State.Edit

/-!
# Evasion as edits

How an evasion check ends and what it changes is fixed by the defender, the seed of its roll and
the rules: `evasionOf` says how it ends, `evasionEdits` what it changes. An attack is evaded by such
edits or goes on from them (`outcome_attack`).
-/

namespace Skirmish.Combat

/-- The number of evasion rolls after one more. -/
def nextEvadeRolls (unit : Bag) : Value :=
  ((unit.get? Stat.evadeRolls).getD (.int 0)).add (.int 1)

/-- How the check of a unit ends whose roll has the given seed. -/
def evasionOf (rules : Rules) (unit : Bag) (seed : UInt64) : Evasion :=
  if 0 < unit.int Stat.evadeCharges then .guaranteed
  else if evasionChance rules unit ≤ 0.0 then .hit
  else if Roll.fraction seed < evasionChance rules unit then .rolled
  else .hit

/-- What a check changes: a charge is spent or a roll is drawn, and who evades gets a counter. -/
def evasionEdits (rules : Rules) (id : String) (unit : Bag) : Evasion → List Edit
  | .guaranteed =>
    [.set (.unit id) Stat.evadeCharges (.int (unit.int Stat.evadeCharges - 1)),
      .set (.unit id) Stat.counterMultiplier (.float rules.counterMultiplier)]
  | .rolled =>
    [.set (.unit id) Stat.evadeRolls (nextEvadeRolls unit),
      .set (.unit id) Stat.counterMultiplier (.float rules.counterMultiplier)]
  | .hit =>
    if evasionChance rules unit ≤ 0.0 then []
    else [.set (.unit id) Stat.evadeRolls (nextEvadeRolls unit)]

/-- The variables in which evasion and counters count. -/
def counters : List String := [Stat.evadeCharges, Stat.evadeRolls, Stat.counterMultiplier]

def evasionTrace (attacker defender : String) (evasion : Evasion) : List TraceEvent :=
  if evasion.evaded then [.evaded attacker defender] else []

theorem location_of_mem_evasionEdits {rules : Rules} {id : String} {unit : Bag}
    {evasion : Evasion} {e : Edit}
    (h : e ∈ evasionEdits rules id unit evasion) :
    ∃ name ∈ counters, e.location = .var (.unit id) name := by
  cases evasion with
  | hit =>
    rw [evasionEdits] at h
    split at h
    · exact absurd h List.not_mem_nil
    · rw [List.mem_singleton.1 h]
      exact ⟨Stat.evadeRolls, by simp [counters], rfl⟩
  | guaranteed =>
    simp only [evasionEdits, List.mem_cons, List.not_mem_nil, or_false] at h
    rcases h with rfl | rfl
    · exact ⟨Stat.evadeCharges, by simp [counters], rfl⟩
    · exact ⟨Stat.counterMultiplier, by simp [counters], rfl⟩
  | rolled =>
    simp only [evasionEdits, List.mem_cons, List.not_mem_nil, or_false] at h
    rcases h with rfl | rfl
    · exact ⟨Stat.evadeRolls, by simp [counters], rfl⟩
    · exact ⟨Stat.counterMultiplier, by simp [counters], rfl⟩

section

variable {w : World} {id : String}

theorem updateUnit_set_set (name name' : String) (value value' : Value) :
    w.updateUnit id (fun unit => (unit.set name value).set name' value') =
      Edit.run [.set (.unit id) name value, .set (.unit id) name' value'] w :=
  (Edit.apply_update (.set (.unit id) name' value') w (·.set name value)).symm

theorem updateUnit_rolled {unit : Bag} (h : w.unit? id = some unit) (f : Bag → Bag) :
    w.updateUnit id (fun unit' => f (unit'.addTo Stat.evadeRolls (.int 1))) =
      w.updateUnit id fun unit' => f (unit'.set Stat.evadeRolls (nextEvadeRolls unit)) :=
  World.update_congr (p := .unit id) h rfl

end

theorem checkEvasion_eq {rules : Rules} {w : World} {defender : String} {unit : Bag}
    (h : w.unit? defender = some unit) (attacker : String) :
    let evasion := evasionOf rules unit (evasionSeed w defender unit)
    checkEvasion rules w attacker defender =
      (⟨Edit.run (evasionEdits rules defender unit evasion) w,
        evasionTrace attacker defender evasion⟩, evasion) := by
  simp only [checkEvasion, h, evasionOf]
  by_cases hcharges : 0 < unit.int Stat.evadeCharges
  · simp only [if_pos hcharges]
    rw [evasionEdits, ← updateUnit_set_set]
    rfl
  · simp only [if_neg hcharges]
    by_cases hchance : evasionChance rules unit ≤ 0.0
    · simp only [if_pos hchance]
      rw [evasionEdits, if_pos hchance]
      rfl
    · simp only [if_neg hchance]
      by_cases hroll : Roll.fraction (evasionSeed w defender unit) < evasionChance rules unit
      · simp only [if_pos hroll]
        rw [evasionEdits, ← updateUnit_set_set, ← updateUnit_rolled h
          (·.set Stat.counterMultiplier (.float rules.counterMultiplier))]
        rfl
      · simp only [if_neg hroll]
        rw [evasionEdits, if_neg hchance]
        exact congrArg (fun w' => ((⟨w', []⟩ : Outcome), Evasion.hit))
          (updateUnit_rolled h fun unit => unit)

theorem outcome_attack_of_no_defender {w : World} {defender : String}
    (h : w.unit? defender = none) (rules : Rules) (attacker : String) (a : Attack) :
    (attack rules w attacker defender a).outcome = ⟨w, []⟩ := by
  rw [attack, h]
  rfl

/-- All ways in which an attack on a unit can end. -/
theorem outcome_attack {w : World} {defender : String} {unit : Bag}
    (h : w.unit? defender = some unit) (rules : Rules) (attacker : String) (a : Attack) :
    let evasion := evasionOf rules unit (evasionSeed w defender unit)
    let checked : Outcome := ⟨Edit.run (evasionEdits rules defender unit evasion) w,
      evasionTrace attacker defender evasion⟩
    (attack rules w attacker defender a).outcome =
      if a.kind = .true then (damage rules w defender a.power).outcome
      else if unit.isUntargetable ∨ !w.hasUnit attacker then ⟨w, []⟩
      else if evasion.evaded then checked
      else checked.andThen fun w => (land rules w attacker defender a).outcome := by
  intro evasion checked
  have hcheck : checkEvasion rules w attacker defender = (checked, evasion) :=
    checkEvasion_eq h attacker
  simp only [attack, h, hcheck]
  by_cases htrue : a.kind = .true
  · simp only [if_pos htrue]
  by_cases haway : unit.isUntargetable = true
  · simp only [if_neg htrue, if_pos haway, if_pos (Or.inl haway)]
    rfl
  by_cases hmissing : (!w.hasUnit attacker) = true
  · simp only [if_neg htrue, if_neg haway, if_pos hmissing, if_pos (Or.inr hmissing)]
    rfl
  simp only [if_neg htrue, if_neg haway, if_neg hmissing, if_neg (not_or.2 ⟨haway, hmissing⟩)]
  by_cases hevaded : evasion.evaded = true
  · simp only [if_pos hevaded]
  · simp only [if_neg hevaded]
    rfl

end Skirmish.Combat
