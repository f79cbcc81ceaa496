import Skirmish.Action.Batch
import Skirmish.Proofs.Combat.Evasion
import Skirmish.Proofs.Combat.Hit

/-!
# What combat reads of a unit

The steps of combat look at a unit through a few variables and tags. Units that agree on them are
struck, healed and mitigated alike; agreement on the variables of a footprint is enough for every
step that has this footprint.
-/

namespace Skirmish.Combat

/-- Units that damage and healing treat alike. -/
structure SameHealth (b c : Bag) : Prop where
  vars : ∀ name ∈ [Stat.hp, Stat.maxHp, Stat.shield, Stat.undyingTurns, Stat.noHealTurns,
    Stat.onDamageHeal, Stat.onDamageHealTurns, Stat.hpThreshold, Stat.thresholdSkill],
    b.get? name = c.get? name
  fired : ∀ skill, b.hasTag (Stat.thresholdFired skill) = c.hasTag (Stat.thresholdFired skill)

/-- Units that attack alike. -/
structure SameAttacker (b c : Bag) : Prop where
  vars : ∀ name ∈ [Stat.attack, Stat.magicAttack, Stat.forceIgnoreDefenceTurns,
    Stat.executePercent, Stat.counterMultiplier], b.get? name = c.get? name
  duel : b.hasTag Stat.duel = c.hasTag Stat.duel

/-- Units that defend alike. -/
structure SameDefender (b c : Bag) : Prop extends SameHealth b c where
  defences : ∀ name ∈ [Stat.defence, Stat.magicDefence, Stat.resistPhysical, Stat.resistMagic,
    Stat.damageReduction, Stat.damageReductionTurns, Stat.evasion, Stat.evasionBonus,
    Stat.evasionBonusTurns, Stat.evadeCharges, Stat.evadeRolls, Stat.untargetableTurns],
    b.get? name = c.get? name
  duel : b.hasTag Stat.duel = c.hasTag Stat.duel

variable {b c : Bag}

/-! ## Health -/

theorem hp_congr (h : SameHealth b c) : b.hp = c.hp :=
  Bag.int_congr (h.vars Stat.hp (by simp))

theorem maxHp_congr (h : SameHealth b c) : b.maxHp = c.maxHp :=
  Bag.int_congr (h.vars Stat.maxHp (by simp))

theorem healedTo?_congr (h : SameHealth b c) (amount : Int64) :
    healedTo? b amount = healedTo? c amount := by
  have halive : b.isAlive = c.isAlive := by rw [Bag.isAlive, Bag.isAlive, hp_congr h]
  have hblock := Bag.isActive_congr (h.vars Stat.noHealTurns (by simp))
  have hbounded := Bag.contains_congr (h.vars Stat.maxHp (by simp))
  rw [healedTo?, healedTo?, halive, hblock, hbounded, hp_congr h, maxHp_congr h]

theorem impact_congr (rules : Rules) (h : SameHealth b c) (amount : Int64) :
    impact rules b amount = impact rules c amount := by
  have hshield := Bag.int_congr (h.vars Stat.shield (by simp))
  have hundying := Bag.isActive_congr (h.vars Stat.undyingTurns (by simp))
  have hleft : healthLeft rules b = healthLeft rules c := by
    funext loss
    rw [healthLeft, healthLeft, hp_congr h, hundying]
  rw [impact, impact, hshield, hleft, hp_congr h]

theorem triggered?_congr (h : SameHealth b c) (before after : Int64) :
    triggered? b before after = triggered? c before after := by
  have hskill := Bag.text_congr (h.vars Stat.thresholdSkill (by simp))
  have hfraction := Bag.float_congr (h.vars Stat.hpThreshold (by simp))
  rw [triggered?, triggered?, hskill, h.fired, maxHp_congr h, hfraction]

/-! ## Evasion -/

theorem isUntargetable_congr (h : SameDefender b c) : b.isUntargetable = c.isUntargetable :=
  Bag.isActive_congr (h.defences Stat.untargetableTurns (by simp))

theorem evasionChance_congr (rules : Rules) (h : SameDefender b c) :
    evasionChance rules b = evasionChance rules c := by
  have hevasion := Bag.float_congr (h.defences Stat.evasion (by simp))
  have hbonus := Bag.float_congr (h.defences Stat.evasionBonus (by simp))
  have hturns := Bag.isActive_congr (h.defences Stat.evasionBonusTurns (by simp))
  rw [evasionChance, evasionChance, hevasion, hbonus, hturns]

theorem evasionSeed_congr {v w : World} (halike : v.Alike w) (id : String)
    (h : SameDefender b c) : evasionSeed v id b = evasionSeed w id c := by
  have hrolls := Bag.int_congr (h.defences Stat.evadeRolls (by simp))
  rw [evasionSeed, evasionSeed, hrolls, halike.seed, halike.turn]

theorem evasionOf_congr (rules : Rules) (h : SameDefender b c) (seed : UInt64) :
    evasionOf rules b seed = evasionOf rules c seed := by
  have hcharges := Bag.int_congr (h.defences Stat.evadeCharges (by simp))
  rw [evasionOf, evasionOf, hcharges, evasionChance_congr rules h]

theorem evasionEdits_congr (rules : Rules) (id : String) (h : SameDefender b c)
    (evasion : Evasion) : evasionEdits rules id b evasion = evasionEdits rules id c evasion := by
  have hcharges := Bag.int_congr (h.defences Stat.evadeCharges (by simp))
  have hrolls : nextEvadeRolls b = nextEvadeRolls c := by
    rw [nextEvadeRolls, nextEvadeRolls, h.defences Stat.evadeRolls (by simp)]
  cases evasion with
  | hit => rw [evasionEdits, evasionEdits, evasionChance_congr rules h, hrolls]
  | guaranteed => rw [evasionEdits, evasionEdits, hcharges]
  | rolled => rw [evasionEdits, evasionEdits, hrolls]

/-! ## Mitigation -/

variable {a a' : Bag}

theorem strength_congr (ha : SameAttacker a a') (kind : DamageKind) :
    strength a kind = strength a' kind := by
  have hattack := Bag.int_congr (ha.vars Stat.attack (by simp))
  have hmagic := Bag.int_congr (ha.vars Stat.magicAttack (by simp))
  have hwields := Bag.contains_congr (ha.vars Stat.magicAttack (by simp))
  cases kind with
  | magic =>
    rw [strength, strength, hwields]
    split
    · exact hmagic
    · exact hattack
  | _ => exact hattack

theorem defence_congr (h : SameDefender b c) (kind : DamageKind) :
    defence b kind = defence c kind := by
  cases kind with
  | magic => exact Bag.int_congr (h.defences Stat.magicDefence (by simp))
  | _ => exact Bag.int_congr (h.defences Stat.defence (by simp))

theorem resistance_congr (h : SameDefender b c) (kind : DamageKind) :
    resistance b kind = resistance c kind := by
  cases kind with
  | physical => exact Bag.float_congr (h.defences Stat.resistPhysical (by simp))
  | magic => exact Bag.float_congr (h.defences Stat.resistMagic (by simp))
  | true => rfl

theorem isExecuted_congr (ha : SameAttacker a a') (h : SameHealth b c) :
    isExecuted a b = isExecuted a' c := by
  have hpercent := Bag.float_congr (ha.vars Stat.executePercent (by simp))
  rw [isExecuted, isExecuted, hpercent, hp_congr h, maxHp_congr h]

/-- Mitigation weighs the attacker and the defender through these variables and no others. -/
theorem mitigate_congr (rules : Rules) (ha : SameAttacker a a') (h : SameDefender b c)
    (attack : Attack) : mitigate rules a b attack = mitigate rules a' c attack := by
  have hforced := Bag.isActive_congr (ha.vars Stat.forceIgnoreDefenceTurns (by simp))
  have hcounter := Bag.float_congr (ha.vars Stat.counterMultiplier (by simp))
  have hturns := Bag.isActive_congr (h.defences Stat.damageReductionTurns (by simp))
  have hreduction := Bag.float_congr (h.defences Stat.damageReduction (by simp))
  rw [mitigate, mitigate, hforced, isExecuted_congr ha h.toSameHealth, strength_congr ha,
    defence_congr h, resistance_congr h, hturns, hreduction, hcounter, ha.duel, h.duel]

end Skirmish.Combat
