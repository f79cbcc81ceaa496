/-!
# Names the rules know

Variables and tags have free names. These are the names that combat and upkeep read and write.
-/

namespace Skirmish.Stat

/-! ## Units -/

abbrev hp := "Hp"
abbrev maxHp := "MaxHp"
abbrev mp := "Mp"
abbrev maxMp := "MaxMp"
abbrev attack := "Atk"
abbrev defence := "Def"
abbrev magicAttack := "MAtk"
abbrev magicDefence := "MDef"
abbrev position := "Pos"
abbrev team := "Team"
abbrev role := "Role"
abbrev shield := "Shield"
abbrev hpRegen := "hp_regen"
abbrev mpRegen := "mp_regen"

/-! ## Combat -/

/-- The beginning of the name of every resistance. -/
abbrev resist := "resist"
abbrev resistPhysical := "resist_physical"
abbrev resistMagic := "resist_magic"
abbrev evasion := "evasion"
/-- How many hits are still sure to be evaded. -/
abbrev evadeCharges := "evade_charges"
abbrev evasionBonus := "temp_evasion_bonus"
/-- The multiplier of the next hit of a unit that has evaded one. -/
abbrev counterMultiplier := "counter_multiplier"
/-- How many evasion rolls a unit has drawn. -/
abbrev evadeRolls := "evade_rolls"
/-- The percentage of its full health at which a target's defence is ignored. -/
abbrev executePercent := "ignore_def_below_hp_pct"
abbrev damageReduction := "damage_reduction"
abbrev onDamageHeal := "on_damage_heal"
abbrev hpThreshold := "hp_threshold"
abbrev thresholdSkill := "threshold_skill_id"
abbrev duel := "duel"

/-- The beginning of the tags that mark a threshold as triggered. -/
abbrev thresholdFiredFamily := "threshold_fired:"

/-- The tag that marks the threshold of a skill as triggered. -/
def thresholdFired (skill : String) : String := thresholdFiredFamily ++ skill

/-! ## Damage over time -/

abbrev bleedTurns := "bleed_turns"
abbrev bleedPerTurn := "bleed_per_turn"
abbrev bleeding := "bleeding"
abbrev burnTurns := "burn_turns"
abbrev burnPerTurn := "burn_per_turn"
abbrev burning := "burning"

/-! ## Changes per turn and cooldowns -/

/-- The beginning of the name of a change that is applied once per turn. -/
abbrev perTurn := "per_turn_"

/-- The variable that caps the changes per turn of another one. -/
def capOf (name : String) : String := "max_" ++ name

/-- The variable that holds the first turn at which a skill is ready again. -/
def cooldownUntil (skill : String) : String := "cooldown_until:" ++ skill

/-! ## Global toggles -/

abbrev reverseHealTurns := "reverse_heal_turns"
abbrev reverseDamageTurns := "reverse_damage_turns"
abbrev reverseHeal := "reverse_heal"
abbrev reverseDamage := "reverse_damage"

/-! ## Timed statuses -/

abbrev undyingTurns := "undying_turns"
abbrev stunnedTurns := "stunned_turns"
abbrev silencedTurns := "silenced_turns"
abbrev rootedTurns := "rooted_turns"
abbrev untargetableTurns := "untargetable_turns"
abbrev cannotActTurns := "cannot_act_turns"
abbrev statusImmuneTurns := "status_immune_turns"
abbrev noHealTurns := "no_heal_turns"
abbrev evasionBonusTurns := "temp_evasion_bonus_turns"
abbrev forceIgnoreDefenceTurns := "force_ignore_def_turns"
abbrev damageReductionTurns := "damage_reduction_turns"
abbrev onDamageHealTurns := "on_damage_heal_turns"

/-- A status that lasts as long as its counter of turns is positive. -/
structure TimedStatus where
  counter : String
  tag : String
  /-- A value that ends with the status. -/
  companion? : Option String := none
  deriving DecidableEq

/-- The timed statuses in the order in which upkeep counts them down. -/
def timedStatuses : List TimedStatus :=
  [ { counter := undyingTurns, tag := "undying" },
    { counter := stunnedTurns, tag := "stunned" },
    { counter := silencedTurns, tag := "silenced" },
    { counter := rootedTurns, tag := "rooted" },
    { counter := untargetableTurns, tag := "untargetable" },
    { counter := cannotActTurns, tag := "cannot_act" },
    { counter := statusImmuneTurns, tag := "status_immune" },
    { counter := noHealTurns, tag := "no_heal" },
    { counter := evasionBonusTurns, tag := "temp_evasion_bonus", companion? := some evasionBonus },
    { counter := forceIgnoreDefenceTurns, tag := "force_ignore_def" },
    { counter := damageReductionTurns, tag := "damage_reduction",
      companion? := some damageReduction },
    { counter := onDamageHealTurns, tag := "on_damage_heal", companion? := some onDamageHeal } ]

end Skirmish.Stat
