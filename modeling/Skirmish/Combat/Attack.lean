import Skirmish.Combat.Evasion
import Skirmish.Combat.Hit

/-!
# Attacks

An attack on a unit is evaded, or mitigated and taken as damage. Mitigation adds the power of the
attack and the attacker's strength, subtracts the defence that counts, and scales the rest by
resistance, damage reduction, a pending counter and a duel. True damage skips all that.
-/

namespace Skirmish

/-- Which strength, defence and resistance an attack uses. -/
inductive DamageKind where
  | physical
  | magic
  /-- Cannot be evaded or mitigated. -/
  | true
  deriving DecidableEq, Inhabited

namespace DamageKind

def all : List DamageKind := [physical, magic, .true]

def name : DamageKind → String
  | physical => "physical"
  | magic => "magic"
  | .true => "true"

/-- The kind of damage with a name, in any letter case. -/
def ofName? (s : String) : Option DamageKind :=
  all.find? fun k => k.name == s.toLower

end DamageKind

namespace Combat

/-- The numbers of one attack. -/
structure Attack where
  kind : DamageKind
  power : Int64
  /-- The share of the defence that does not count. -/
  ignoreRatio : Float := 0.0
  deriving DecidableEq

/-- The strength of an attacker; magic falls back on the ordinary strength. -/
def strength (attacker : Bag) : DamageKind → Int64
  | .magic => attacker.int
      (if attacker.contains Stat.magicAttack then Stat.magicAttack else Stat.attack)
  | _ => attacker.int Stat.attack

def defence (defender : Bag) : DamageKind → Int64
  | .magic => defender.int Stat.magicDefence
  | _ => defender.int Stat.defence

def resistance (defender : Bag) : DamageKind → Float
  | .physical => defender.float Stat.resistPhysical
  | .magic => defender.float Stat.resistMagic
  | .true => 0.0

/-- Whether a defender is so weak that the attacker's hits ignore its defence. -/
def isExecuted (attacker defender : Bag) : Bool :=
  let percent := attacker.float Stat.executePercent
  if percent ≤ 0.0 ∨ defender.maxHp ≤ 0 then false
  else Number.ofWord defender.hp * 100.0 ≤ percent * Number.ofWord defender.maxHp

/-- The damage of an attack before health is touched, and what was special about it. -/
def mitigate (rules : Rules) (attacker defender : Bag) (a : Attack) : Int64 × HitFlags :=
  if a.kind = .true then (max a.power 0, {})
  else
    let ignores := attacker.isActive Stat.forceIgnoreDefenceTurns || isExecuted attacker defender
    let counted :=
      if ignores then 0
      else Number.scale (defence defender a.kind) (1.0 - Number.clamp a.ignoreRatio 0.0 1.0)
    let raw := Number.ofWord (max (a.power + strength attacker a.kind - counted) 0)
    let resist := resistance defender a.kind
    let resisted := if 0.0 < resist then raw * (1.0 - rules.clampResist resist) else raw
    let reduced :=
      if defender.isActive Stat.damageReductionTurns then
        resisted * (1.0 - Number.clamp (defender.float Stat.damageReduction) 0.0 1.0)
      else resisted
    let multiplier := attacker.float Stat.counterMultiplier
    let counters : Bool := 0.0 < multiplier
    let countered := if counters then reduced * multiplier else reduced
    let duels := attacker.hasTag Stat.duel && defender.hasTag Stat.duel
    let final := if duels then countered * rules.duelMultiplier else countered
    (max (Number.toWord final) 0,
      { ignoredDefence := ignores, counter := counters, duel := duels })

/-- An attack that was not evaded; a pending counter is spent on it. -/
def land (rules : Rules) (w : World) (attacker defender : String) (a : Attack) : Resolved :=
  match w.unit? attacker, w.unit? defender with
  | some source, some struck =>
    let (amount, flags) := mitigate rules source struck a
    let w :=
      if flags.counter then w.updateUnit attacker (·.unset Stat.counterMultiplier) else w
    routeDamage rules w defender amount flags
  | _, _ => .unchanged w defender {}

def attack (rules : Rules) (w : World) (attacker defender : String) (a : Attack) : Resolved :=
  match w.unit? defender with
  | none => .unchanged w defender {}
  | some target =>
    if a.kind = .true then damage rules w defender a.power
    else if target.isUntargetable then .unchanged w defender { blocked := true }
    else if !w.hasUnit attacker then .unchanged w defender {}
    else
      let (checked, evasion) := checkEvasion rules w attacker defender
      if evasion.evaded then ⟨{ target := defender, flags := { evaded := true } }, checked⟩
      else
        let landed := land rules checked.world attacker defender a
        ⟨landed.report, ⟨landed.outcome.world, checked.trace ++ landed.outcome.trace⟩⟩

end Combat

end Skirmish
