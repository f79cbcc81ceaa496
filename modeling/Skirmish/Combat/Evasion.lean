import Skirmish.Roll
import Skirmish.Rules
import Skirmish.Trace

/-!
# Evasion

A defender with charges evades for sure and spends one. Otherwise it rolls on a stream of its own
against its chance, if it has any. A defender that evades gets a multiplier for its next hit.
-/

namespace Skirmish.Combat

/-- How an evasion check ended. -/
inductive Evasion where
  /-- The hit goes through. -/
  | hit
  /-- A charge was spent. -/
  | guaranteed
  /-- The roll succeeded. -/
  | rolled
  deriving DecidableEq

def Evasion.evaded : Evasion → Bool
  | hit => false
  | guaranteed | rolled => true

def evasionChance (rules : Rules) (unit : Bag) : Float :=
  let chance := unit.float Stat.evasion
  let chance :=
    if unit.isActive Stat.evasionBonusTurns then chance + unit.float Stat.evasionBonus else chance
  Number.minOf (Number.maxOf chance 0.0) rules.maxEvasion

/-- The seed of the next evasion roll of a unit. -/
def evasionSeed (w : World) (id : String) (unit : Bag) : UInt64 :=
  Roll.seed w.seed w.turn (Roll.stream id) (Saturating.toUInt64 (unit.int Stat.evadeRolls)) .evasion

def checkEvasion (rules : Rules) (w : World) (attacker defender : String) : Outcome × Evasion :=
  match w.unit? defender with
  | none => (⟨w, []⟩, .hit)
  | some unit =>
    let prepare (unit : Bag) : Bag :=
      unit.set Stat.counterMultiplier (.float rules.counterMultiplier)
    let charges := unit.int Stat.evadeCharges
    if 0 < charges then
      let spend (unit : Bag) : Bag := prepare (unit.set Stat.evadeCharges (.int (charges - 1)))
      (⟨w.updateUnit defender spend, [.evaded attacker defender]⟩, .guaranteed)
    else
      let chance := evasionChance rules unit
      if chance ≤ 0.0 then (⟨w, []⟩, .hit)
      else
        let rolled (unit : Bag) : Bag := unit.addTo Stat.evadeRolls (.int 1)
        if Roll.fraction (evasionSeed w defender unit) < chance then
          (⟨w.updateUnit defender (prepare ∘ rolled), [.evaded attacker defender]⟩, .rolled)
        else (⟨w.updateUnit defender rolled, []⟩, .hit)

end Skirmish.Combat
