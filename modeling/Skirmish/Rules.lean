import Skirmish.Number.Binary

/-!
# Rules of a battle

The numbers that a host may set before a battle.
-/

namespace Skirmish

/-- The tunable numbers of combat. -/
structure Rules where
  /-- The least share of damage that a resistance takes away. -/
  minResist : Float := 0.0
  /-- The greatest share of damage that a resistance takes away. -/
  maxResist : Float := 0.8
  /-- The health at which an undying unit is held. -/
  undyingFloor : Int64 := 1
  /-- What the next hit of a unit that has evaded is multiplied by. -/
  counterMultiplier : Float := 1.5
  /-- What hits between two duellists are multiplied by. -/
  duelMultiplier : Float := 1.5
  /-- The greatest chance to evade. -/
  maxEvasion : Float := 0.95
  deriving DecidableEq, Inhabited

/-- A resistance kept within the caps; the upper one wins if they cross. -/
def Rules.clampResist (r : Rules) (x : Float) : Float :=
  Number.minOf (Number.maxOf x r.minResist) r.maxResist

end Skirmish
