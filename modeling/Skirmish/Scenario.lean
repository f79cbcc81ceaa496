import Skirmish.LoadError
import Skirmish.Role

/-!
# Scenarios

A scenario tells how a battle begins: the grid, the seed, the state of the battle as a whole, and
where units of which roles stand. Units are placed one after the other; the first that cannot be
placed is told.
-/

namespace Skirmish

/-- Where a unit begins, and what it has beyond its role. -/
structure Placement where
  id : String
  role : String
  position : Coord
  vars : NameMap Value := .empty
  tags : List String := []

def Placement.spawn (p : Placement) (r : Role) : Bag :=
  (r.spawn p.position).withAll p.vars.entries p.tags

/-- How a battle begins. -/
structure ScenarioSource where
  width : UInt32
  height : UInt32
  seed : UInt64 := 0
  /-- The files of the roles. -/
  roles : List String := []
  units : List Placement := []
  globalVars : NameMap Value := .empty
  globalTags : List String := []

/-- A world at the beginning of a battle, and the roles of its units. -/
structure Scenario where
  world : World
  roles : List Role

namespace Scenario

/-- Puts a unit where it begins. -/
def place (roles : List Role) (w : World) (p : Placement) : Except LoadError World :=
  if !w.inBounds p.position then throw (.world (.outOfBounds p.id p.position))
  else if w.hasUnit p.id then throw (.world (.duplicateUnit p.id))
  else
    match roles.find? fun r => r.id == p.role with
    | some r => pure (w.putUnit p.id (p.spawn r))
    | none => throw (.unknownRole p.id p.role)

/-- The scenario that a source describes, with roles at hand. -/
def build (s : ScenarioSource) (roles : List Role) : Except LoadError Scenario := do
  let w ← (World.new s.width s.height s.seed).mapError .world
  let w := w.updateGlobal fun g => g.withAll s.globalVars.entries s.globalTags
  return { world := ← s.units.foldlM (place roles) w, roles }

end Scenario

end Skirmish
