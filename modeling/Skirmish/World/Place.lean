import Skirmish.World

/-!
# Where state is kept

A world keeps bags in three kinds of places: with each unit, on each tile, and one for the battle.
-/

namespace Skirmish

/-- A place that holds a bag. -/
inductive Place where
  | unit (id : String)
  | tile (p : Coord)
  | global
  deriving DecidableEq

namespace World

/-- The bag at a place; unknown units and places off the grid have none. -/
def bag? (w : World) : Place → Option Bag
  | .unit id => w.unit? id
  | .tile p => w.tile? p
  | .global => some w.global

/-- The world with the bag at a place changed; where there is none nothing changes. -/
def update (w : World) (f : Bag → Bag) : Place → World
  | .unit id => w.updateUnit id f
  | .tile p => w.updateTile p f
  | .global => w.updateGlobal f

end World

end Skirmish
