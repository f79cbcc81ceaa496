import Skirmish.Grid.Tiles
import Skirmish.Severity

/-!
# Worlds

A world is a snapshot of a battle: the clock, the global bag, the tiles and the units by id. Every
change gives a new world. A unit put into a world has a health variable from then on.
-/

namespace Skirmish

/-- A snapshot of a battle. -/
structure World where
  /-- The number of turns that have ended. -/
  turn : UInt64
  /-- Fixes all rolls of the battle. -/
  seed : UInt64
  /-- The number of chance rolls drawn. -/
  rolls : UInt64
  global : Bag
  tiles : TileGrid
  units : NameMap Bag
  deriving DecidableEq

/-- Why a world cannot be set up. -/
inductive WorldError where
  | emptyGrid (width height : UInt32)
  | outOfBounds (unit : String) (position : Coord)
  | duplicateUnit (unit : String)
  deriving DecidableEq

namespace WorldError

def code : WorldError → String
  | emptyGrid .. => "WORLD_EMPTY_GRID"
  | outOfBounds .. => "WORLD_OUT_OF_BOUNDS"
  | duplicateUnit .. => "WORLD_DUPLICATE_UNIT"

def severity (_ : WorldError) : Severity := .validation

def message : WorldError → String
  | emptyGrid w h => s!"grid must be non-empty, got {w.toNat}x{h.toNat}"
  | outOfBounds unit p => s!"unit {unit} placed out of bounds at {p.text}"
  | duplicateUnit unit => s!"duplicate unit id {unit}"

end WorldError

namespace World

/-- A world without units on a grid of empty tiles. -/
def new (width height : UInt32) (seed : UInt64) : Except WorldError World :=
  if width = 0 ∨ height = 0 then throw (.emptyGrid width height)
  else
    pure
      { turn := 0, seed, rolls := 0, global := .empty, tiles := .filled width height,
        units := .empty }

def updateGlobal (w : World) (f : Bag → Bag) : World :=
  { w with global := f w.global }

/-! ## Tiles -/

def inBounds (w : World) (p : Coord) : Bool := w.tiles.contains p

def tile? (w : World) (p : Coord) : Option Bag := w.tiles.get? p

/-- The world with a tile replaced; outside the grid nothing changes. -/
def putTile (w : World) (p : Coord) (tile : Bag) : World :=
  { w with tiles := w.tiles.set p tile }

/-- The world with a tile changed; outside the grid nothing changes. -/
def updateTile (w : World) (p : Coord) (f : Bag → Bag) : World :=
  match w.tile? p with
  | some tile => w.putTile p (f tile)
  | none => w

/-! ## Units -/

def unit? (w : World) (id : String) : Option Bag := w.units.get? id

def hasUnit (w : World) (id : String) : Bool := w.units.contains id

/-- The first unit, by id, that stands on a place. -/
def unitAt? (w : World) (p : Coord) : Option String :=
  (w.units.entries.find? fun u => u.2.position == p).map Prod.fst

/-- The world with a unit put in or replaced; without health it gets zero. -/
def putUnit (w : World) (id : String) (unit : Bag) : World :=
  let unit := if unit.contains Stat.hp then unit else unit.set Stat.hp (.int 0)
  { w with units := w.units.insert id unit }

/-- The world with a unit changed; without the unit nothing changes. -/
def updateUnit (w : World) (id : String) (f : Bag → Bag) : World :=
  match w.unit? id with
  | some unit => w.putUnit id (f unit)
  | none => w

def dropUnit (w : World) (id : String) : World :=
  { w with units := w.units.erase id }

end World

end Skirmish
