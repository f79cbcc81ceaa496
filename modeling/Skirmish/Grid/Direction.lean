import Skirmish.Grid.Coord

/-!
# Compass points

The eight directions, their steps, and the direction nearest to a way. The angle of a way from east
is a double, and so are the angles at which the nearest direction changes; a way has passed such an
angle when its own angle, rounded, is not below it. So a direction begins half of the last binary
place of a double ahead of that angle, and the ray that stands there decides by one comparison of
whole numbers.
-/

namespace Skirmish

/-- One of the eight compass points. -/
inductive Direction where
  | north | south | east | west | northEast | northWest | southEast | southWest
  deriving DecidableEq

namespace Direction

def all : List Direction :=
  [north, south, east, west, northEast, northWest, southEast, southWest]

def name : Direction → String
  | north => "north"
  | south => "south"
  | east => "east"
  | west => "west"
  | northEast => "north_east"
  | northWest => "north_west"
  | southEast => "south_east"
  | southWest => "south_west"

/-- The compass point with a name, in any letter case. -/
def ofName? (s : String) : Option Direction :=
  all.find? fun d => d.name == s.toLower

/-- The step towards a compass point. -/
def step : Direction → Int × Int
  | north => (0, 1)
  | south => (0, -1)
  | east => (1, 0)
  | west => (-1, 0)
  | northEast => (1, 1)
  | northWest => (-1, 1)
  | southEast => (1, -1)
  | southWest => (-1, -1)

/-- The compass point whose step has the signs of a difference; none for no difference. -/
def ofOffset? (offset : Int × Int) : Option Direction :=
  all.find? fun d => d.step == (offset.1.sign, offset.2.sign)

/-- The directions from east over north to west. -/
def overNorth : List Direction := [east, northEast, north, northWest, west]

/-- The rays at which the nearest direction changes, from east over north to west: each stands half
of a last binary place ahead of the double nearest to `π/8`, `3π/8`, `5π/8` or `7π/8`, and has the
length `10³⁰`. -/
def rays : List (Int × Int) :=
  [(923879532511286772607932639912, 382683432365089731942825356085),
  (382683432365089916728172092215, 923879532511286696067335893993),
  (-382683432365089598443095068653, 923879532511286827905331498117),
  (-923879532511286630148338091930, 382683432365090075870710603995)]

/-- Whether a way to the north has passed a ray; any way is one to the north or mirrors one. -/
def passes (way ray : Int × Int) : Bool := ray.2 * way.1 ≤ ray.1 * way.2.natAbs

/-- The compass point nearest to the way from one place to another; none if they coincide. -/
def bearing? (start goal : Coord) : Option Direction := do
  let way := start.difference goal
  if way = (0, 0) then failure
  let (dx, dy) := step (← overNorth[rays.countP (passes way)]?)
  ofOffset? (dx, dy * way.2.sign)

theorem ofOffset?_step (d : Direction) : ofOffset? d.step = some d := by
  cases d <;> rfl

end Direction

end Skirmish
