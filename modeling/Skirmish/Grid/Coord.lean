/-!
# Places on the plane

A place has a column and a row; rows count upwards, so north adds one to the row.
-/

namespace Skirmish

/-- A place, by column and row. -/
structure Coord where
  x : Int32
  y : Int32
  deriving DecidableEq, Inhabited

namespace Coord

def origin : Coord := ⟨0, 0⟩

/-- The place some columns and rows away. -/
def shift (c : Coord) (step : Int × Int) : Coord :=
  ⟨.ofInt (c.x.toInt + step.1), .ofInt (c.y.toInt + step.2)⟩

/-- The columns and rows from one place to another. -/
def difference (start goal : Coord) : Int × Int :=
  (goal.x.toInt - start.x.toInt, goal.y.toInt - start.y.toInt)

/-- The king's step that leads from one place towards another, zero on an axis already level. -/
def stepTowards (start goal : Coord) : Int × Int :=
  let (dx, dy) := start.difference goal
  (dx.sign, dy.sign)

def text (c : Coord) : String :=
  s!"({c.x.toInt}, {c.y.toInt})"

end Coord

end Skirmish
