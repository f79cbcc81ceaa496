import Skirmish.Grid.Direction
import Skirmish.Number.Binary
import Skirmish.Number.Saturating

/-!
# Areas

A line or a cone cast from a place. A place lies on a line of length `n` and radius `r` if some
step `t` with `1 ≤ t ≤ n` of the line comes within `r` of it on both axes; on each axis the steps
that do form an interval, and the intervals are intersected.
-/

namespace Skirmish

/-- An area cast from a place in a direction. -/
inductive Shape where
  /-- The places `1` to `length` steps away, widened by `radius` on every side. -/
  | line (direction : Direction) (length radius : Int64)
  /-- The places within `radius` whose bearing is within half of `angle` degrees. -/
  | cone (direction : Direction) (radius : Int64) (angle : Float)
  deriving DecidableEq

namespace Shape

/-- The aperture of a cone where none is given, in degrees. -/
def defaultAngle : Float := 90.0

/-- The steps of a line from a first to a last one; there are none if the first is behind the
last. -/
structure Steps where
  first : Int64
  last : Int64

/-- Of the steps of a line, those that come within `radius` of an offset on an axis along which
every step goes equally far; none if the line does not go along the axis and is too far off. Bounds
stop at the ends of the words. -/
def Steps.near? (radius : Int64) (s : Steps) (axis : Int × Int) : Option Steps :=
  let (step, offset) := axis
  if step = 0 then
    if radius.toInt < offset.natAbs then none else some s
  else
    let along := Int64.ofInt (step * offset)
    some ⟨max s.first (Saturating.sub along radius), min s.last (Saturating.add along radius)⟩

/-- Whether a line covers the place at an offset from its origin. -/
def lineCovers (direction : Direction) (length radius : Int64) (offset : Int × Int) : Bool :=
  let axes := [(direction.step.1, offset.1), (direction.step.2, offset.2)]
  (axes.foldlM (Steps.near? (max radius 0)) ⟨1, length⟩).any fun s => s.first ≤ s.last

def radians (degrees : Float) : Float :=
  degrees * (3.141592653589793 / 180.0)

/-- Whether a cone covers the place at an offset from its origin. The angle is compared by its
cosine, with a tolerance. -/
def coneCovers (direction : Direction) (radius : Int64) (angle : Float) (offset : Int × Int) :
    Bool :=
  let vx := Float.ofInt offset.1
  let vy := Float.ofInt offset.2
  let distance := (vx * vx + vy * vy).sqrt
  let dx := Float.ofInt direction.step.1
  let dy := Float.ofInt direction.step.2
  let cosine := (vx * dx + vy * dy) / (distance * (dx * dx + dy * dy).sqrt)
  let half := radians (Number.clamp angle 0.0 360.0 / 2.0)
  !(Number.ofWord radius < distance) && half.cos - 1e-9 ≤ cosine

/-- Whether an area cast from `origin` covers a place. The origin itself is never covered. -/
def covers (s : Shape) (origin p : Coord) : Bool :=
  p ≠ origin &&
    match s with
    | line direction length radius =>
      lineCovers direction length radius (origin.difference p)
    | cone direction radius angle => coneCovers direction radius angle (origin.difference p)

end Shape

end Skirmish
