import Skirmish.Grid.Coord
import Skirmish.Number.Binary

/-!
# Distances

Three ways to measure how far two places are apart. Ranges are compared with the unrounded
distance.
-/

namespace Skirmish

/-- A way to measure distance. -/
inductive Metric where
  /-- The steps along the two axes together. -/
  | manhattan
  /-- The steps of a king. -/
  | chebyshev
  /-- The straight line. -/
  | euclidean
  deriving DecidableEq, Inhabited

namespace Metric

def all : List Metric := [manhattan, chebyshev, euclidean]

def name : Metric → String
  | manhattan => "manhattan"
  | chebyshev => "chebyshev"
  | euclidean => "euclidean"

/-- The metric with a name, in any letter case. -/
def ofName? (s : String) : Option Metric :=
  all.find? fun m => m.name == s.toLower

def distance (m : Metric) (a b : Coord) : Float :=
  let (dx, dy) := a.difference b
  let dx := Float.ofNat dx.natAbs
  let dy := Float.ofNat dy.natAbs
  match m with
  | manhattan => dx + dy
  | chebyshev => if dx < dy then dy else dx
  | euclidean => (dx * dx + dy * dy).sqrt

/-- Whether two places are at most a range apart; a negative range reaches nothing. -/
def within (m : Metric) (a b : Coord) (range : Int64) : Bool :=
  0 ≤ range && m.distance a b ≤ Number.ofWord range

end Metric

end Skirmish
