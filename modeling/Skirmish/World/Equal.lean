import Skirmish.World

/-!
# Comparing worlds

Hosts compare worlds part by part. Words, truth values, texts and places are equal if they are the
same, but doubles are compared as numbers: the two zeros are equal, and what is not a number differs
even from itself.
-/

namespace Skirmish

/-- Whether two values are equal. Values of different kinds never are. -/
def Value.equal : Value → Value → Bool
  | int n, int m => n == m
  | float x, float y => x == y
  | bool b, bool c => b == c
  | text s, text t => s == t
  | coord p, coord q => p == q
  | _, _ => false

/-- Whether two bags have the same names with equal values, and the same tags. -/
def Bag.equal (b c : Bag) : Bool :=
  b.vars.entries.isEqv c.vars.entries (fun v w => v.1 == w.1 && v.2.equal w.2) && b.tags == c.tags

/-- Whether two grids have the same size and equal tiles. -/
def TileGrid.equal (g h : TileGrid) : Bool :=
  g.width == h.width && g.height == h.height && g.cells.toList.isEqv h.cells.toList Bag.equal

/-- Whether two worlds are equal in all their parts. -/
def World.equal (v w : World) : Bool :=
  v.turn == w.turn && v.seed == w.seed && v.rolls == w.rolls && v.global.equal w.global &&
    v.tiles.equal w.tiles &&
    v.units.entries.isEqv w.units.entries fun u t => u.1 == t.1 && u.2.equal t.2

end Skirmish
