import Skirmish.Sha256
import Skirmish.World

/-!
# The digest of a world

A world is written as one list of bytes, numbers with the least byte first and texts with their
length in front, and the list is hashed. Equal worlds have equal bytes.
-/

namespace Skirmish.Digest

/-- The bytes of a number, least significant first. -/
def littleEndian (width n : Nat) : List UInt8 :=
  (List.range width).map fun i => (n >>> (8 * i)).toUInt8

def word (n : UInt64) : List UInt8 := littleEndian 8 n.toNat

def halfWord (n : UInt32) : List UInt8 := littleEndian 4 n.toNat

/-- A text: the number of its bytes, then the bytes. -/
def text (s : String) : List UInt8 :=
  littleEndian 8 s.utf8ByteSize ++ s.toUTF8.toList

def coord (c : Coord) : List UInt8 :=
  halfWord c.x.toUInt32 ++ halfWord c.y.toUInt32

/-- A value: a byte for its kind, then its content. -/
def value : Value → List UInt8
  | .int n => 0 :: word n.toUInt64
  | .float x => 1 :: word x.toBits
  | .bool b => [2, if b then 1 else 0]
  | .text s => 3 :: text s
  | .coord c => 4 :: coord c

/-- A bag: its variables, a byte that separates, its tags. -/
def bag (b : Bag) : List UInt8 :=
  b.vars.entries.flatMap (fun v => text v.1 ++ value v.2) ++ 0xff :: b.tags.toList.flatMap text

/-- The bytes of a world: clock, global bag, size of the grid, tiles that hold something, number of
units, units. -/
def bytes (w : World) : List UInt8 :=
  word w.turn ++ word w.seed ++ word w.rolls ++ bag w.global ++
    halfWord w.tiles.width ++ halfWord w.tiles.height ++
    w.tiles.occupied.flatMap (fun t => coord t.1 ++ bag t.2) ++
    littleEndian 8 w.units.entries.length ++
    w.units.entries.flatMap fun u => text u.1 ++ bag u.2

end Skirmish.Digest

namespace Skirmish

/-- The hash of the bytes of a world. -/
def World.digest (w : World) : List UInt8 := Sha256.hash (Digest.bytes w)

end Skirmish
