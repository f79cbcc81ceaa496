import Skirmish.Grid.Shape
import Skirmish.Script.Eval

/-!
# Selection

A selector picks units of a world: those of its pool that are alive and can be targeted and pass all
its restrictions, by id or by distance, up to its limit.
-/

namespace Skirmish.Script

/-- The direction of an area: the one given, or from the caster to the target. -/
def facing? (w : World) (b : Bindings) (origin : Option Coord) (dir : Option Direction) :
    Option Direction :=
  match dir with
  | some d => some d
  | none => do Direction.bearing? (← origin) (← b.position? w .target)

/-- The shape of an area; none if it has no direction. -/
def Area.shape? (w : World) (b : Bindings) (origin : Option Coord) : Area → Option Shape
  | line length dir width =>
    (facing? w b origin dir).map fun d =>
      let width := max ((width.map fun e => (e.eval w b).asInt).getD 1) 1
      .line d (length.eval w b).asInt ((width - 1) / 2)
  | cone radius angle dir =>
    (facing? w b origin dir).map fun d =>
      .cone d (radius.eval w b).asInt
        ((angle.map fun e => (e.eval w b).asFloat).getD Shape.defaultAngle)

/-- Whether a unit is in a pool. -/
def Pool.includes (pool : Pool) (caster team : String) (id : String) (unit : Bag) : Bool :=
  match pool with
  | units => true
  | enemies => unit.team != team
  | allies => unit.team == team && id != caster

/-- Whether a place passes a restriction that needs another place; nothing passes without it. -/
def passes {α : Type} (restriction : Option α) (anchor : Option Coord)
    (test : α → Coord → Bool) : Bool :=
  match restriction, anchor with
  | some r, some p => test r p
  | some _, none => false
  | none, _ => true

/-- Sorts by a distance; units at the same distance keep their order. -/
def Order.sort {α : Type} (order : Order) (distance : α → Float) (l : List α) : List α :=
  match order with
  | nearest => l.mergeSort fun a b => distance a ≤ distance b
  | farthest => l.mergeSort fun a b => distance b ≤ distance a

/-- The units that a selector picks. -/
def Selector.pick (s : Selector) (w : World) (b : Bindings) : List String :=
  let caster := w.unit? b.caster
  let team := (caster.map Bag.team).getD ""
  let origin := caster.map Bag.position
  let anchor :=
    match s.anchor with
    | some ref => b.position? w ref
    | none => origin
  let range := s.range.map fun e => (e.node.eval w b).asInt
  let shape := s.area.map fun a => a.node.shape? w b origin
  let accepts (u : String × Bag) : Bool :=
    u.2.isAlive && !u.2.isUntargetable && s.pool.includes b.caster team u.1 u.2 &&
      s.withTags.all u.2.hasTag &&
      passes range anchor (fun r p => b.metric.within p u.2.position r) &&
      passes shape origin fun shape p => shape.any fun shape => shape.covers p u.2.position
  let picked := w.units.entries.filter accepts
  let sorted :=
    match s.order, anchor with
    | some order, some p =>
      order.sort (fun u : String × Bag => b.metric.distance p u.2.position) picked
    | _, _ => picked
  let limited :=
    match s.limit with
    | some e => sorted.take (e.node.eval w b).asInt.toInt.toNat
    | none => sorted
  limited.map Prod.fst

end Skirmish.Script
