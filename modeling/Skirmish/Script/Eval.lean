import Skirmish.Roll
import Skirmish.Script.Syntax
import Skirmish.World

/-!
# Evaluation

Expressions and conditions have a value in a world, for a caster and a target. Whatever names
nothing reads as zero. Only a chance changes the world: it draws a roll.
-/

namespace Skirmish

/-- What a skill is aimed at. -/
inductive CastTarget where
  | none
  | unit (id : String)
  | point (p : Coord)
  deriving DecidableEq, Inhabited

namespace Script

/-- Whom and what the names of a script stand for. -/
structure Bindings where
  caster : String
  target : CastTarget
  /-- The unit that the innermost loop is at. -/
  it? : Option String := none
  metric : Metric
  deriving DecidableEq

namespace Bindings

/-- The id of the unit that a name stands for. -/
def unit? (b : Bindings) : Ref → Option String
  | .caster => some b.caster
  | .target =>
    match b.target with
    | .unit id => some id
    | _ => none
  | .it => b.it?
  | .unit id => some id

/-- The place that a name stands for: that of its unit, or the point aimed at. -/
def position? (b : Bindings) (w : World) (ref : Ref) : Option Coord :=
  match ref, b.target with
  | .target, .point p => some p
  | _, _ => ((b.unit? ref).bind w.unit?).map Bag.position

end Bindings

/-! ## Arithmetic -/

/-- The quotient of two words, if it is a word. -/
def exactQuotient? (a b : Int64) : Option Int64 :=
  let q := a.toInt.tdiv b.toInt
  if b ≠ 0 ∧ q * b.toInt = a.toInt ∧ q ≤ Int64.maxValue.toInt then some (.ofInt q) else none

/-- Applies an operator. Words stay words unless a division leaves a rest; dividing by zero gives
zero. -/
def BinOp.apply (op : BinOp) (a b : Value) : Value :=
  let asFloat := a.isFloat || b.isFloat
  match op with
  | add => a.add b
  | sub =>
    if asFloat then .float (a.asFloat - b.asFloat) else .int (Saturating.sub a.asInt b.asInt)
  | mul =>
    if asFloat then .float (a.asFloat * b.asFloat) else .int (Saturating.mul a.asInt b.asInt)
  | div =>
    if b.asFloat == 0.0 then .int 0
    else
      match if asFloat then none else exactQuotient? a.asInt b.asInt with
      | some q => .int q
      | none => .float (a.asFloat / b.asFloat)

def Expr.eval (w : World) (b : Bindings) : Expr → Value
  | lit v => v
  | unitVar ref name => (((b.unit? ref).bind w.unit?).bind fun u => u.get? name).getD (.int 0)
  | globalVar name => (w.global.get? name).getD (.int 0)
  | turn => .int (Saturating.ofUInt64 w.turn)
  | neg e =>
    match e.eval w b with
    | .float x => .float (-x)
    | v => .int (Saturating.neg v.asInt)
  | bin op lhs rhs => op.apply (lhs.eval w b) (rhs.eval w b)

/-! ## Comparisons -/

/-- Whether a comparison accepts an order. -/
def CmpOp.accepts : CmpOp → Ordering → Bool
  | lt, o => o.isLT
  | le, o => o.isLE
  | gt, o => o.isGT
  | ge, o => o.isGE
  | eq, o => o.isEq
  | ne, o => o.isNe

/-- The order of two doubles that are numbers. -/
def floatOrder (x y : Float) : Ordering :=
  if x < y then .lt else if x == y then .eq else .gt

/-- Compares two values: texts by their characters, places for equality only, all others as
doubles. -/
def CmpOp.compare (op : CmpOp) : Value → Value → Bool
  | .text s, .text t => op.accepts (Ord.compare s t)
  | .coord p, .coord q =>
    match op with
    | eq => p == q
    | ne => p != q
    | _ => false
  | a, b => op.accepts (floatOrder a.asFloat b.asFloat)

/-! ## Chances -/

/-- Draws a roll against a percentage. A chance that is none draws no roll. -/
def rollChance (w : World) (percent : Float) : World × Bool :=
  if percent ≤ 0.0 then (w, false)
  else if 100.0 ≤ percent then (w, true)
  else
    let roll := Roll.percent (Roll.seed w.seed w.turn 0 w.rolls .chance)
    ({ w with rolls := Saturating.next w.rolls }, Float.ofNat roll.toNat ≤ percent)

/-- Tests a condition. What follows `and` and `or` is tested only if it matters. -/
def Cond.test (b : Bindings) : Cond → World → World × Bool
  | cmp op lhs rhs, w => (w, op.compare (lhs.eval w b) (rhs.eval w b))
  | truthy e, w => (w, (e.eval w b).asBool)
  | hasTag ref tag, w => (w, (((b.unit? ref).bind w.unit?).map fun u => u.hasTag tag).getD false)
  | globalHasTag tag, w => (w, w.global.hasTag tag)
  | chance percent, w => rollChance w (percent.node.eval w b).asFloat
  | not c, w =>
    let (w, hit) := c.test b w
    (w, !hit)
  | and lhs rhs, w =>
    let (w, hit) := lhs.test b w
    if hit then rhs.test b w else (w, false)
  | or lhs rhs, w =>
    let (w, hit) := lhs.test b w
    if hit then (w, true) else rhs.test b w

end Script

end Skirmish
