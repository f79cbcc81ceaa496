import Skirmish.Skill

/-!
# Casting

A cast is allowed if its caster is there and free to act, the skill is ready and paid for, and the
target is of the right kind and at the right distance. The first check that fails is told.
-/

namespace Skirmish

/-- What is wrong with the kind of a target. -/
inductive BadTarget where
  | notSelf
  | offGrid
  | notPoint
  | notEnemy
  | notAlly
  | notUnit
  deriving DecidableEq

def BadTarget.message : BadTarget → String
  | notSelf => "self-targeted skill takes no other target"
  | offGrid => "point lies outside the grid"
  | notPoint => "skill needs a point target"
  | notEnemy => "target is not an enemy"
  | notAlly => "target is not an ally"
  | notUnit => "skill needs a unit target"

/-- Why a cast is not allowed. -/
inductive CastError where
  | casterNotFound (caster : String)
  | cannotAct (caster : String)
  | sealed (first turn : UInt64)
  | onCooldown (first turn : UInt64)
  | invalidTarget (reason : BadTarget)
  | targetNotFound (id : String)
  | outOfRange (distance minRange range : Int64)
  | insufficientMp (need stock : Int64)
  deriving DecidableEq

namespace CastError

def code : CastError → String
  | casterNotFound _ => "CAST_CASTER_NOT_FOUND"
  | cannotAct _ => "CAST_CANNOT_ACT"
  | sealed .. => "CAST_SEALED"
  | onCooldown .. => "CAST_ON_COOLDOWN"
  | invalidTarget _ => "CAST_INVALID_TARGET"
  | targetNotFound _ => "CAST_TARGET_NOT_FOUND"
  | outOfRange .. => "CAST_OUT_OF_RANGE"
  | insufficientMp .. => "CAST_INSUFFICIENT_MP"

def severity : CastError → Severity
  | casterNotFound _ | invalidTarget _ | targetNotFound _ => .validation
  | cannotAct _ | sealed .. | onCooldown .. | outOfRange .. | insufficientMp .. => .recoverable

def message : CastError → String
  | casterNotFound caster => s!"caster {caster} not found"
  | cannotAct caster => s!"caster {caster} cannot act"
  | sealed first turn => s!"skill sealed until turn {first.toNat}, current turn {turn.toNat}"
  | onCooldown first turn =>
    s!"skill on cooldown until turn {first.toNat}, current turn {turn.toNat}"
  | invalidTarget reason => s!"invalid target: {reason.message}"
  | targetNotFound id => s!"target {id} not found or untargetable"
  | outOfRange distance low high =>
    s!"target at distance {distance.toInt} outside range {low.toInt}..={high.toInt}"
  | insufficientMp need stock => s!"insufficient mp: need {need.toInt}, have {stock.toInt}"

end CastError

namespace Skill

/-- Whether a unit can cast at all. -/
def isFree (unit : Bag) : Bool := unit.isAlive && unit.canAct && !unit.isSilenced

/-- A unit that is aimed at as a unit, and where it stands. -/
def unitTarget (mode : Targeting) (w : World) (caster team id : String) :
    Except CastError (Option Coord) :=
  match (w.unit? id).filter fun u => u.isAlive && !u.isUntargetable with
  | none => throw (.targetNotFound id)
  | some u =>
    if mode = .enemies ∧ u.team = team then throw (.invalidTarget .notEnemy)
    else if mode = .allies ∧ (u.team ≠ team ∨ id = caster) then throw (.invalidTarget .notAlly)
    else pure (some u.position)

/-- The place whose distance counts; none if no distance counts. -/
def targetPlace (mode : Targeting) (w : World) (caster team : String) (target : CastTarget) :
    Except CastError (Option Coord) :=
  match mode, target with
  | .self, .none => pure none
  | .self, .unit id => if id = caster then pure none else throw (.invalidTarget .notSelf)
  | .self, .point _ => throw (.invalidTarget .notSelf)
  | .tile, .point p | .point, .point p =>
    if w.inBounds p then pure (some p) else throw (.invalidTarget .offGrid)
  | .point, .unit id =>
    match w.unit? id with
    | some u => pure (some u.position)
    | none => throw (.targetNotFound id)
  | .tile, _ | .point, _ => throw (.invalidTarget .notPoint)
  | .any, .none => pure none
  | mode, .unit id => unitTarget mode w caster team id
  | .any, .point p => pure (some p)
  | _, _ => throw (.invalidTarget .notUnit)

/-- Checks the distance of a target. -/
def checkRange (m : SkillMeta) (start goal : Coord) : Except CastError Unit :=
  let distance := m.metric.distance start goal
  let range := m.range.getD Int64.maxValue
  if Number.ofWord range < distance ∨ distance < Number.ofWord m.minRange then
    throw (.outOfRange (Number.toWord distance) m.minRange range)
  else pure ()

/-- Checks whether a cast is allowed. -/
def validate (s : Skill) (w : World) (caster : String) (target : CastTarget) :
    Except CastError Unit := do
  let some unit := w.unit? caster | throw (.casterNotFound caster)
  if !isFree unit then throw (.cannotAct caster)
  let first := Saturating.toUInt64 s.declared.sealedUntil
  if w.turn < first then throw (.sealed first w.turn)
  let ready := Saturating.toUInt64 (unit.int (Stat.cooldownUntil s.name))
  if w.turn < ready then throw (.onCooldown ready w.turn)
  let stock := unit.int Stat.mp
  if stock < s.declared.mpCost then throw (.insufficientMp s.declared.mpCost stock)
  match ← targetPlace s.declared.targeting w caster unit.team target with
  | some p => checkRange s.declared unit.position p
  | none => pure ()

def cast (s : Skill) (rules : Rules) (w : World) (caster : String) (target : CastTarget) :
    Except CastError Outcome := do
  s.validate w caster target
  return s.effect caster target rules w

end Skill

end Skirmish
