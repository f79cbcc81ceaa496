import Skirmish.Combat.Attack
import Skirmish.Effect
import Skirmish.Grid.Shape
import Skirmish.World.Place

/-!
# Actions

The primitive changes of a world. Hosts submit them in batches and skills are made of them. An
action that names a unit or a place that does not exist does nothing.
-/

namespace Skirmish

/-- The two ways of attacking that can be evaded and mitigated. -/
inductive School where
  | physical
  | magic
  deriving DecidableEq

def School.kind : School → DamageKind
  | physical => .physical
  | magic => .magic

/-- A place whose variables can be added to: a unit or the battle as a whole. -/
inductive Account where
  | unit (id : String)
  | global
  deriving DecidableEq

def Account.place : Account → Place
  | unit id => .unit id
  | global => .global

/-- Damage along a line cast from a unit towards another. -/
structure LineDamage where
  attacker : String
  target : String
  kind : DamageKind
  power : Int64
  length : Int64 := 1
  radius : Int64 := 0
  deriving DecidableEq

/-- A primitive change of a world. -/
inductive Action where
  | setVar (place : Place) (name : String) (value : Value)
  | addToVar (account : Account) (name : String) (delta : Value)
  | removeVar (place : Place) (name : String)
  | addTag (place : Place) (tag : String)
  | removeTag (place : Place) (tag : String)
  | damage (target : String) (amount : Int64)
  | heal (target : String) (amount : Int64)
  | strike (school : School) (attacker target : String) (power : Int64) (ignoreRatio : Float)
  | move (unit : String) (goal : Coord)
  | dash (unit target : String) (maxSteps : Int64)
  | line (line : LineDamage)
  deriving DecidableEq

def Place.noun : Place → String
  | unit _ => "unit"
  | tile _ => "tile"
  | global => "global"

def Action.name : Action → String
  | setVar place .. => s!"set_{place.noun}_var"
  | addToVar account .. => s!"modify_{account.place.noun}_var"
  | removeVar place .. => s!"remove_{place.noun}_var"
  | addTag place .. => s!"add_{place.noun}_tag"
  | removeTag place .. => s!"remove_{place.noun}_tag"
  | damage .. => "damage"
  | heal .. => "heal"
  | strike school .. => s!"{school.kind.name}_damage"
  | move .. => "move"
  | dash .. => "dash_towards"
  | line _ => "line_aoe_damage"

/-! ## Lines -/

/-- Whom a line hits, by id: every unit it covers but the attacker and its team. -/
def LineDamage.victims (l : LineDamage) (w : World) : List String :=
  match w.unit? l.attacker, w.unit? l.target with
  | some attacker, some target =>
    let origin := attacker.position
    match Direction.bearing? origin target.position with
    | some direction =>
      let shape := Shape.line direction l.length l.radius
      let team := attacker.team
      (w.units.entries.filter fun u =>
        u.1 != l.attacker && (team == "" || u.2.team != team) &&
          shape.covers origin u.2.position).map Prod.fst
    | none => []
  | _, _ => []

/-- Hits all victims of a line, one after the other. -/
def LineDamage.apply (l : LineDamage) (rules : Rules) (w : World) : Outcome :=
  Outcome.fold
    (fun victim w =>
      (Combat.attack rules w l.attacker victim { kind := l.kind, power := l.power }).outcome)
    (l.victims w) w

/-! ## Movement -/

/-- Puts a unit on a place. -/
def relocate (w : World) (id : String) (start goal : Coord) : Outcome :=
  ⟨w.updateUnit id (·.set Stat.position (.coord goal)), [.moved id start goal]⟩

/-- Moves a unit to a place on the grid, unless it is rooted. -/
def moveTo (w : World) (id : String) (goal : Coord) : Outcome :=
  match w.unit? id with
  | some unit =>
    if unit.isRooted ∨ !w.inBounds goal then ⟨w, []⟩ else relocate w id unit.position goal
  | none => ⟨w, []⟩

/-- Whether a unit other than the given one stands on a place. -/
def isOccupied (w : World) (id : String) (p : Coord) : Bool :=
  w.units.entries.any fun u => u.1 != id && u.2.position == p

/-- Where a unit ends that steps towards a goal, at most `n` times: in front of the edge of the grid
or of the first tile that is occupied. -/
def dashEnd (w : World) (id : String) (goal : Coord) : Nat → Coord → Coord
  | 0, p => p
  | n + 1, p =>
    let next := p.shift (p.stepTowards goal)
    if !w.inBounds next || isOccupied w id next then p else dashEnd w id goal n next

def kingSteps (p q : Coord) : Nat :=
  let (dx, dy) := p.difference q
  max dx.natAbs dy.natAbs

/-- Steps a unit towards another one. The steps to the goal bound the number of steps. -/
def dashTowards (w : World) (id target : String) (maxSteps : Int64) : Outcome :=
  match w.unit? id, w.unit? target with
  | some unit, some aim =>
    if unit.isRooted then ⟨w, []⟩
    else
      let start := unit.position
      let goal := aim.position
      let finish := dashEnd w id goal (min maxSteps.toInt.toNat (kingSteps start goal)) start
      if finish = start then ⟨w, []⟩ else relocate w id start finish
  | _, _ => ⟨w, []⟩

/-! ## All actions -/

namespace Action

def apply (rules : Rules) (a : Action) (w : World) : Outcome :=
  match a with
  | setVar place name value => ⟨w.update (·.set name value) place, []⟩
  | addToVar account name delta => ⟨w.update (·.addTo name delta) account.place, []⟩
  | removeVar place name => ⟨w.update (·.unset name) place, []⟩
  | addTag place tag => ⟨w.update (·.tag tag) place, []⟩
  | removeTag place tag => ⟨w.update (·.untag tag) place, []⟩
  | damage target amount => (Combat.damage rules w target amount).outcome
  | heal target amount => (Combat.heal rules w target amount).outcome
  | strike school attacker target power ignoreRatio =>
    (Combat.attack rules w attacker target { kind := school.kind, power, ignoreRatio }).outcome
  | move unit goal => moveTo w unit goal
  | dash unit target maxSteps => dashTowards w unit target maxSteps
  | line l => l.apply rules w

def effect (a : Action) : Effect := fun rules w => a.apply rules w

def applyAll (rules : Rules) (actions : List Action) (w : World) : Outcome :=
  Outcome.fold (apply rules) actions w

end Action

end Skirmish
