import Skirmish.Combat.Attack
import Skirmish.Grid.Direction
import Skirmish.Grid.Distance
import Skirmish.Script.Token

/-!
# The syntax of scripts

The trees that texts of skills and roles stand for. Statements, conditions of selectors and metadata
carry the position where they begin.
-/

namespace Skirmish

/-- Whom a skill may be aimed at. -/
inductive Targeting where
  | any | enemies | allies | self | tile | point
  deriving DecidableEq, Inhabited

namespace Targeting

def all : List Targeting := [any, enemies, allies, self, tile, point]

def name : Targeting → String
  | any => "any"
  | enemies => "enemies"
  | allies => "allies"
  | self => "self"
  | tile => "tile"
  | point => "point"

/-- The kind of targets with a name, in any letter case. -/
def ofName? (s : String) : Option Targeting :=
  all.find? fun t => t.name == s.toLower

/-- Whether a place is aimed at rather than a unit. -/
def isGround : Targeting → Bool
  | tile | point => true
  | _ => false

end Targeting

namespace Script

/-- The most times that a repetition runs its body. -/
def maxRepeat : Int64 := 1000

/-- Something with the position where it begins. -/
structure Located (α : Type) where
  node : α
  pos : Pos
  deriving DecidableEq

/-- A declaration about a skill as a whole. -/
inductive Meta where
  | range (n : Int64)
  | minRange (n : Int64)
  | cooldown (n : Int64)
  | targeting (t : Targeting)
  | distance (m : Metric)
  | sealedUntil (n : Int64)
  | endsTurn
  deriving DecidableEq

/-- A unit, or the point aimed at, as a script names it. -/
inductive Ref where
  | caster
  | target
  /-- The unit that the innermost loop is at. -/
  | it
  | unit (id : String)
  deriving DecidableEq

/-- An operator of arithmetic. -/
inductive BinOp where
  | add | sub | mul | div
  deriving DecidableEq

/-- An operator of comparison. -/
inductive CmpOp where
  | lt | le | gt | ge | eq | ne
  deriving DecidableEq

inductive Expr where
  | lit (v : Value)
  | unitVar (ref : Ref) (name : String)
  | globalVar (name : String)
  | turn
  | neg (e : Expr)
  | bin (op : BinOp) (lhs rhs : Expr)
  deriving DecidableEq

/-- The value of an expression that is a literal or the opposite of a constant number. -/
def Expr.constant? : Expr → Option Value
  | lit v => some v
  | neg e =>
    match e.constant? with
    | some (.int n) => some (.int (Saturating.neg n))
    | some (.float x) => some (.float (-x))
    | _ => none
  | _ => none

inductive Cond where
  | cmp (op : CmpOp) (lhs rhs : Expr)
  /-- An expression read as a truth value. -/
  | truthy (e : Expr)
  | hasTag (ref : Ref) (tag : String)
  | globalHasTag (tag : String)
  | chance (percent : Located Expr)
  | not (c : Cond)
  | and (lhs rhs : Cond)
  | or (lhs rhs : Cond)
  deriving DecidableEq

/-- Where a statement changes variables or tags. -/
inductive Scope where
  | unit (ref : Ref)
  | tile (x y : Expr)
  | tileAt (ref : Ref)
  | global
  deriving DecidableEq

/-- Where a unit moves. -/
inductive Destination where
  | coord (x y : Expr)
  | at (ref : Ref)
  deriving DecidableEq

/-- The units that a selector starts from. -/
inductive Pool where
  | units | enemies | allies
  deriving DecidableEq

/-- The order of selected units by distance. -/
inductive Order where
  | nearest | farthest
  deriving DecidableEq

/-- An area that a selector is restricted to. -/
inductive Area where
  | line (length : Expr) (dir : Option Direction) (width : Option Expr)
  | cone (radius : Expr) (angle : Option Expr) (dir : Option Direction)
  deriving DecidableEq

/-- Which units a loop goes through. -/
structure Selector where
  pool : Pool
  order : Option Order := none
  limit : Option (Located Expr) := none
  range : Option (Located Expr) := none
  /-- What the range is measured from; the caster if nothing is given. -/
  anchor : Option Ref := none
  withTags : List String := []
  area : Option (Located Area) := none
  deriving DecidableEq

mutual

inductive Stmt where
  | deal (kind : DamageKind) (amount : Expr) (who : Ref)
  | heal (amount : Expr) (who : Ref)
  | move (unit : Ref) (goal : Destination)
  | dash (who : Ref) (steps : Expr)
  | line (kind : DamageKind) (amount : Expr) (who : Ref) (length radius : Expr)
  | setVar (scope : Scope) (name : String) (value : Expr)
  | addVar (scope : Scope) (name : String) (delta : Expr)
  | removeVar (scope : Scope) (name : String)
  | addTag (scope : Scope) (tag : String)
  | removeTag (scope : Scope) (tag : String)
  | consumeMp (amount : Expr)
  | branch (cond : Cond) (yes : Block) (no : Option Block)
  | repeat (times : Expr) (body : Block)
  | parallel (body : Block)
  | forEach (selector : Located Selector) (body : Block)
  | chance (percent : Expr) (yes : Block) (no : Option Block)

/-- The statements under another one. Without braces there is exactly one. -/
inductive Block where
  | mk (braced : Bool) (pos : Pos) (stmts : List (Located Stmt))

end

namespace Block

def braced : Block → Bool
  | mk b _ _ => b

def pos : Block → Pos
  | mk _ p _ => p

def stmts : Block → List (Located Stmt)
  | mk _ _ l => l

end Block

end Script

/-- A script: metadata and statements, each in the order of the text. -/
structure Script where
  metas : List (Script.Located Script.Meta) := []
  stmts : List (Script.Located Script.Stmt) := []

namespace Script

/-- A skill of a role. -/
structure SkillSource where
  name : Located String
  script : Script

/-- A role as its text gives it. -/
structure RoleSource where
  name : String
  id : String
  description : String := ""
  vars : List (String × Value) := []
  tags : List String := []
  skills : List SkillSource := []

end Script

end Skirmish
