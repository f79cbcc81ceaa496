import Skirmish.NameMap
import Skirmish.Stat
import Skirmish.Value

/-!
# Bags of variables and tags

Units, tiles and the battle as a whole keep their state in bags. A missing variable reads as the
neutral value of the kind asked for.
-/

namespace Skirmish

/-- Named values and tags. -/
structure Bag where
  vars : NameMap Value
  tags : NameSet
  deriving DecidableEq, Inhabited

namespace Bag

def empty : Bag := ⟨.empty, .empty⟩

/-! ## Reading -/

def get? (b : Bag) (name : String) : Option Value := b.vars.get? name

def contains (b : Bag) (name : String) : Bool := b.vars.contains name

def int (b : Bag) (name : String) : Int64 := ((b.get? name).map Value.asInt).getD 0

/-- A variable as a finite double. -/
def float (b : Bag) (name : String) : Float := ((b.get? name).map Value.asFloat).getD 0.0

def flag (b : Bag) (name : String) : Bool := ((b.get? name).map Value.asBool).getD false

def text (b : Bag) (name : String) : String := ((b.get? name).map Value.asText).getD ""

def coord? (b : Bag) (name : String) : Option Coord := (b.get? name).bind Value.asCoord?

def hasTag (b : Bag) (tag : String) : Bool := b.tags.contains tag

/-! ## Changing -/

def set (b : Bag) (name : String) (value : Value) : Bag :=
  { b with vars := b.vars.insert name value }

def unset (b : Bag) (name : String) : Bag :=
  { b with vars := b.vars.erase name }

def tag (b : Bag) (tag : String) : Bag :=
  { b with tags := b.tags.insert tag }

def untag (b : Bag) (tag : String) : Bag :=
  { b with tags := b.tags.erase tag }

/-- The bag with a value added to a variable; a missing variable counts as zero. -/
def addTo (b : Bag) (name : String) (delta : Value) : Bag :=
  b.set name (((b.get? name).getD (.int 0)).add delta)

def withAll (b : Bag) (vars : List (String × Value)) (tags : List String) : Bag :=
  tags.foldl tag (vars.foldl (fun b v => b.set v.1 v.2) b)

/-! ## Units

The state of a unit is a bag; its vital state has fixed names. -/

/-- A unit at a place with full health. -/
def newUnit (position : Coord) (hp : Int64) : Bag :=
  ((empty.set Stat.position (.coord position)).set Stat.hp (.int hp)).set Stat.maxHp (.int hp)

/-- A unit made of a bag; without health it starts with its greatest health. -/
def asUnit (b : Bag) : Bag :=
  if b.contains Stat.hp then b else b.set Stat.hp (.int (b.int Stat.maxHp))

/-- The place of a unit; the origin if it has none. -/
def position (b : Bag) : Coord := (b.coord? Stat.position).getD .origin

def hp (b : Bag) : Int64 := b.int Stat.hp

def maxHp (b : Bag) : Int64 := b.int Stat.maxHp

def isAlive (b : Bag) : Bool := 0 < b.hp

def team (b : Bag) : String := b.text Stat.team

/-- Whether a counter of turns is running. -/
def isActive (b : Bag) (counter : String) : Bool := 0 < b.int counter

/-- Whether selectors pass a unit over and attacks on it fail. -/
def isUntargetable (b : Bag) : Bool := b.isActive Stat.untargetableTurns

def canAct (b : Bag) : Bool := !b.isActive Stat.stunnedTurns && !b.isActive Stat.cannotActTurns

def isSilenced (b : Bag) : Bool := b.isActive Stat.silencedTurns

def isRooted (b : Bag) : Bool := b.isActive Stat.rootedTurns

/-! ## A reading depends on its variable only -/

theorem contains_eq_isSome (b : Bag) (name : String) : b.contains name = (b.get? name).isSome := rfl

theorem contains_congr {b c : Bag} {name : String} (h : b.get? name = c.get? name) :
    b.contains name = c.contains name := by
  rw [contains_eq_isSome, contains_eq_isSome, h]

theorem int_congr {b c : Bag} {name : String} (h : b.get? name = c.get? name) :
    b.int name = c.int name := by
  rw [int, int, h]

theorem float_congr {b c : Bag} {name : String} (h : b.get? name = c.get? name) :
    b.float name = c.float name := by
  rw [float, float, h]

theorem text_congr {b c : Bag} {name : String} (h : b.get? name = c.get? name) :
    b.text name = c.text name := by
  rw [text, text, h]

theorem isActive_congr {b c : Bag} {name : String} (h : b.get? name = c.get? name) :
    b.isActive name = c.isActive name := by
  rw [isActive, isActive, int_congr h]

theorem position_congr {b c : Bag} (h : b.get? Stat.position = c.get? Stat.position) :
    b.position = c.position := by
  rw [position, position, coord?, coord?, h]

/-! ## What a change does to a reading -/

theorem get?_set (b : Bag) (name other : String) (value : Value) :
    (b.set name value).get? other = if other = name then some value else b.get? other :=
  NameMap.get?_insert ..

theorem get?_unset (b : Bag) (name other : String) :
    (b.unset name).get? other = if other = name then none else b.get? other :=
  NameMap.get?_erase ..

@[simp] theorem get?_tag (b : Bag) (tag name : String) : (b.tag tag).get? name = b.get? name := rfl

@[simp] theorem get?_untag (b : Bag) (tag name : String) :
    (b.untag tag).get? name = b.get? name := rfl

@[simp] theorem hasTag_set (b : Bag) (name tag : String) (value : Value) :
    (b.set name value).hasTag tag = b.hasTag tag := rfl

@[simp] theorem hasTag_unset (b : Bag) (name tag : String) :
    (b.unset name).hasTag tag = b.hasTag tag := rfl

theorem hasTag_tag (b : Bag) (tag other : String) :
    (b.tag tag).hasTag other = (other == tag || b.hasTag other) :=
  NameSet.contains_insert ..

theorem hasTag_untag (b : Bag) (tag other : String) :
    (b.untag tag).hasTag other = (other != tag && b.hasTag other) :=
  NameSet.contains_erase ..

theorem ext {b c : Bag} (vars : ∀ name, b.get? name = c.get? name)
    (tags : ∀ tag, b.hasTag tag = c.hasTag tag) : b = c := by
  obtain ⟨bv, bt⟩ := b
  obtain ⟨cv, ct⟩ := c
  congr
  · exact NameMap.ext vars
  · exact NameSet.ext tags

end Bag

end Skirmish
