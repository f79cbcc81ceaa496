import Skirmish.Skill

/-!
# Roles

A role is what units are made from: initial variables and tags, and skills.
-/

namespace Skirmish

/-- A role, ready to make units. -/
structure Role where
  name : String
  id : String
  description : String
  /-- What every unit of the role begins with. -/
  initial : Bag
  skills : List Skill

namespace Role

def ofSource (r : Script.RoleSource) : Role :=
  { name := r.name, id := r.id, description := r.description
    initial := Bag.empty.withAll r.vars r.tags
    skills := r.skills.map fun s => .ofScript s.name.node s.script }

def compile (text : String) : Except Script.ParseError Role :=
  return ofSource (← Script.parseRole text)

def skill? (r : Role) (name : String) : Option Skill := r.skills.find? fun s => s.name == name

/-- A unit of a role at a place. It starts with its greatest magic and health unless the role tells
otherwise. -/
def spawn (r : Role) (position : Coord) : Bag :=
  let b := (r.initial.set Stat.role (.text r.id)).set Stat.position (.coord position)
  let b :=
    if !b.contains Stat.mp && b.contains Stat.maxMp then
      b.set Stat.mp (.int (b.int Stat.maxMp))
    else b
  b.asUnit

end Role

end Skirmish
