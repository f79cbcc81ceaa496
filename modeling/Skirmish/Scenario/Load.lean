import Skirmish.Format.Ron
import Skirmish.Scenario

/-!
# Loading scenarios

Scenarios are kept as RON. A scenario file names the files of its roles, whose paths begin at the
directory of the scenario file.
-/

namespace Skirmish.ScenarioSource

open Format

def axis? (v : Ron) : Option Int32 :=
  (v.integer? (.signed 32)).map Int32.ofInt

/-- The place whose coordinates are given by name. -/
def coord? (fields : List (String × Ron)) : Option Coord := do
  return ⟨← Ron.required? axis? fields "x", ← Ron.required? axis? fields "y"⟩

/-- The place whose coordinates are given in order. -/
def point? : Ron → Option Coord
  | .tuple none [x, y] => return ⟨← axis? x, ← axis? y⟩
  | _ => none

/-- A value of a variable; the kind of the value stands in front of it. -/
def value? (f : RonFreedoms) : Ron → Option Value
  | .tuple (some "Int") [v] =>
    (v.integer? (.signed 64)).map fun n => .int (.ofInt n)
  | .tuple (some "Float") [v] => v.float?.map .float
  | .tuple (some "Bool") [v] => v.boolean?.map .bool
  | .tuple (some "Str") [v] => v.text?.map .text
  | .tuple (some "Coord") [v] =>
    if f.bareVariants then none
    else ((v.record? f "Coord" ["x", "y"]).bind coord?).map .coord
  | .record (some "Coord") fields =>
    if f.bareVariants then ((Ron.distinct? ["x", "y"] fields).bind coord?).map .coord else none
  | _ => none

def vars? (f : RonFreedoms) (v : Ron) : Option (NameMap Value) :=
  (v.map? (value? f)).map .ofList

def placement? (f : RonFreedoms) (v : Ron) : Option Placement := do
  let fields ← v.record? f "PlacementRon" ["id", "role", "at", "vars", "tags"]
  return {
    id := ← Ron.required? Ron.text? fields "id"
    role := ← Ron.required? Ron.text? fields "role"
    position := ← Ron.required? point? fields "at"
    vars := ← Ron.optional? (vars? f) .empty fields "vars"
    tags := ← Ron.optional? (Ron.list? Ron.text?) [] fields "tags" }

def ofRon? (f : RonFreedoms) (v : Ron) : Option ScenarioSource := do
  let fields ← v.record? f "ScenarioRon"
    ["width", "height", "seed", "roles", "units", "global_vars", "global_tags"]
  let extent (v : Ron) : Option UInt32 :=
    (v.integer? (.unsigned 32)).map fun n => .ofNat n.toNat
  let seed (v : Ron) : Option UInt64 :=
    (v.integer? (.unsigned 64)).map fun n => .ofNat n.toNat
  return {
    width := ← Ron.required? extent fields "width"
    height := ← Ron.required? extent fields "height"
    seed := ← Ron.optional? seed 0 fields "seed"
    roles := ← Ron.optional? (Ron.list? Ron.text?) [] fields "roles"
    units := ← Ron.optional? (Ron.list? (placement? f)) [] fields "units"
    globalVars := ← Ron.optional? (vars? f) .empty fields "global_vars"
    globalTags := ← Ron.optional? (Ron.list? Ron.text?) [] fields "global_tags" }

def ofText (text : String) : Except LoadError ScenarioSource :=
  match (Ron.read text).bind fun (f, v) => ofRon? f v with
  | some s => pure s
  | none => throw .badScenario

end Skirmish.ScenarioSource

namespace Skirmish.Scenario

/-- The scenario that a text describes, with roles at hand. The files that it names do not
matter. -/
def ofText (text : String) (roles : List Role) : Except LoadError Scenario := do
  build (← ScenarioSource.ofText text) roles

def loadRole (files : FileTree) (path : String) : Except LoadError Role := do
  (Role.compile (← files.read path)).mapError (.badRole path)

/-- The scenario in a file, with the roles in the files that it names. -/
def load (files : FileTree) (path : String) : Except LoadError Scenario := do
  let s ← ScenarioSource.ofText (← files.read path)
  let directory := FileTree.parent path
  build s (← s.roles.mapM fun file => loadRole files (FileTree.join directory file))

end Skirmish.Scenario
