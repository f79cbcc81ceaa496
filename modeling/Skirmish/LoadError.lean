import Skirmish.Files
import Skirmish.Script.Error
import Skirmish.World

/-!
# Errors of loading

Why rules or a scenario cannot be loaded.
-/

namespace Skirmish

/-- Why a text cannot be loaded. -/
inductive LoadError where
  /-- A file cannot be read. -/
  | unreadable (path : String)
  /-- The text of the rules makes no sense. -/
  | badRules
  /-- The text of the scenario makes no sense. -/
  | badScenario
  /-- The file of a role makes no sense. -/
  | badRole (path : String) (e : Script.ParseError)
  | unknownRole (unit role : String)
  /-- The world cannot be set up. -/
  | world (e : WorldError)
  deriving DecidableEq

def LoadError.message : LoadError → String
  | unreadable path => s!"Failed to read file {path}"
  | badRules => "Failed to parse config TOML"
  | badScenario => "Failed to parse scenario RON"
  | badRole path e => s!"{path}: {e.message}"
  | unknownRole unit role => s!"Unit {unit} uses unknown role {role}"
  | world e => e.message

def FileTree.read (t : FileTree) (path : String) : Except LoadError String :=
  match t.read? path with
  | some text => pure text
  | none => throw (.unreadable path)

end Skirmish
