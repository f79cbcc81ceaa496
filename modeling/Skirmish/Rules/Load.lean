import Skirmish.Format.Toml
import Skirmish.LoadError
import Skirmish.Rules

/-!
# Loading rules

The rules of a battle are kept as TOML. What the text leaves out has its usual value; what the rules
do not know is passed over.
-/

namespace Skirmish.Rules

open Format

def double? : Toml → Option Float
  | .float x => some x
  | .integer n => if Int64.minValue.toInt ≤ n ∧ n < UInt64.size then some (Float.ofInt n) else none
  | _ => none

def word? : Toml → Option Int64
  | .integer n => Number.word? n
  | _ => none

/-- The value of an entry, or the usual one. -/
def entry {α : Type} (read? : Toml → Option α) (entries : List (String × Toml)) (k : String)
    (usual : α) : Option α :=
  match entries.lookup k with
  | some v => read? v
  | none => some usual

def ofEntries (es : List (String × Toml)) : Option Rules := do
  let usual : Rules := {}
  return {
    minResist := ← entry double? es "min_resist_cap" usual.minResist
    maxResist := ← entry double? es "max_resist_cap" usual.maxResist
    undyingFloor := ← entry word? es "undying_floor" usual.undyingFloor
    counterMultiplier := ← entry double? es "counter_multiplier" usual.counterMultiplier
    duelMultiplier := ← entry double? es "duel_multiplier" usual.duelMultiplier
    maxEvasion := ← entry double? es "max_evasion" usual.maxEvasion }

def ofText (text : String) : Except LoadError Rules :=
  match (Toml.read text).bind ofEntries with
  | some r => pure r
  | none => throw .badRules

def load (files : FileTree) (path : String) : Except LoadError Rules := do
  ofText (← files.read path)

end Skirmish.Rules
