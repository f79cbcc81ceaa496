import Skirmish.Grid.Coord
import Skirmish.Number.Decimal
import Skirmish.Number.Saturating
import Skirmish.Text.Quoted

/-!
# Values

What a variable holds. Every value can be read as a word, as a double, as a truth value and as a
text; a reading that makes no sense gives the neutral one.
-/

namespace Skirmish

inductive Value where
  | int (n : Int64)
  | float (x : Float)
  | bool (b : Bool)
  | text (s : String)
  | coord (c : Coord)
  deriving DecidableEq

namespace Value

instance : Inhabited Value := ⟨int 0⟩

/-- The value as a word: doubles round, texts are read as numbers, places count as zero. -/
def asInt : Value → Int64
  | int n => n
  | float x => Number.toWord x
  | bool b => if b then 1 else 0
  | text s =>
    let cs := Text.trim s.toList
    (Number.readWord? cs <|> (Number.readFloat? cs).map Number.toWord).getD 0
  | coord _ => 0

/-- The value as a finite double; whatever is not finite counts as zero. -/
def asFloat : Value → Float
  | int n => Number.ofWord n
  | float x => if x.isFinite then x else 0.0
  | bool b => if b then 1.0 else 0.0
  | text s => ((Number.readFloat? (Text.trim s.toList)).filter Float.isFinite).getD 0.0
  | coord _ => 0.0

/-- The value as a truth value: zero, the empty text and the word `false` are false. -/
def asBool : Value → Bool
  | int n => n != 0
  | float x => x != 0.0
  | bool b => b
  | text s => s != "" && s.toLower != "false"
  | coord _ => true

def asCoord? : Value → Option Coord
  | coord c => some c
  | _ => none

/-- The text that shows a value; a text is quoted. -/
def display : Value → String
  | int n => toString n.toInt
  | float x => Number.text x
  | bool b => if b then "true" else "false"
  | text s => Text.quote s
  | coord c => c.text

/-- The value as a text: a text stands for itself. -/
def asText : Value → String
  | text s => s
  | v => v.display

def isNumeric : Value → Bool
  | int _ | float _ => true
  | _ => false

def isFloat : Value → Bool
  | float _ => true
  | _ => false

/-- The sum of two values: a double if either is one, else a word. -/
def add (v delta : Value) : Value :=
  if v.isFloat || delta.isFloat then float (v.asFloat + delta.asFloat)
  else int (Saturating.add v.asInt delta.asInt)

def kind : Value → String
  | int _ => "int"
  | float _ => "float"
  | bool _ => "bool"
  | text _ => "string"
  | coord _ => "coord"

end Value

end Skirmish
