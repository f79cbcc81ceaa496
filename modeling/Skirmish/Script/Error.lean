import Skirmish.Script.Token
import Skirmish.Severity

/-!
# Parse errors

Why a text is not a script or a role, and where. Reading stops at the first error.
-/

namespace Skirmish.Script

/-- The deepest nesting of blocks, parentheses, `not` and signs, and the longest chain of operators
of one level. -/
def maxNesting : Nat := 64

/-- Why a text cannot be read. -/
inductive Fault where
  | unexpectedChar (c : Char)
  | unterminatedString
  | invalidNumber (text : String)
  /-- Something was expected, and something else was found; nothing was found at the end. -/
  | unexpected (expected : String) (found : Option Lexeme)
  | unknownStatement (word : String)
  | unknownSection (word : String)
  | duplicateSection (word : String)
  | duplicateSkill (name : String)
  /-- A word that is no name of the kind asked for. -/
  | invalidName (word kind : String)
  | negativeMeta (word : String)
  | nestedMeta (word : String)
  | invalidPool (word : String)
  | coordinateRange
  | tooDeep
  | chainTooLong
  deriving DecidableEq

namespace Fault

def kind : Fault → String
  | unexpectedChar _ => "unexpected_char"
  | unterminatedString => "unterminated_string"
  | invalidNumber _ => "invalid_number"
  | unexpected _ (some _) => "unexpected_token"
  | unexpected _ none => "unexpected_eof"
  | unknownStatement _ | unknownSection _ => "unknown_keyword"
  | duplicateSection _ | duplicateSkill _ => "duplicate_section"
  | invalidName .. | negativeMeta _ | nestedMeta _ | invalidPool _ | coordinateRange =>
    "invalid_value"
  | tooDeep | chainTooLong => "too_deep"

def message : Fault → String
  | unexpectedChar c => "unexpected character `" ++ String.singleton c ++ "`"
  | unterminatedString => "unterminated string literal"
  | invalidNumber text => "invalid number literal `" ++ text ++ "`"
  | unexpected expected (some found) => "expected " ++ expected ++ ", found " ++ found.describe
  | unexpected expected none => "expected " ++ expected ++ ", found end of input"
  | unknownStatement word => "unknown statement `" ++ word ++ "`"
  | unknownSection word => "unknown role section `" ++ word ++ "`"
  | duplicateSection word => "duplicate `" ++ word ++ "` section"
  | duplicateSkill name => "duplicate skill `" ++ name ++ "`"
  | invalidName word kind => "`" ++ word ++ "` is not a valid " ++ kind
  | negativeMeta word => "`" ++ word ++ "` must not be negative"
  | nestedMeta word => "`" ++ word ++ "` is only allowed at the top level of a skill"
  | invalidPool word => "`" ++ word ++ "` is not a selector (units, enemies, allies)"
  | coordinateRange => "coordinate out of range"
  | tooDeep => "nesting deeper than " ++ toString maxNesting ++ " levels"
  | chainTooLong => "more than " ++ toString maxNesting ++ " chained operators"

end Fault

/-- A fault and where it lies. -/
structure ParseError where
  fault : Fault
  pos : Pos
  deriving DecidableEq

namespace ParseError

def code (e : ParseError) : String := "PARSE_" ++ e.fault.kind.toUpper

def severity (_ : ParseError) : Severity := .validation

/-- The text of an error with its position in front. -/
def message (e : ParseError) : String := e.pos.text ++ ": " ++ e.fault.message

end ParseError

end Skirmish.Script
