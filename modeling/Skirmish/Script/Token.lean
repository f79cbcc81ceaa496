import Skirmish.Number.Shortest

/-!
# Tokens

The words of the languages of roles and skills. Keywords are ordinary words at this level.
-/

namespace Skirmish.Script

/-- A position in a text: line and column, both from one. Columns count characters. -/
structure Pos where
  line : Nat
  column : Nat
  deriving DecidableEq, Inhabited

namespace Pos

def start : Pos := ⟨1, 1⟩

/-- The position behind a character. -/
def after (p : Pos) (c : Char) : Pos :=
  if c = '\n' then ⟨p.line + 1, 1⟩ else ⟨p.line, p.column + 1⟩

/-- The position behind a list of characters. -/
def afterAll (p : Pos) (cs : List Char) : Pos := cs.foldl after p

/-- Whether a position comes no later than another one. -/
def atMost (p q : Pos) : Bool := p.line < q.line || (p.line == q.line && p.column ≤ q.column)

def text (p : Pos) : String := s!"line {p.line}, col {p.column}"

end Pos

/-- A symbol of one or two characters. -/
inductive Symbol where
  | lbrace | rbrace | lparen | rparen | comma | semi | dot | percent | assign
  | plus | minus | star | slash | lt | le | gt | ge | eqEq | notEq
  deriving DecidableEq

/-- How a symbol is written. -/
def Symbol.spelling : Symbol → String
  | lbrace => "\x7b"
  | rbrace => "\x7d"
  | lparen => "("
  | rparen => ")"
  | comma => ","
  | semi => ";"
  | dot => "."
  | percent => "%"
  | assign => "="
  | plus => "+"
  | minus => "-"
  | star => "*"
  | slash => "/"
  | lt => "<"
  | le => "<="
  | gt => ">"
  | ge => ">="
  | eqEq => "=="
  | notEq => "!="

/-- A token without its position. -/
inductive Lexeme where
  | word (w : String)
  | text (s : String)
  | int (n : Int64)
  | float (x : Float)
  | symbol (s : Symbol)
  deriving DecidableEq

/-- How an error names a token. -/
def Lexeme.describe : Lexeme → String
  | word w => "`" ++ w ++ "`"
  | text s => "string \"" ++ s ++ "\""
  | int n => "number " ++ toString n.toInt
  | float x => "number " ++ Number.text x
  | symbol s => "`" ++ s.spelling ++ "`"

/-- A token with the position of its first character. -/
structure Token where
  lexeme : Lexeme
  pos : Pos
  deriving DecidableEq

/-- The tokens of a text and the position of its end. -/
structure TokenList where
  tokens : List Token
  finish : Pos
  deriving DecidableEq

end Skirmish.Script
