import Skirmish.Number.Decimal
import Skirmish.Script.Error
import Skirmish.Text.Letters

/-!
# Scanning

A text is cut into tokens. Between tokens stand blanks and comments; a comment begins with `#` or
`//` and ends with its line. Each scanner tells how many characters it takes, so that positions
follow from the characters taken and from nothing else.
-/

namespace Skirmish.Script

/-- The number of blanks and comment characters that a text begins with. -/
def triviaLength (inComment : Bool) : List Char → Nat
  | [] => 0
  | c :: rest =>
    if inComment then triviaLength (c != '\n') rest + 1
    else if Text.isBlank c then triviaLength false rest + 1
    else if c = '#' ∨ (c = '/' ∧ rest.head? = some '/') then triviaLength true rest + 1
    else 0

/-- What a string holds, and how many characters it takes with its closing quote. A line break must
be escaped. -/
def stringBody : List Char → Option (List Char × Nat)
  | [] | '\n' :: _ | ['\\'] => none
  | '"' :: _ => some ([], 1)
  | '\\' :: c :: rest =>
    let meaning :=
      match c with
      | 'n' => ['\n']
      | 't' => ['\t']
      | '"' => ['"']
      | '\\' => ['\\']
      | c => ['\\', c]
    (stringBody rest).map fun (text, used) => (meaning ++ text, used + 2)
  | c :: rest => (stringBody rest).map fun (text, used) => (c :: text, used + 1)

/-- The digits of a number, with a point among them if digits follow it; underscores are dropped. -/
def numberBody (hasPoint : Bool) : List Char → List Char × Nat
  | [] => ([], 0)
  | c :: rest =>
    if c.isDigit then
      let (text, used) := numberBody hasPoint rest
      (c :: text, used + 1)
    else if c = '_' then
      let (text, used) := numberBody hasPoint rest
      (text, used + 1)
    else if c = '.' ∧ !hasPoint ∧ (rest.head?.map Char.isDigit).getD false then
      let (text, used) := numberBody true rest
      (c :: text, used + 1)
    else ([], 0)

/-- The value of the text of a number; integers must be words. -/
def numberValue? (text : List Char) : Option Lexeme :=
  if text.contains '.' then (Number.readFloat? text).map .float
  else (Number.readWord? text).map .int

/-- A number. It must not run into a letter. -/
def number (cs : List Char) : Except Fault (Lexeme × Nat) :=
  let (text, used) := numberBody false cs
  match (cs.drop used).head?.filter Text.isLetter with
  | some c => throw (.invalidNumber (String.ofList (text ++ [c])))
  | none =>
    match numberValue? text with
    | some value => pure (value, used)
    | none => throw (.invalidNumber (String.ofList text))

/-- Whether a word may begin with a character. -/
def beginsWord (c : Char) : Bool := Text.isLetter c || c == '_'

/-- Whether a word may go on with a character. -/
def continuesWord (c : Char) : Bool := Text.isLetter c || Text.isNumeral c || c == '_'

/-- The symbol that a text begins with; of two, the longer one. -/
def symbol? (c : Char) (next : Option Char) : Option Symbol :=
  match c, next with
  | '=', some '=' => some .eqEq
  | '!', some '=' => some .notEq
  | '<', some '=' => some .le
  | '>', some '=' => some .ge
  | '=', _ => some .assign
  | '<', _ => some .lt
  | '>', _ => some .gt
  | '\x7b', _ => some .lbrace
  | '\x7d', _ => some .rbrace
  | '(', _ => some .lparen
  | ')', _ => some .rparen
  | ',', _ => some .comma
  | ';', _ => some .semi
  | '.', _ => some .dot
  | '%', _ => some .percent
  | '+', _ => some .plus
  | '-', _ => some .minus
  | '*', _ => some .star
  | '/', _ => some .slash
  | _, _ => none

/-- The token that begins with a character, and how many of the characters behind it belong to
it. -/
def lexeme (c : Char) (rest : List Char) : Except Fault (Lexeme × Nat) :=
  if c = '"' then
    match stringBody rest with
    | some (text, used) => pure (.text (String.ofList text), used)
    | none => throw .unterminatedString
  else if c.isDigit then do
    let (value, used) ← number (c :: rest)
    pure (value, used - 1)
  else if beginsWord c then
    let more := rest.takeWhile continuesWord
    pure (.word (String.ofList (c :: more)), more.length)
  else
    match symbol? c rest.head? with
    | some s => pure (.symbol s, s.spelling.length - 1)
    | none => throw (.unexpectedChar c)

/-- The tokens of a text that begins at a position. -/
def scanFrom (pos : Pos) (cs : List Char) : Except ParseError TokenList :=
  let skipped := triviaLength false cs
  let pos := pos.afterAll (cs.take skipped)
  match h : cs.drop skipped with
  | [] => pure ⟨[], pos⟩
  | c :: rest =>
    have shorter : rest.length < cs.length := by
      have := congrArg List.length h
      simp only [List.length_drop, List.length_cons] at this
      omega
    match lexeme c rest with
    | .error fault => throw ⟨fault, pos⟩
    | .ok (lex, used) => do
      let more ← scanFrom ((pos.after c).afterAll (rest.take used)) (rest.drop used)
      pure { more with tokens := ⟨lex, pos⟩ :: more.tokens }
termination_by cs.length
decreasing_by
  simp only [List.length_drop]
  omega

def scan (text : String) : Except ParseError TokenList := scanFrom .start text.toList

end Skirmish.Script
