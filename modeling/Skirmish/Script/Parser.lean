import Skirmish.Script.Scan

/-!
# Parsers

A parser reads from the front of a list of tokens and gives back what is left. The first error ends
the reading. A repetition has at most one step more than there are tokens, so every parser ends.
-/

namespace Skirmish.Script

abbrev Parser (α : Type) := StateT TokenList (Except ParseError) α

namespace Parser

variable {α σ : Type}

/-! ## The next token -/

def peek? : Parser (Option Lexeme) := return (← get).tokens.head?.map Token.lexeme

/-- The position of the next token, or of the end. -/
def here : Parser Pos := do
  let input ← get
  return (input.tokens.head?.map Token.pos).getD input.finish

/-- Passes the next token over. -/
def skip : Parser Unit := modify fun input => { input with tokens := input.tokens.tail }

/-- Passes all tokens over that the text has at this point and that are to be passed over. -/
def skipAll (passes : Lexeme → Bool) : Parser Unit :=
  modify fun input => { input with tokens := input.tokens.dropWhile fun t => passes t.lexeme }

/-! ## Errors -/

/-- A fault at a position. -/
def failAt (pos : Pos) (fault : Fault) : Parser α := throw ⟨fault, pos⟩

/-- A fault at the next token. -/
def fail (fault : Fault) : Parser α := do failAt (← here) fault

/-- The next token is not what was expected. -/
def unexpected (expected : String) : Parser α := do fail (.unexpected expected (← peek?))

/-- What `p` reads, or nothing, with no token taken, if it fails or rejects. -/
def attempt (p : Parser (Option α)) : Parser (Option α) := fun input =>
  match p input with
  | .ok (some a, rest) => .ok (some a, rest)
  | _ => .ok (none, input)

/-! ## Single tokens -/

/-- Takes a token that `f` knows. -/
def take? (f : Lexeme → Option α) : Parser (Option α) := do
  match (← peek?).bind f with
  | some a => skip; return some a
  | none => return none

/-- Takes a token that `f` knows; any other is an error. -/
def take (what : String) (f : Lexeme → Option α) : Parser α := do
  match ← take? f with
  | some a => return a
  | none => unexpected what

/-- Takes a token if it is next. -/
def eat (lex : Lexeme) : Parser Bool :=
  return (← take? fun l => if l = lex then some () else none).isSome

def eatWord (w : String) : Parser Bool := eat (.word w)

def eatSymbol (s : Symbol) : Parser Bool := eat (.symbol s)

/-- Takes a token that has to be next. -/
def expect (lex : Lexeme) (what : String) : Parser Unit := do
  if !(← eat lex) then unexpected what

def expectWord (w : String) : Parser Unit := expect (.word w) (Lexeme.word w).describe

def expectSymbol (s : Symbol) : Parser Unit := expect (.symbol s) (Lexeme.symbol s).describe

def word? : Lexeme → Option String
  | .word w => some w
  | _ => none

def text? : Lexeme → Option String
  | .text s => some s
  | _ => none

def int? : Lexeme → Option Int64
  | .int n => some n
  | _ => none

def word (what : String) : Parser String := take what word?

def text (what : String) : Parser String := take what text?

/-- Takes a name of a variable: a word or a string. -/
def varName : Parser String := take "a variable name" fun l => word? l <|> text? l

/-- Takes an integer, perhaps with a minus in front. -/
def integer (what : String) : Parser Int64 := do
  let negative ← eatSymbol .minus
  let n ← take what int?
  return if negative then -n else n

/-- Takes a word that is a name of something. -/
def named (what : String) (ofName? : String → Option α) : Parser α := do
  let pos ← here
  let w ← word what
  match ofName? w with
  | some a => return a
  | none => failAt pos (.invalidName w what)

/-! ## Repetition -/

/-- Takes at most `n` steps from a state, until a step gives none. -/
def stepsWithin (step : σ → Parser (Option σ)) : Nat → σ → Parser σ
  | 0, s => return s
  | n + 1, s => do
    match ← step s with
    | none => return s
    | some next => stepsWithin step n next

/-- Takes steps from a state until a step gives none. Every step before that takes a token, so their
number is bounded by that of the tokens. -/
def steps (step : σ → Parser (Option σ)) (s : σ) : Parser σ := do
  stepsWithin step ((← get).tokens.length + 1) s

/-- Reads one after the other until `item` gives none. -/
def many (item : Parser (Option α)) : Parser (List α) :=
  List.reverse <$> steps (fun items => (·.map (· :: items)) <$> item) []

/-- Reads at most `left` more operators with their right operands; operators bind to the left. -/
def links (operator : Parser (Option (α → α → α))) (operand : Parser α) :
    Nat → α → Parser α
  | left, lhs => do
    match ← operator with
    | none => return lhs
    | some combine =>
      match left with
      | 0 => fail .chainTooLong
      | left + 1 => links operator operand left (combine lhs (← operand))

/-- Reads operands with operators of one level between them. -/
def chain (operator : Parser (Option (α → α → α))) (operand : Parser α) : Parser α := do
  links operator operand maxNesting (← operand)

/-- What stands where the nesting is exhausted. -/
def tooDeep : Parser α := fail .tooDeep

/-- Reads a whole text. -/
def parseText (p : Parser α) (text : String) : Except ParseError α := do
  let (a, rest) ← p (← scan text)
  match rest.tokens with
  | [] => return a
  | t :: _ => throw ⟨.unexpected "end of input" t.lexeme, t.pos⟩

end Parser

end Skirmish.Script
