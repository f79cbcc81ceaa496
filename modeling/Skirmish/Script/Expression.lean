import Skirmish.Script.Parser
import Skirmish.Script.Syntax

/-!
# Reading expressions and conditions

Products bind tighter than sums, `and` binds tighter than `or`, and operators of one level go from
left to right. Parentheses, `-` and `not` nest; the number of levels left goes down with each.

A parenthesis in a condition may hold a condition or begin an expression. It holds a condition if
one can be read and no operator follows.
-/

namespace Skirmish.Script

open Script.Parser

/-! ## Units -/

def refWords : List String := ["self", "caster", "target", "it", "unit"]

/-- Whether the next token begins the name of a unit. -/
def atRef : Parser Bool :=
  return ((← peek?).bind word?).any refWords.contains

def reference : Parser Ref := do
  let pos ← here
  let w ← word "a unit reference (self, target, it or unit \"id\")"
  match w with
  | "self" | "caster" => return .caster
  | "target" => return .target
  | "it" => return .it
  | "unit" => return .unit (← text "a unit id")
  | _ => failAt pos (.unexpected "a unit reference" (some (.word w)))

/-! ## Expressions -/

/-- The operator of a sum. -/
def additive? : Lexeme → Option BinOp
  | .symbol .plus => some .add
  | .symbol .minus => some .sub
  | _ => none

/-- The operator of a product. -/
def multiplicative? : Lexeme → Option BinOp
  | .symbol .star => some .mul
  | .symbol .slash => some .div
  | _ => none

/-- Sums of products of operands. -/
def sum (operand : Parser Expr) : Parser Expr :=
  chain (take? fun l => (additive? l).map Expr.bin)
    (chain (take? fun l => (multiplicative? l).map Expr.bin) operand)

/-- The value that a token stands for by itself. -/
def literal? : Lexeme → Option Value
  | .int n => some (.int n)
  | .float x => some (.float x)
  | .text s => some (.text s)
  | .word "true" => some (.bool true)
  | .word "false" => some (.bool false)
  | _ => none

/-- An operand of arithmetic. Operands one level deeper are read by `inner`. -/
def operand (inner : Parser Expr) : Parser Expr := do
  if ← eatSymbol .minus then return .neg (← inner)
  else if ← eatSymbol .lparen then
    let e ← sum inner
    expectSymbol .rparen
    return e
  else if let some v ← take? literal? then return .lit v
  else if ← eatWord "turn" then return .turn
  else if ← eatWord "global" then
    expectSymbol .dot
    return .globalVar (← varName)
  else if ← atRef then
    let ref ← reference
    expect (.symbol .dot) "`.` after a unit reference"
    return .unitVar ref (← varName)
  else unexpected "an expression"

/-- An operand with a number of levels left. -/
def operandWithin : Nat → Parser Expr
  | 0 => operand tooDeep
  | levels + 1 => operand (operandWithin levels)

/-- An expression with a number of levels left. -/
def expr (levels : Nat) : Parser Expr := sum (operandWithin levels)

def literal : Parser Value := do
  let pos ← here
  let negative ← eatSymbol .minus
  let rejected : Parser Value := unexpected "a literal value"
  match ← peek? with
  | some (.int n) => skip; return .int (if negative then -n else n)
  | some (.float x) => skip; return .float (if negative then -x else x)
  | some (.symbol .lparen) =>
    if negative then rejected
    else
      skip
      let x ← integer "an x coordinate"
      expectSymbol .comma
      let y ← integer "a y coordinate"
      expectSymbol .rparen
      if x.toInt32.toInt64 = x ∧ y.toInt32.toInt64 = y then return .coord ⟨x.toInt32, y.toInt32⟩
      else failAt pos .coordinateRange
  | some l =>
    match literal? l with
    | some v => if negative then rejected else skip; return v
    | none => rejected
  | none => rejected

/-! ## Conditions -/

/-- A comparison. -/
def comparison? : Lexeme → Option CmpOp
  | .symbol .lt => some .lt
  | .symbol .le => some .le
  | .symbol .gt => some .gt
  | .symbol .ge => some .ge
  | .symbol .eqEq => some .eq
  | .symbol .notEq => some .ne
  | _ => none

/-- Whether a token is an operator between expressions. -/
def isOperator (l : Lexeme) : Bool :=
  (additive? l).isSome || (multiplicative? l).isSome || (comparison? l).isSome

/-- `or` between `and` between conditions. -/
def disjunction (operand : Parser Cond) : Parser Cond :=
  let joined (w : String) (f : Cond → Cond → Cond) : Parser (Option (Cond → Cond → Cond)) :=
    return if ← eatWord w then some f else none
  chain (joined "or" .or) (chain (joined "and" .and) operand)

/-- The rest of a test for a tag. -/
def tagTest : Parser String := do
  expectWord "tag"
  text "a tag string"

/-- A test whether a unit has a tag. -/
def hasTag? : Parser (Option Cond) := do
  if !(← atRef) then return none
  let start ← get
  let ref ← reference
  if ← eatWord "has" then return some (.hasTag ref (← tagTest))
  else
    set start
    return none

/-- A test whether the battle as a whole has a tag. -/
def globalHasTag? : Parser (Option Cond) := do
  let next := (← get).tokens.map Token.lexeme
  if next.take 2 = [.word "global", .word "has"] then
    skip
    skip
    return some (.globalHasTag (← tagTest))
  else return none

/-- A condition in parentheses. -/
def grouped? (inner : Parser Cond) : Parser (Option Cond) := do
  if !(← eatSymbol .lparen) then return none
  let c ← inner
  if (← eatSymbol .rparen) && !(← peek?).any isOperator then return some c else return none

/-- An operand of a condition. Operands one level deeper are read by `inner`. -/
def condOperand (levels : Nat) (inner : Parser Cond) : Parser Cond := do
  let pos ← here
  if ← eatWord "not" then return .not (← inner)
  else if ← eatWord "chance" then
    let percent ← expr levels
    expectSymbol .percent
    return .chance ⟨percent, pos⟩
  else if let some c ← globalHasTag? then return c
  else if let some c ← hasTag? then return c
  else if let some c ← attempt (grouped? (disjunction inner)) then return c
  else
    let lhs ← expr levels
    match ← take? comparison? with
    | some op => return .cmp op lhs (← expr levels)
    | none => return .truthy lhs

/-- An operand of a condition with a number of levels left. -/
def condOperandWithin : Nat → Parser Cond
  | 0 => condOperand 0 tooDeep
  | levels + 1 => condOperand (levels + 1) (condOperandWithin levels)

/-- A condition with a number of levels left. -/
def condition (levels : Nat) : Parser Cond := disjunction (condOperandWithin levels)

end Skirmish.Script
