import Skirmish.Script.Expression

/-!
# Reading statements

Every statement begins with a word of its own. A body is a single statement or a block in braces;
each statement of a body lies one level deeper than the statement it belongs to.
-/

namespace Skirmish.Script

open Script.Parser

/-! ## Parts of statements -/

/-- The kind of damage in front of an amount; physical if none is given. -/
def damageKind : Parser DamageKind := do
  let kind ← take? fun l => DamageKind.all.find? fun k => l = .word k.name
  return kind.getD .physical

/-- A place given by two expressions, after its opening parenthesis. -/
def pointTail (levels : Nat) : Parser (Expr × Expr) := do
  let x ← expr levels
  expectSymbol .comma
  let y ← expr levels
  expectSymbol .rparen
  return (x, y)

/-- Where a statement changes variables or tags. -/
def scope (levels : Nat) : Parser Scope := do
  if ← eatWord "global" then return .global
  else if ← eatWord "tile" then
    if ← eatWord "at" then return .tileAt (← reference)
    else
      expect (.symbol .lparen) "`(` or `at`"
      let (x, y) ← pointTail levels
      return .tile x y
  else return .unit (← reference)

/-- Where a unit moves. -/
def destination (levels : Nat) : Parser Destination := do
  if ← eatSymbol .lparen then
    let (x, y) ← pointTail levels
    return .coord x y
  else return .at (← reference)

/-! ## Selectors -/

def direction : Parser Direction := named "direction" Direction.ofName?

/-- Optional parts behind a word each, the last one counting. -/
def optionsOf {σ : Type} (options : List (String × (σ → Parser σ))) (s : σ) : Parser σ :=
  steps (fun s => do
    match ← take? fun l => options.find? fun o => l = .word o.1 with
    | some o => return some (← o.2 s)
    | none => return none) s

/-- A line, after its first word. -/
def lineArea (levels : Nat) : Parser Area := do
  expectWord "length"
  let length ← expr levels
  let (dir, width) ← optionsOf
    [ ("dir", fun s : Option Direction × Option Expr => return (some (← direction), s.2)),
      ("width", fun s => return (s.1, some (← expr levels))) ] (none, none)
  return .line length dir width

/-- A cone, after its first word. -/
def coneArea (levels : Nat) : Parser Area := do
  expectWord "radius"
  let radius ← expr levels
  let (angle, dir) ← optionsOf
    [ ("angle", fun s : Option Expr × Option Direction => return (some (← expr levels), s.2)),
      ("dir", fun s => return (s.1, some (← direction))) ] (none, none)
  return .cone radius angle dir

/-- The units that a selector starts from. -/
def pool : Parser Pool := do
  let pos ← here
  let w ← word "`units`, `enemies` or `allies`"
  match w with
  | "units" => return .units
  | "enemies" => return .enemies
  | "allies" => return .allies
  | _ => failAt pos (.invalidPool w)

/-- A restriction of a selector to a range or an area, after its first word. -/
def restriction (levels : Nat) (pos : Pos) (s : Selector) : Parser Selector := do
  if ← eatWord "range" then
    let s := { s with range := some ⟨← expr levels, pos⟩ }
    if ← eatWord "of" then return { s with anchor := some (← reference) } else return s
  else if ← eatWord "line" then return { s with area := some ⟨← lineArea levels, pos⟩ }
  else if ← eatWord "cone" then return { s with area := some ⟨← coneArea levels, pos⟩ }
  else unexpected "`range`, `line` or `cone`"

/-- One option of a selector, if there is one more. -/
def selectorOption (levels : Nat) (s : Selector) : Parser (Option Selector) := do
  let pos ← here
  if ← eatWord "nearest" then return some { s with order := some .nearest }
  else if ← eatWord "farthest" then return some { s with order := some .farthest }
  else if ← eatWord "limit" then return some { s with limit := some ⟨← expr levels, pos⟩ }
  else if ← eatWord "with" then return some { s with withTags := s.withTags ++ [← tagTest] }
  else if ← eatWord "in" then return some (← restriction levels pos s)
  else return none

/-- Which units a loop goes through. -/
def selector (levels : Nat) : Parser (Located Selector) := do
  let pos ← here
  let pool ← pool
  return ⟨← steps (selectorOption levels) { pool }, pos⟩

/-! ## Bodies -/

/-- Passes over semicolons. -/
def skipSemicolons : Parser Unit := skipAll (· = .symbol .semi)

/-- A block in braces, whose statements are read by `inner`. -/
def bracedBlock (inner : Parser (Located Stmt)) : Parser Block := do
  let pos ← here
  expectSymbol .lbrace
  let stmts ← many do
    skipSemicolons
    match ← peek? with
    | some (.symbol .rbrace) => return none
    | some _ => return some (← inner)
    | none => unexpected "`\x7d`"
  skip
  return .mk true pos stmts

/-- A body whose statements are read by `inner`. -/
def body (inner : Parser (Located Stmt)) : Parser Block := do
  if (← peek?) = some (.symbol .lbrace) then bracedBlock inner
  else
    let pos ← here
    return .mk false pos [← inner]

/-- The body behind `else`. -/
def elseBody (inner : Parser (Located Stmt)) : Parser (Option Block) := do
  if ← eatWord "else" then return some (← body inner) else return none

/-! ## Statements -/

/-- The words that begin metadata. -/
def metaWords : List String :=
  ["range", "min_range", "cooldown", "targeting", "distance", "sealed_until", "ends_turn"]

/-- A variable that a statement names. -/
def variableName : Parser String := do
  expectWord "var"
  text "a variable name"

/-- The rest of the statement that begins with a word, if any does. -/
def statementTail? (levels : Nat) (inner : Parser (Located Stmt)) : String → Option (Parser Stmt)
  | "deal" => some do
    let kind ← damageKind
    let amount ← expr levels
    expectWord "damage"
    expectWord "to"
    return .deal kind amount (← reference)
  | "heal" => some do
    let amount ← expr levels
    expectWord "to"
    return .heal amount (← reference)
  | "move" => some do
    let unit ← reference
    expectWord "to"
    return .move unit (← destination levels)
  | "dash" => some do
    expectWord "towards"
    let goal ← reference
    expectWord "up"
    expectWord "to"
    return .dash goal (← expr levels)
  | "line" => some do
    let kind ← damageKind
    let amount ← expr levels
    expectWord "to"
    let goal ← reference
    expectWord "length"
    let length ← expr levels
    let radius ← if ← eatWord "radius" then expr levels else pure (.lit (.int 0))
    return .line kind amount goal length radius
  | "set" => some do
    let scope ← scope levels
    let name ← variableName
    expectSymbol .assign
    return .setVar scope name (← expr levels)
  | "add" => some do
    let scope ← scope levels
    if ← eatWord "tag" then return .addTag scope (← text "a tag string")
    else
      let name ← variableName
      expectWord "by"
      return .addVar scope name (← expr levels)
  | "remove" => some do
    let scope ← scope levels
    if ← eatWord "tag" then return .removeTag scope (← text "a tag string")
    else return .removeVar scope (← variableName)
  | "consume" => some do
    expectWord "mp"
    expectSymbol .assign
    return .consumeMp (← expr levels)
  | "if" => some do
    let cond ← condition levels
    expectWord "then"
    let yes ← body inner
    return .branch cond yes (← elseBody inner)
  | "repeat" => some do
    let times ← expr levels
    expectWord "times"
    return .repeat times (← body inner)
  | "parallel" => some do
    return .parallel (← bracedBlock inner)
  | "for" => some do
    expectWord "each"
    let selector ← selector levels
    expectWord "do"
    return .forEach selector (← body inner)
  | "chance" => some do
    let percent ← expr levels
    expectSymbol .percent
    expectWord "then"
    let yes ← body inner
    return .chance percent yes (← elseBody inner)
  | _ => none

/-- A statement. Statements one level deeper are read by `inner`. -/
def statement (levels : Nat) (inner : Parser (Located Stmt)) : Parser (Located Stmt) := do
  let pos ← here
  match (← peek?).bind word? with
  | none => unexpected "a statement"
  | some w =>
    if metaWords.contains w then fail (.nestedMeta w)
    else
      match statementTail? levels inner w with
      | none => fail (.unknownStatement w)
      | some tail =>
        skip
        return ⟨← tail, pos⟩

/-- A statement with a number of levels left. -/
def statementWithin : Nat → Parser (Located Stmt)
  | 0 => statement 0 tooDeep
  | levels + 1 => statement (levels + 1) (statementWithin levels)

end Skirmish.Script
