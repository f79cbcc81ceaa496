import Skirmish.Script.Statement

/-!
# Reading scripts and roles

A script is a list of metadata and statements in any order, with semicolons between them as one
likes. A role has a name, an id and sections, each at most once.
-/

namespace Skirmish.Script

open Script.Parser

/-! ## Scripts -/

/-- The metadata that a word begins, and the number it gives if it gives one. -/
def metaTail (w : String) : Parser (Meta × Option Int64) := do
  let number (what : String) (f : Int64 → Meta) : Parser (Meta × Option Int64) := do
    let n ← integer what
    return (f n, some n)
  match w with
  | "range" => number "a range" .range
  | "min_range" => number "a minimum range" .minRange
  | "cooldown" => number "a cooldown" .cooldown
  | "sealed_until" => number "a turn number" .sealedUntil
  | "targeting" => return (.targeting (← named "targeting mode" Targeting.ofName?), none)
  | "distance" => return (.distance (← named "distance metric" Metric.ofName?), none)
  | _ => return (.endsTurn, none)

/-- Metadata, if some is next. Its number must not be negative. -/
def metadata? : Parser (Option (Located Meta)) := do
  let pos ← here
  match ← take? fun l => (word? l).filter metaWords.contains with
  | none => return none
  | some w =>
    let (m, number) ← metaTail w
    if number.any (· < 0) then failAt pos (.negativeMeta w) else return some ⟨m, pos⟩

/-- A piece of a script. -/
inductive Piece where
  | declaration (m : Located Meta)
  | statement (s : Located Stmt)

def Piece.declaration? : Piece → Option (Located Meta)
  | declaration m => some m
  | statement _ => none

def Piece.statement? : Piece → Option (Located Stmt)
  | declaration _ => none
  | statement s => some s

/-- One more piece of a script, up to a closing brace if the script stands in braces. -/
def scriptPiece (braced : Bool) : Parser (Option Piece) := do
  skipSemicolons
  match ← peek? with
  | none => return none
  | some l =>
    if braced ∧ l = .symbol .rbrace then return none
    else if let some m ← metadata? then return some (.declaration m)
    else return some (.statement (← statementWithin maxNesting))

/-- A script, up to a closing brace if it stands in braces, or to the end. -/
def script (braced : Bool) : Parser Script := do
  let pieces ← many (scriptPiece braced)
  return {
    metas := pieces.filterMap Piece.declaration?
    stmts := pieces.filterMap Piece.statement? }

def parseScript (text : String) : Except ParseError Script := parseText (script false) text

/-! ## Roles -/

/-- Items in braces, with tokens between them that are passed over. -/
def bracedItems {α : Type} (separator : Lexeme → Bool) (item : List α → Parser α) :
    Parser (List α) := do
  expectSymbol .lbrace
  steps (fun items => do
    skipAll separator
    if (← peek?) = some (.symbol .rbrace) then return none
    else return some (items ++ [← item items])) []
  <* skip

/-- Whether a token stands between variables or tags of a role. -/
def isSeparator (l : Lexeme) : Bool := l = .symbol .semi || l = .symbol .comma

/-- A variable of a role. -/
def roleVar : Parser (String × Value) := do
  let name ← varName
  expectSymbol .assign
  return (name, ← literal)

/-- A skill of a role, after the skills before it. -/
def roleSkill (earlier : List SkillSource) : Parser SkillSource := do
  expectWord "skill"
  let pos ← here
  let name ← text "a skill name"
  if earlier.any (·.name.node == name) then failAt pos (.duplicateSkill name)
  else
    expectSymbol .lbrace
    let script ← script true
    expectSymbol .rbrace
    return ⟨⟨name, pos⟩, script⟩

/-- The rest of the section of a role that begins with a word, if any does. -/
def sectionTail? (r : RoleSource) : String → Option (Parser RoleSource)
  | "description" => some do
    return { r with description := ← text "a description string" }
  | "vars" => some do
    return { r with vars := ← bracedItems isSeparator fun _ => roleVar }
  | "tags" => some do
    return { r with tags := ← bracedItems isSeparator fun _ => text "a tag string" }
  | "skills" => some do
    return { r with skills := ← bracedItems (· = .symbol .semi) roleSkill }
  | _ => none

/-- One more section of a role, and the words of the sections so far. -/
def roleSection (state : List String × RoleSource) :
    Parser (Option (List String × RoleSource)) := do
  let (seen, r) := state
  skipSemicolons
  if (← peek?) = some (.symbol .rbrace) then return none
  else
    let pos ← here
    let w ← word "a role section"
    if seen.contains w then failAt pos (.duplicateSection w)
    else
      match sectionTail? r w with
      | none => failAt pos (.unknownSection w)
      | some tail => return some (w :: seen, ← tail)

def role : Parser RoleSource := do
  expectWord "role"
  let name ← text "a role name"
  expectWord "id"
  let id ← text "a role id"
  expectSymbol .lbrace
  let (_, r) ← steps roleSection ([], { name, id })
  skip
  skipSemicolons
  return r

def parseRole (text : String) : Except ParseError RoleSource := parseText role text

end Skirmish.Script
