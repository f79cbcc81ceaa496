import Skirmish.Script.Document

/-!
# Writing scripts

How a script is written: metadata first and then the statements, each as its own words ask for.
Where an operand has operators of its own it stands in parentheses; a style tells where else
parentheses stand, and whatever else the grammar leaves open.

Positions do not matter to what is written, so scripts are compared without them (`unplaced`).
-/

namespace Skirmish.Script

/-! ## Styles -/

/-- The modifiers of a selector, by kind. -/
inductive ModifierKind where
  | order | limit | range | tags | area
  deriving DecidableEq

def ModifierKind.all : List ModifierKind := [order, limit, range, tags, area]

/-- What a writer may choose. -/
structure Style where
  /-- Whether the caster is called `caster` rather than `self`. -/
  saysCaster : Bool
  /-- Whether an operand that needs no parentheses has some. -/
  enclosed : Expr → Bool
  /-- Whether an expression that is no operand has parentheses. -/
  enclosedWhole : Expr → Bool
  /-- Whether a condition behind `not`, `and` or `or` that needs no parentheses has some. -/
  enclosedCond : Cond → Bool
  /-- Whether the condition of a statement has parentheses. -/
  enclosedTest : Cond → Bool
  /-- The order of the modifiers of a selector. -/
  order : List ModifierKind
  order_perm : order.Perm ModifierKind.all
  /-- The number of semicolons behind each declaration and statement. -/
  semicolons : Nat

namespace Style

variable (style : Style)

/-! ## Expressions -/

def ref : Ref → List Lexeme
  | .caster => [.word (if style.saysCaster then "caster" else "self")]
  | .target => [.word "target"]
  | .it => [.word "it"]
  | .unit id => [.word "unit", .text id]

end Style

/-- A literal; places have none. -/
def literalLexemes : Value → List Lexeme
  | .int n => [.int n]
  | .float x => [.float x]
  | .text s => [.text s]
  | .bool b => [.word (if b then "true" else "false")]
  | .coord _ => []

def BinOp.symbol : BinOp → Symbol
  | add => .plus
  | sub => .minus
  | mul => .star
  | div => .slash

def CmpOp.symbol : CmpOp → Symbol
  | lt => .lt
  | le => .le
  | gt => .gt
  | ge => .ge
  | eq => .eqEq
  | ne => .notEq

/-- Lexemes in parentheses, if they are to have some. -/
def enclose (enclosed : Bool) (ls : List Lexeme) : List Lexeme :=
  if enclosed then .symbol .lparen :: (ls ++ [.symbol .rparen]) else ls

/-- Whether an expression may be an operand only in parentheses. -/
def Expr.isBin : Expr → Bool
  | bin .. => true
  | _ => false

/-- Whether a condition may stand behind `not`, `and` and `or` only in parentheses. -/
def Cond.isJoined : Cond → Bool
  | and .. | or .. => true
  | _ => false

namespace Style

variable (style : Style)

def encloses (e : Expr) : Bool := e.isBin || style.enclosed e

def enclosesCond (c : Cond) : Bool := c.isJoined || style.enclosedCond c

def expr : Expr → List Lexeme
  | .lit v => literalLexemes v
  | .unitVar ref name => style.ref ref ++ [.symbol .dot, .text name]
  | .globalVar name => [.word "global", .symbol .dot, .text name]
  | .turn => [.word "turn"]
  | .neg e => .symbol .minus :: enclose (style.encloses e) (expr e)
  | .bin op lhs rhs =>
    enclose (style.encloses lhs) (expr lhs) ++
      .symbol op.symbol :: enclose (style.encloses rhs) (expr rhs)

def operand (e : Expr) : List Lexeme := enclose (style.encloses e) (style.expr e)

/-- An expression that is no operand. -/
def whole (e : Expr) : List Lexeme := enclose (style.enclosedWhole e) (style.expr e)

/-! ## Conditions -/

def tagTest (tag : String) : List Lexeme := [.word "tag", .text tag]

def cond : Cond → List Lexeme
  | .cmp op lhs rhs => style.operand lhs ++ .symbol op.symbol :: style.operand rhs
  | .truthy e => style.whole e
  | .hasTag ref tag => style.ref ref ++ .word "has" :: tagTest tag
  | .globalHasTag tag => .word "global" :: .word "has" :: tagTest tag
  | .chance percent => .word "chance" :: (style.whole percent.node ++ [.symbol .percent])
  | .not c => .word "not" :: enclose (style.enclosesCond c) (cond c)
  | .and lhs rhs =>
    enclose (style.enclosesCond lhs) (cond lhs) ++
      .word "and" :: enclose (style.enclosesCond rhs) (cond rhs)
  | .or lhs rhs =>
    enclose (style.enclosesCond lhs) (cond lhs) ++
      .word "or" :: enclose (style.enclosesCond rhs) (cond rhs)

def condOperand (c : Cond) : List Lexeme := enclose (style.enclosesCond c) (style.cond c)

/-! ## Parts of statements -/

/-- The condition of a statement. -/
def test (c : Cond) : List Lexeme := enclose (style.enclosedTest c) (style.cond c)

/-- A place given by two expressions. -/
def point (x y : Expr) : List Lexeme :=
  .symbol .lparen :: (style.whole x ++ .symbol .comma :: (style.whole y ++ [.symbol .rparen]))

def scope : Scope → List Lexeme
  | .unit ref => style.ref ref
  | .tile x y => .word "tile" :: style.point x y
  | .tileAt ref => .word "tile" :: .word "at" :: style.ref ref
  | .global => [.word "global"]

def destination : Destination → List Lexeme
  | .coord x y => style.point x y
  | .at ref => style.ref ref

/-- An optional part behind a word. -/
def optional {α : Type} (word : String) (write : α → List Lexeme) : Option α → List Lexeme
  | some a => .word word :: write a
  | none => []

def direction (d : Direction) : List Lexeme := [.word d.name]

def area : Area → List Lexeme
  | .line length dir width =>
    .word "line" :: .word "length" ::
      (style.whole length ++ (optional "dir" direction dir ++ optional "width" style.whole width))
  | .cone radius angle dir =>
    .word "cone" :: .word "radius" ::
      (style.whole radius ++ (optional "angle" style.whole angle ++ optional "dir" direction dir))

end Style

def Pool.name : Pool → String
  | units => "units"
  | enemies => "enemies"
  | allies => "allies"

def Order.name : Order → String
  | nearest => "nearest"
  | farthest => "farthest"

/-- One modifier of a selector. -/
inductive Modifier where
  | order (o : Order)
  | limit (e : Located Expr)
  | range (e : Located Expr) (anchor : Option Ref)
  | tag (t : String)
  | area (a : Located Area)

/-- The modifiers of a kind that make up a selector. An anchor alone is no modifier. -/
def Selector.modifiers (s : Selector) : ModifierKind → List Modifier
  | .order => s.order.toList.map .order
  | .limit => s.limit.toList.map .limit
  | .range => s.range.toList.map fun e => .range e s.anchor
  | .tags => s.withTags.map .tag
  | .area => s.area.toList.map .area

namespace Style

variable (style : Style)

def modifier : Modifier → List Lexeme
  | .order o => [.word o.name]
  | .limit e => .word "limit" :: style.whole e.node
  | .range e anchor =>
    .word "in" :: .word "range" :: (style.whole e.node ++ optional "of" style.ref anchor)
  | .tag t => .word "with" :: tagTest t
  | .area a => .word "in" :: style.area a.node

def selector (s : Selector) : List Lexeme :=
  .word s.pool.name :: (style.order.flatMap s.modifiers).flatMap style.modifier

/-! ## Statements -/

/-- A variable that a statement names. -/
def variableName (name : String) : List Lexeme := [.word "var", .text name]

/-- The semicolons behind a declaration or a statement. -/
def separator : List Lexeme := List.replicate style.semicolons (.symbol .semi)

mutual

@[simp] def stmt : Stmt → List Lexeme
  | .deal kind amount who =>
    .word "deal" :: .word kind.name ::
      (style.whole amount ++ .word "damage" :: .word "to" :: style.ref who)
  | .heal amount who => .word "heal" :: (style.whole amount ++ .word "to" :: style.ref who)
  | .move unit goal => .word "move" :: (style.ref unit ++ .word "to" :: style.destination goal)
  | .dash who steps =>
    .word "dash" :: .word "towards" ::
      (style.ref who ++ .word "up" :: .word "to" :: style.whole steps)
  | .line kind amount who length radius =>
    .word "line" :: .word kind.name :: (style.whole amount ++ .word "to" :: (style.ref who ++
      .word "length" :: (style.whole length ++ .word "radius" :: style.whole radius)))
  | .setVar scope name value =>
    .word "set" ::
      (style.scope scope ++ (variableName name ++ .symbol .assign :: style.whole value))
  | .addVar scope name delta =>
    .word "add" :: (style.scope scope ++ (variableName name ++ .word "by" :: style.whole delta))
  | .removeVar scope name => .word "remove" :: (style.scope scope ++ variableName name)
  | .addTag scope tag => .word "add" :: (style.scope scope ++ tagTest tag)
  | .removeTag scope tag => .word "remove" :: (style.scope scope ++ tagTest tag)
  | .consumeMp amount => .word "consume" :: .word "mp" :: .symbol .assign :: style.whole amount
  | .branch cond yes no =>
    .word "if" :: (style.test cond ++ .word "then" :: (block yes ++ elseBlock no))
  | .repeat times body => .word "repeat" :: (style.whole times ++ .word "times" :: block body)
  | .parallel body => .word "parallel" :: block body
  | .forEach selector body =>
    .word "for" :: .word "each" :: (style.selector selector.node ++ .word "do" :: block body)
  | .chance percent yes no =>
    .word "chance" :: (style.whole percent ++
      .symbol .percent :: .word "then" :: (block yes ++ elseBlock no))

@[simp] def block : Block → List Lexeme
  | .mk _ _ l => .symbol .lbrace :: (stmts l ++ [.symbol .rbrace])

@[simp] def elseBlock : Option Block → List Lexeme
  | some b => .word "else" :: block b
  | none => []

@[simp] def stmts : List (Located Stmt) → List Lexeme
  | [] => []
  | ⟨s, _⟩ :: rest => stmt s ++ (style.separator ++ stmts rest)

end

/-! ## Scripts -/

def declaration : Meta → List Lexeme
  | .range n => [.word "range", .int n]
  | .minRange n => [.word "min_range", .int n]
  | .cooldown n => [.word "cooldown", .int n]
  | .targeting t => [.word "targeting", .word t.name]
  | .distance m => [.word "distance", .word m.name]
  | .sealedUntil n => [.word "sealed_until", .int n]
  | .endsTurn => [.word "ends_turn"]

def script (s : Script) : List Lexeme :=
  s.metas.flatMap (fun m => declaration m.node ++ style.separator) ++ style.stmts s.stmts

end Style

/-! ## What can be written

Places are no literals of scripts. Blocks are written in braces, and what a range is measured from
is written behind the range.
-/

def Expr.isWritable : Expr → Bool
  | lit (.coord _) => false
  | neg e => e.isWritable
  | bin _ lhs rhs => lhs.isWritable && rhs.isWritable
  | lit _ | unitVar .. | globalVar _ | turn => true

def Cond.isWritable : Cond → Bool
  | cmp _ lhs rhs => lhs.isWritable && rhs.isWritable
  | truthy e => e.isWritable
  | chance percent => percent.node.isWritable
  | not c => c.isWritable
  | and lhs rhs | or lhs rhs => lhs.isWritable && rhs.isWritable
  | hasTag .. | globalHasTag _ => true

def Scope.isWritable : Scope → Bool
  | tile x y => x.isWritable && y.isWritable
  | unit _ | tileAt _ | global => true

def Destination.isWritable : Destination → Bool
  | coord x y => x.isWritable && y.isWritable
  | .at _ => true

def Area.isWritable : Area → Bool
  | line length _ width => length.isWritable && width.all Expr.isWritable
  | cone radius angle _ => radius.isWritable && angle.all Expr.isWritable

def Selector.isWritable (s : Selector) : Bool :=
  s.limit.all (·.node.isWritable) && s.range.all (·.node.isWritable) &&
    s.area.all (·.node.isWritable) && (s.anchor.isNone || s.range.isSome)

mutual

@[simp] def stmtIsWritable : Stmt → Bool
  | .deal _ amount _ | .heal amount _ | .consumeMp amount => amount.isWritable
  | .move _ goal => goal.isWritable
  | .dash _ steps => steps.isWritable
  | .line _ amount _ length radius =>
    amount.isWritable && length.isWritable && radius.isWritable
  | .setVar scope _ value => scope.isWritable && value.isWritable
  | .addVar scope _ delta => scope.isWritable && delta.isWritable
  | .removeVar scope _ | .addTag scope _ | .removeTag scope _ => scope.isWritable
  | .branch cond yes no => cond.isWritable && blockIsWritable yes && elseIsWritable no
  | .repeat times body => times.isWritable && blockIsWritable body
  | .parallel body => blockIsWritable body
  | .forEach selector body => selector.node.isWritable && blockIsWritable body
  | .chance percent yes no => percent.isWritable && blockIsWritable yes && elseIsWritable no

@[simp] def blockIsWritable : Block → Bool
  | .mk braced _ l => braced && stmtsAreWritable l

@[simp] def elseIsWritable : Option Block → Bool
  | some b => blockIsWritable b
  | none => true

@[simp] def stmtsAreWritable : List (Located Stmt) → Bool
  | [] => true
  | ⟨s, _⟩ :: rest => stmtIsWritable s && stmtsAreWritable rest

end

/-- Numbers of metadata are not negative. -/
def Meta.isWritable : Meta → Bool
  | range n | minRange n | cooldown n | sealedUntil n => 0 ≤ n
  | targeting _ | distance _ | endsTurn => true

def isWritable (s : Script) : Bool :=
  s.metas.all (·.node.isWritable) && stmtsAreWritable s.stmts

/-! ## Nesting

Parentheses, signs, `not` and the statements of a block each lie one level deeper than what they
stand in.
-/

namespace Style

variable (style : Style)

def exprNesting : Expr → Nat
  | .neg e => exprNesting e + (style.encloses e).toNat + 1
  | .bin _ lhs rhs =>
    max (exprNesting lhs + (style.encloses lhs).toNat)
      (exprNesting rhs + (style.encloses rhs).toNat)
  | .lit _ | .unitVar .. | .globalVar _ | .turn => 0

def operandNesting (e : Expr) : Nat := style.exprNesting e + (style.encloses e).toNat

def wholeNesting (e : Expr) : Nat := style.exprNesting e + (style.enclosedWhole e).toNat

def condNesting : Cond → Nat
  | .cmp _ lhs rhs => max (style.operandNesting lhs) (style.operandNesting rhs)
  | .truthy e => style.wholeNesting e
  | .chance percent => style.wholeNesting percent.node
  | .not c => condNesting c + (style.enclosesCond c).toNat + 1
  | .and lhs rhs | .or lhs rhs =>
    max (condNesting lhs + (style.enclosesCond lhs).toNat)
      (condNesting rhs + (style.enclosesCond rhs).toNat)
  | .hasTag .. | .globalHasTag _ => 0

def condOperandNesting (c : Cond) : Nat := style.condNesting c + (style.enclosesCond c).toNat

def testNesting (c : Cond) : Nat := style.condNesting c + (style.enclosedTest c).toNat

def scopeNesting : Scope → Nat
  | .tile x y => max (style.wholeNesting x) (style.wholeNesting y)
  | .unit _ | .tileAt _ | .global => 0

def destinationNesting : Destination → Nat
  | .coord x y => max (style.wholeNesting x) (style.wholeNesting y)
  | .at _ => 0

def optionalNesting (e : Option Expr) : Nat := (e.map style.wholeNesting).getD 0

def areaNesting : Area → Nat
  | .line length _ width => max (style.wholeNesting length) (style.optionalNesting width)
  | .cone radius angle _ => max (style.wholeNesting radius) (style.optionalNesting angle)

def modifierNesting : Modifier → Nat
  | .limit e | .range e _ => style.wholeNesting e.node
  | .area a => style.areaNesting a.node
  | .order _ | .tag _ => 0

def selectorNesting (s : Selector) : Nat :=
  max (style.optionalNesting (s.limit.map Located.node))
    (max (style.optionalNesting (s.range.map Located.node))
      ((s.area.map fun a => style.areaNesting a.node).getD 0))

mutual

@[simp] def stmtNesting : Stmt → Nat
  | .deal _ amount _ | .heal amount _ | .consumeMp amount => style.wholeNesting amount
  | .move _ goal => style.destinationNesting goal
  | .dash _ steps => style.wholeNesting steps
  | .line _ amount _ length radius =>
    max (style.wholeNesting amount) (max (style.wholeNesting length) (style.wholeNesting radius))
  | .setVar scope _ value => max (style.scopeNesting scope) (style.wholeNesting value)
  | .addVar scope _ delta => max (style.scopeNesting scope) (style.wholeNesting delta)
  | .removeVar scope _ | .addTag scope _ | .removeTag scope _ => style.scopeNesting scope
  | .branch cond yes no => max (style.testNesting cond) (max (blockNesting yes) (elseNesting no))
  | .repeat times body => max (style.wholeNesting times) (blockNesting body)
  | .parallel body => blockNesting body
  | .forEach selector body => max (style.selectorNesting selector.node) (blockNesting body)
  | .chance percent yes no =>
    max (style.wholeNesting percent) (max (blockNesting yes) (elseNesting no))

@[simp] def blockNesting : Block → Nat
  | .mk _ _ l => stmtsNesting l

@[simp] def elseNesting : Option Block → Nat
  | some b => blockNesting b
  | none => 0

/-- The nesting of the statements of a block, seen from outside. -/
@[simp] def stmtsNesting : List (Located Stmt) → Nat
  | [] => 0
  | ⟨s, _⟩ :: rest => max (stmtNesting s + 1) (stmtsNesting rest)

end

/-- The nesting of a script, whose own statements stand in no block. -/
def nesting (s : Script) : Nat := style.stmtsNesting s.stmts - 1

end Style

/-! ## Without positions -/

def Located.unplaced {α : Type} (x : Located α) : Located α := ⟨x.node, .start⟩

def Cond.unplaced : Cond → Cond
  | chance percent => chance percent.unplaced
  | not c => not c.unplaced
  | and lhs rhs => and lhs.unplaced rhs.unplaced
  | or lhs rhs => or lhs.unplaced rhs.unplaced
  | c => c

def Selector.unplaced (s : Selector) : Selector :=
  { s with
    limit := s.limit.map Located.unplaced
    range := s.range.map Located.unplaced
    area := s.area.map Located.unplaced }

mutual

@[simp] def unplacedStmt : Stmt → Stmt
  | .branch cond yes no => .branch cond.unplaced (unplacedBlock yes) (unplacedElse no)
  | .repeat times body => .repeat times (unplacedBlock body)
  | .parallel body => .parallel (unplacedBlock body)
  | .forEach selector body => .forEach ⟨selector.node.unplaced, .start⟩ (unplacedBlock body)
  | .chance percent yes no => .chance percent (unplacedBlock yes) (unplacedElse no)
  | s => s

@[simp] def unplacedBlock : Block → Block
  | .mk braced _ l => .mk braced .start (unplacedStmts l)

@[simp] def unplacedElse : Option Block → Option Block
  | some b => some (unplacedBlock b)
  | none => none

@[simp] def unplacedStmts : List (Located Stmt) → List (Located Stmt)
  | [] => []
  | ⟨s, _⟩ :: rest => ⟨unplacedStmt s, .start⟩ :: unplacedStmts rest

end

/-- A script without positions. -/
def unplaced (s : Script) : Script where
  metas := s.metas.map Located.unplaced
  stmts := unplacedStmts s.stmts

end Skirmish.Script
