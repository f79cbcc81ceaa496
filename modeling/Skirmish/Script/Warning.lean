import Skirmish.Script.Document

/-!
# Warnings

Some scripts can be read but are almost surely mistakes: branches that cannot be reached, loops that
do nothing, declarations without effect. Each is told with its position; a warning never changes
what a script does.
-/

namespace Skirmish.Script

/-- Why a script is almost surely mistaken. -/
inductive Warning where
  | unreachableRange (minRange range : Int64)
  | ignoredRange (range : Int64)
  | emptyBlock
  | emptyParallel
  | deadThen (percent : Float)
  | deadElse (percent : Float)
  | sureChance (percent : Float)
  | alwaysFalse (percent : Float)
  | alwaysTrue (percent : Float)
  | noRepetition (times : Int64)
  | cappedRepetition (times : Int64)
  | negativeRange (range : Int64)
  | negativeLimit (limit : Int64)
  | lineWithoutDirection
  | coneWithoutDirection
  | coneWithoutAngle
  deriving DecidableEq

def Warning.message : Warning → String
  | unreachableRange low high =>
    s!"min_range {low.toInt} exceeds range {high.toInt}; no target is reachable"
  | ignoredRange n => s!"range {n.toInt} is ignored by a self-targeted skill"
  | emptyBlock => "empty block"
  | emptyParallel => "empty parallel block"
  | deadThen p => s!"chance {Number.text p}%: then branch is unreachable"
  | deadElse p => s!"chance {Number.text p}%: else branch is unreachable"
  | sureChance p => s!"chance {Number.text p}% always succeeds"
  | alwaysFalse p => s!"chance {Number.text p}% is always false"
  | alwaysTrue p => s!"chance {Number.text p}% is always true"
  | noRepetition n => s!"repeat {n.toInt} times is a no-op"
  | cappedRepetition n => s!"repeat {n.toInt} times runs only {maxRepeat.toInt} times"
  | negativeRange n => s!"negative selector range {n.toInt} matches nothing"
  | negativeLimit n => s!"negative selector limit {n.toInt} matches nothing"
  | lineWithoutDirection => "line shape has no dir; defaults to the caster-to-target direction"
  | coneWithoutDirection => "cone shape has no dir; defaults to the caster-to-target direction"
  | coneWithoutAngle => "cone shape has no angle; defaults to 90 degrees"

/-! ## Finding warnings -/

/-- The last number that metadata of a kind gives. -/
def lastMeta? {α : Type} (metas : List (Located Meta)) (f : Meta → Option α) :
    Option (Located α) :=
  (metas.filterMap fun m => (f m.node).map fun a => ⟨a, m.pos⟩).getLast?

def metaWarnings (metas : List (Located Meta)) : List (Located Warning) :=
  let range? := lastMeta? metas fun | .range n => some n | _ => none
  let minRange? := lastMeta? metas fun | .minRange n => some n | _ => none
  let targeting? := lastMeta? metas fun | .targeting t => some t | _ => none
  let unreachable :=
    match range?, minRange? with
    | some high, some low =>
      if high.node < low.node then [⟨.unreachableRange low.node high.node, low.pos⟩] else []
    | _, _ => []
  let ignored :=
    match range? with
    | some high =>
      if targeting?.any (·.node = .self) ∧ high.node ≠ 0 then
        [⟨.ignoredRange high.node, high.pos⟩]
      else []
    | none => []
  unreachable ++ ignored

/-- Warnings about a chance that is no chance. -/
def chanceWarnings (pos : Pos) (percent : Expr) (none sure : Float → Warning) :
    List (Located Warning) :=
  match percent.constant?.map Value.asFloat with
  | some p =>
    if p ≤ 0.0 then [⟨none p, pos⟩] else if 100.0 ≤ p then [⟨sure p, pos⟩] else []
  | .none => []

def Cond.warnings : Cond → List (Located Warning)
  | chance p => chanceWarnings p.pos p.node .alwaysFalse .alwaysTrue
  | not c => c.warnings
  | and lhs rhs | or lhs rhs => lhs.warnings ++ rhs.warnings
  | cmp .. | truthy _ | hasTag .. | globalHasTag _ => []

/-- Warnings about a number of a selector that is negative. -/
def negativeWarnings (e : Option (Located Expr)) (warning : Int64 → Warning) :
    List (Located Warning) :=
  match e with
  | some e =>
    match e.node.constant?.map Value.asInt with
    | some n => if n < 0 then [⟨warning n, e.pos⟩] else []
    | none => []
  | none => []

/-- Warnings about an area whose parts are left out. -/
def areaWarnings (pos : Pos) : Area → List (Located Warning)
  | .line _ dir _ => if dir.isNone then [⟨.lineWithoutDirection, pos⟩] else []
  | .cone _ angle dir =>
    (if dir.isNone then [⟨.coneWithoutDirection, pos⟩] else []) ++
      (if angle.isNone then [⟨.coneWithoutAngle, pos⟩] else [])

def Selector.warnings (s : Selector) : List (Located Warning) :=
  negativeWarnings s.range .negativeRange ++ negativeWarnings s.limit .negativeLimit ++
    (s.area.map fun a => areaWarnings a.pos a.node).getD []

/-- Warnings about a number of repetitions. -/
def repeatWarnings (pos : Pos) (times : Expr) : List (Located Warning) :=
  match times.constant?.map Value.asInt with
  | some n =>
    if n ≤ 0 then [⟨.noRepetition n, pos⟩]
    else if maxRepeat < n then [⟨.cappedRepetition n, pos⟩]
    else []
  | none => []

mutual

def stmtWarnings (pos : Pos) : Stmt → List (Located Warning)
  | .branch cond yes no => cond.warnings ++ blockWarnings yes ++ elseWarnings no
  | .chance percent yes no =>
    chanceWarnings pos percent .deadThen (if no.isSome then .deadElse else .sureChance) ++
      blockWarnings yes ++ elseWarnings no
  | .repeat times body => repeatWarnings pos times ++ blockWarnings body
  | .parallel (.mk _ _ stmts) =>
    (if stmts.isEmpty then [⟨.emptyParallel, pos⟩] else []) ++ stmtsWarnings stmts
  | .forEach selector body => selector.node.warnings ++ blockWarnings body
  | .deal .. | .heal .. | .move .. | .dash .. | .line .. | .setVar .. | .addVar ..
  | .removeVar .. | .addTag .. | .removeTag .. | .consumeMp _ => []

def blockWarnings : Block → List (Located Warning)
  | .mk braced pos stmts =>
    (if braced ∧ stmts.isEmpty then [⟨.emptyBlock, pos⟩] else []) ++ stmtsWarnings stmts

/-- Warnings about the block behind `else`. -/
def elseWarnings : Option Block → List (Located Warning)
  | some b => blockWarnings b
  | none => []

def stmtsWarnings : List (Located Stmt) → List (Located Warning)
  | [] => []
  | ⟨stmt, pos⟩ :: rest => stmtWarnings pos stmt ++ stmtsWarnings rest

end

/-- The warnings about a script, in the order of their positions. -/
def warnings (s : Script) : List (Located Warning) :=
  (metaWarnings s.metas ++ stmtsWarnings s.stmts).mergeSort fun a b => a.pos.atMost b.pos

/-! ## Diagnostics -/

/-- What there is to say about a text. -/
inductive Diagnostic where
  | warning (w : Located Warning)
  /-- The text cannot be read. -/
  | error (e : ParseError)
  deriving DecidableEq

namespace Diagnostic

/-- The name of the severity of a diagnostic. -/
def severity : Diagnostic → String
  | warning _ => "warning"
  | error _ => "error"

def isWarning : Diagnostic → Bool
  | warning _ => true
  | error _ => false

def pos : Diagnostic → Pos
  | warning w => w.pos
  | error e => e.pos

def message : Diagnostic → String
  | warning w => w.pos.text ++ ": " ++ w.node.message
  | error e => e.message

end Diagnostic

/-- Everything there is to say about a text: its warnings, or why it cannot be read. -/
def analyze (text : String) : List Diagnostic :=
  match parseScript text with
  | .ok s => s.warnings.map .warning
  | .error e => [.error e]

end Skirmish.Script
