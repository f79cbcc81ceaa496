import Skirmish.Action
import Skirmish.Script.Select

/-!
# Steps

The statements of a script become steps, which lead from a world to an outcome for a caster and a
target. A statement that changes the world by itself is one action, chosen in the world it meets.
Chances and repetitions that are decided by constants are decided here, once and for all.
-/

namespace Skirmish.Script

/-- What a statement does for a caster and a target. -/
abbrev Step := Rules → Bindings → World → Outcome

namespace Step

def identity : Step := fun _ _ w => ⟨w, []⟩

def sequence (steps : List Step) : Step := fun rules b w =>
  Outcome.fold (fun step w => step rules b w) steps w

/-- Steps one after the other; a single one stands for itself. -/
def ofList : List Step → Step
  | [] => identity
  | [step] => step
  | steps => sequence steps

/-- Does what an action does, if there is one. -/
def ofAction (choose : World → Bindings → Option Action) : Step := fun rules b w =>
  match choose w b with
  | some a => a.apply rules w
  | none => ⟨w, []⟩

/-- One of two steps, as a test decides. -/
def branch (test : Bindings → World → World × Bool) (yes : Step) (no : Option Step) : Step :=
  fun rules b w =>
    let (w, hit) := test b w
    if hit then yes rules b w
    else
      match no with
      | some no => no rules b w
      | none => ⟨w, []⟩

/-- A step as often as an expression tells, within bounds. -/
def repeated (times : Expr) (body : Step) : Step := fun rules b w =>
  let n := min (times.eval w b).asInt maxRepeat
  sequence (List.replicate n.toInt.toNat body) rules b w

/-- A step for each unit that a selector picks at the beginning. -/
def forEach (selector : Selector) (body : Step) : Step := fun rules b w =>
  Outcome.fold (fun id w => body rules { b with it? := some id } w) (selector.pick w b) w

end Step

/-! ## Statements that are actions -/

/-- A coordinate that an expression gives. -/
def axis (w : World) (b : Bindings) (e : Expr) : Int32 := Saturating.toInt32 (e.eval w b).asInt

/-- A place that two expressions give. -/
def point (w : World) (b : Bindings) (x y : Expr) : Coord := ⟨axis w b x, axis w b y⟩

/-- The place whose variables and tags a statement changes. -/
def Scope.place? (w : World) (b : Bindings) : Scope → Option Place
  | unit ref => (b.unit? ref).map .unit
  | tile x y => some (.tile (point w b x y))
  | tileAt ref => (b.position? w ref).map .tile
  | global => some .global

/-- Where a unit moves. -/
def Destination.place? (w : World) (b : Bindings) : Destination → Option Coord
  | coord x y => some (point w b x y)
  | .at ref => b.position? w ref

def dealAction (kind : DamageKind) (caster struck : String) (power : Int64) : Action :=
  match kind with
  | .physical => .strike .physical caster struck power 0.0
  | .magic => .strike .magic caster struck power 0.0
  | .true => .damage struck power

/-- The action that adds a value to a variable. Tiles have no such action of their own, so the sum
is set. -/
def addAction (w : World) (place : Place) (name : String) (delta : Value) : Action :=
  match place with
  | .unit id => .addToVar (.unit id) name delta
  | .global => .addToVar .global name delta
  | .tile p =>
    let current := ((w.tile? p).bind fun t => t.get? name).getD (.int 0)
    .setVar (.tile p) name (current.add delta)

/-- The action that takes magic from a caster. -/
def consumeAction? (w : World) (caster : String) (amount : Int64) : Option Action :=
  (w.unit? caster).map fun unit =>
    let left := max (Saturating.sub (unit.int Stat.mp) (max amount 0)) 0
    .setVar (.unit caster) Stat.mp (.int left)

/-- The action that a statement is in a world, unless it names nothing or has statements of its
own. -/
def Stmt.action? (w : World) (b : Bindings) : Stmt → Option Action
  | deal kind amount who =>
    (b.unit? who).map fun id => dealAction kind b.caster id (amount.eval w b).asInt
  | heal amount who => (b.unit? who).map fun id => .heal id (amount.eval w b).asInt
  | move unit goal => do return .move (← b.unit? unit) (← goal.place? w b)
  | dash who steps => (b.unit? who).map fun id => .dash b.caster id (steps.eval w b).asInt
  | line kind amount who length radius =>
    (b.unit? who).map fun id =>
      .line
        { attacker := b.caster, target := id, kind, power := (amount.eval w b).asInt
          length := (length.eval w b).asInt, radius := (radius.eval w b).asInt }
  | setVar scope name value => (scope.place? w b).map fun p => .setVar p name (value.eval w b)
  | addVar scope name delta => (scope.place? w b).map fun p => addAction w p name (delta.eval w b)
  | removeVar scope name => (scope.place? w b).map fun p => .removeVar p name
  | addTag scope tag => (scope.place? w b).map fun p => .addTag p tag
  | removeTag scope tag => (scope.place? w b).map fun p => .removeTag p tag
  | consumeMp amount => consumeAction? w b.caster (amount.eval w b).asInt
  | _ => none

/-! ## All statements -/

mutual

/-- The step that a statement becomes; none if it can never do anything. -/
def stmtStep? : Stmt → Option Step
  | .branch cond yes no => some (.branch cond.test (blockStep yes) (elseStep? no))
  | .chance percent yes no =>
    match percent.constant?.map Value.asFloat with
    | some p =>
      if p ≤ 0.0 then elseStep? no
      else if 100.0 ≤ p then some (blockStep yes)
      else some (.branch (fun b w => rollChance w (percent.eval w b).asFloat) (blockStep yes)
        (elseStep? no))
    | none => some (.branch (fun b w => rollChance w (percent.eval w b).asFloat) (blockStep yes)
        (elseStep? no))
  | .repeat times body =>
    if (times.constant?.map Value.asInt).any (· ≤ 0) then none
    else some (.repeated times (blockStep body))
  | .parallel (.mk _ _ stmts) => if stmts.isEmpty then none else some (.ofList (stmtSteps stmts))
  | .forEach selector body => some (.forEach selector.node (blockStep body))
  | s => some (.ofAction fun w b => s.action? w b)

def blockStep : Block → Step
  | .mk _ _ stmts => .ofList (stmtSteps stmts)

/-- The step that the block behind `else` becomes. -/
def elseStep? : Option Block → Option Step
  | some b => some (blockStep b)
  | none => none

def stmtSteps : List (Located Stmt) → List Step
  | [] => []
  | ⟨stmt, _⟩ :: rest =>
    match stmtStep? stmt with
    | some step => step :: stmtSteps rest
    | none => stmtSteps rest

end

/-- The step that a script becomes. -/
def step (s : Script) : Step := .ofList (stmtSteps s.stmts)

end Skirmish.Script
