import Skirmish.Proofs.Depth.Expression

/-!
# How high statements grow, and how deep their blocks nest

A statement in a block is read with one level less than the statement that the block belongs to, and
with no level left none is. So blocks with statements in them nest at most `maxNesting` deep. The
check is made where a statement begins and not at the brace that opens a block, so one more block
fits in if it is empty (`Fits`).
-/

namespace Skirmish.Script

open Script.Parser

/-! ## Heights -/

/-- The height of an expression, if there is one. -/
def heightOf? (e : Option Expr) : Nat := e.elim 0 Expr.height

def Scope.height : Scope → Nat
  | tile x y => max x.height y.height + 1
  | unit _ | tileAt _ | global => 1

def Destination.height : Destination → Nat
  | coord x y => max x.height y.height + 1
  | «at» _ => 1

def Area.height : Area → Nat
  | line length _ width => max length.height (heightOf? width) + 1
  | cone radius angle _ => max radius.height (heightOf? angle) + 1

def Selector.height (s : Selector) : Nat :=
  max (max (heightOf? (s.limit.map Located.node)) (heightOf? (s.range.map Located.node)))
    (s.area.elim 0 (·.node.height)) + 1

theorem Selector.height_le {s : Selector} {n : Nat} : s.height ≤ n + 1 ↔
    heightOf? (s.limit.map Located.node) ≤ n ∧ heightOf? (s.range.map Located.node) ≤ n ∧
      s.area.elim 0 (·.node.height) ≤ n := by
  rw [Selector.height, Nat.succ_le_succ_iff, Nat.max_le, Nat.max_le, and_assoc]

mutual

/-- The number of nodes on the longest way down, through blocks, conditions and expressions. -/
def stmtHeight : Stmt → Nat
  | .deal _ amount _ | .heal amount _ | .consumeMp amount => amount.height + 1
  | .move _ goal => goal.height + 1
  | .dash _ steps => steps.height + 1
  | .line _ amount _ length radius => max (max amount.height length.height) radius.height + 1
  | .setVar scope _ value | .addVar scope _ value => max scope.height value.height + 1
  | .removeVar scope _ | .addTag scope _ | .removeTag scope _ => scope.height + 1
  | .branch cond yes no => max cond.height (max (blockHeight yes) (elseHeight no)) + 1
  | .repeat times body => max times.height (blockHeight body) + 1
  | .parallel body => blockHeight body + 1
  | .forEach selector body => max selector.node.height (blockHeight body) + 1
  | .chance percent yes no => max percent.height (max (blockHeight yes) (elseHeight no)) + 1

def blockHeight : Block → Nat
  | .mk _ _ stmts => stmtsHeight stmts + 1

def elseHeight : Option Block → Nat
  | some b => blockHeight b
  | none => 0

/-- The height of the highest statement, 0 if there is none. -/
def stmtsHeight : List (Located Stmt) → Nat
  | [] => 0
  | ⟨stmt, _⟩ :: rest => max (stmtHeight stmt) (stmtsHeight rest)

end

/-! ## Nesting of blocks -/

mutual

/-- How deep blocks nest in a statement, where a block without statements counts as `empty`. -/
def stmtNesting (empty : Nat) : Stmt → Nat
  | .branch _ yes no | .chance _ yes no => max (blockNesting empty yes) (elseNesting empty no)
  | .repeat _ body | .parallel body | .forEach _ body => blockNesting empty body
  | .deal .. | .heal .. | .move .. | .dash .. | .line .. | .setVar .. | .addVar ..
  | .removeVar .. | .addTag .. | .removeTag .. | .consumeMp _ => 0

def blockNesting (empty : Nat) : Block → Nat
  | .mk _ _ stmts => if stmts.isEmpty then empty else stmtsNesting empty stmts + 1

def elseNesting (empty : Nat) : Option Block → Nat
  | some b => blockNesting empty b
  | none => 0

/-- How deep blocks nest in the statement where they nest deepest. -/
def stmtsNesting (empty : Nat) : List (Located Stmt) → Nat
  | [] => 0
  | ⟨stmt, _⟩ :: rest => max (stmtNesting empty stmt) (stmtsNesting empty rest)

end

theorem stmtsHeight_le {l : List (Located Stmt)} {n : Nat} (h : ∀ s ∈ l, stmtHeight s.node ≤ n) :
    stmtsHeight l ≤ n := by
  induction l with
  | nil => exact Nat.zero_le n
  | cons s l ih =>
    exact Nat.max_le.2 ⟨h s (.head _), ih fun t ht => h t (.tail _ ht)⟩

theorem stmtsNesting_le {empty : Nat} {l : List (Located Stmt)} {n : Nat}
    (h : ∀ s ∈ l, stmtNesting empty s.node ≤ n) : stmtsNesting empty l ≤ n := by
  induction l with
  | nil => exact Nat.zero_le n
  | cons s l ih =>
    exact Nat.max_le.2 ⟨h s (.head _), ih fun t ht => h t (.tail _ ht)⟩

/-- A statement fits into a number of levels: what is left of them bounds its height, and how deep
blocks nest in it with and without those that are empty. -/
structure Fits (levels : Nat) (s : Stmt) : Prop where
  height : stmtHeight s ≤ operandBound (levels + 1) + 2
  filled : stmtNesting 0 s < levels
  nesting : stmtNesting 1 s ≤ levels

/-- A block fits below a statement that has a number of levels left. -/
structure Block.Fits (levels : Nat) (b : Block) : Prop where
  height : blockHeight b ≤ operandBound (levels + 1) + 3
  filled : blockNesting 0 b ≤ levels
  nesting : blockNesting 1 b ≤ levels + 1

/-- An `else` without a block fits too. -/
structure ElseFits (levels : Nat) (no : Option Block) : Prop where
  height : elseHeight no ≤ operandBound (levels + 1) + 3
  filled : elseNesting 0 no ≤ levels
  nesting : elseNesting 1 no ≤ levels + 1

theorem Block.fits_mk {levels : Nat} {braced : Bool} {pos : Pos} {l : List (Located Stmt)}
    (h : ∀ s ∈ l, Script.Fits levels s.node) : Block.Fits levels (.mk braced pos l) := by
  have hheight : stmtsHeight l ≤ operandBound (levels + 1) + 2 := stmtsHeight_le fun s hs => (h s hs).height
  refine ⟨Nat.succ_le_succ hheight, ?_, ?_⟩
  · cases l with
    | nil => exact Nat.zero_le levels
    | cons s l =>
      have hlt := (h s (.head _)).filled
      have hfilled : stmtsNesting 0 (s :: l) ≤ levels - 1 :=
        stmtsNesting_le fun t ht => Nat.le_sub_one_of_lt (h t ht).filled
      show stmtsNesting 0 (s :: l) + 1 ≤ levels
      omega
  · cases l with
    | nil => exact Nat.le_add_left 1 levels
    | cons s l => exact Nat.succ_le_succ (stmtsNesting_le fun t ht => (h t ht).nesting)

/-- A statement without blocks. -/
theorem Fits.flat {levels : Nat} {s : Stmt} (hheight : stmtHeight s ≤ operandBound (levels + 2) + 2)
    (hflat : ∀ empty, stmtNesting empty s = 0) : Fits (levels + 1) s :=
  ⟨hheight, by rw [hflat]; exact Nat.succ_pos levels, by rw [hflat]; exact Nat.zero_le _⟩

/-- A statement with one block. -/
theorem Fits.single {levels : Nat} {s : Stmt} {body : Block}
    (hheight : stmtHeight s ≤ operandBound (levels + 2) + 2)
    (hblock : ∀ empty, stmtNesting empty s = blockNesting empty body) (hbody : body.Fits levels) :
    Fits (levels + 1) s :=
  ⟨hheight, by rw [hblock]; exact Nat.lt_succ_of_le hbody.filled, by rw [hblock]; exact hbody.nesting⟩

/-- A statement with a block and one behind `else`. -/
theorem Fits.either {levels : Nat} {s : Stmt} {yes : Block} {no : Option Block}
    (hheight : stmtHeight s ≤ operandBound (levels + 2) + 2)
    (hblocks : ∀ empty, stmtNesting empty s = max (blockNesting empty yes) (elseNesting empty no))
    (hyes : yes.Fits levels) (hno : ElseFits levels no) : Fits (levels + 1) s :=
  ⟨hheight, by rw [hblocks]; exact Nat.lt_succ_of_le (Nat.max_le.2 ⟨hyes.filled, hno.filled⟩),
    by rw [hblocks]; exact Nat.max_le.2 ⟨hyes.nesting, hno.nesting⟩⟩

namespace Parser

variable {levels : Nat}

/-! ## Parts of statements -/

theorem gives_pointTail (levels : Nat) : Gives (pointTail levels) fun p =>
    p.1.height ≤ operandBound (levels + 1) ∧ p.2.height ≤ operandBound (levels + 1) :=
  .bind (gives_expr levels) fun _ hx => .after fun _ =>
    .bind (gives_expr levels) fun _ hy => .after fun _ => .pure ⟨hx, hy⟩

theorem gives_scope (levels : Nat) :
    Gives (scope levels) fun s => s.height ≤ operandBound (levels + 1) + 1 := by
  refine .after fun _ => ?_
  split
  · exact .pure (Nat.le_add_left 1 _)
  refine .after fun _ => ?_
  split
  · refine .after fun _ => ?_
    split
    · exact .after fun _ => .pure (Nat.le_add_left 1 _)
    · exact .after fun _ => .bind (gives_pointTail levels) fun _ hp =>
        .pure (Nat.succ_le_succ (Nat.max_le.2 hp))
  · exact .after fun _ => .pure (Nat.le_add_left 1 _)

theorem gives_destination (levels : Nat) :
    Gives (destination levels) fun d => d.height ≤ operandBound (levels + 1) + 1 := by
  refine .after fun _ => ?_
  split
  · exact .bind (gives_pointTail levels) fun _ hp => .pure (Nat.succ_le_succ (Nat.max_le.2 hp))
  · exact .after fun _ => .pure (Nat.le_add_left 1 _)

/-! ## Selectors -/

theorem gives_optionsOf {σ : Type} {options : List (String × (σ → Parser σ))} {s : σ} {I : σ → Prop}
    (hs : I s) (h : ∀ o ∈ options, ∀ s, I s → Gives (o.2 s) I) : Gives (optionsOf options s) I := by
  refine .steps hs fun s hs => .bind (.take? _) fun r hr => ?_
  split
  · next o =>
    obtain ⟨l, hl⟩ := hr o rfl
    exact .bind (h o (List.mem_of_find?_eq_some hl) s hs) fun s' hs' => .pure_some hs'
  · exact .pure_none

theorem gives_lineArea (levels : Nat) :
    Gives (lineArea levels) fun a => a.height ≤ operandBound (levels + 1) + 1 := by
  refine .after fun _ => .bind (gives_expr levels) fun length hlength =>
    .bind (gives_optionsOf (I := fun s => heightOf? s.2 ≤ operandBound (levels + 1))
      (Nat.zero_le _) fun o ho s hs => ?_) fun s hs =>
    .pure (Nat.succ_le_succ (Nat.max_le.2 ⟨hlength, hs⟩))
  rw [List.mem_cons, List.mem_singleton] at ho
  obtain rfl | rfl := ho
  · exact .after fun _ => .pure hs
  · exact .bind (gives_expr levels) fun _ he => .pure he

theorem gives_coneArea (levels : Nat) :
    Gives (coneArea levels) fun a => a.height ≤ operandBound (levels + 1) + 1 := by
  refine .after fun _ => .bind (gives_expr levels) fun radius hradius =>
    .bind (gives_optionsOf (I := fun s => heightOf? s.1 ≤ operandBound (levels + 1))
      (Nat.zero_le _) fun o ho s hs => ?_) fun s hs =>
    .pure (Nat.succ_le_succ (Nat.max_le.2 ⟨hradius, hs⟩))
  rw [List.mem_cons, List.mem_singleton] at ho
  obtain rfl | rfl := ho
  · exact .bind (gives_expr levels) fun _ he => .pure he
  · exact .after fun _ => .pure hs

theorem gives_restriction (levels : Nat) (pos : Pos) {s : Selector}
    (hs : s.height ≤ operandBound (levels + 1) + 2) :
    Gives (restriction levels pos s) fun t => t.height ≤ operandBound (levels + 1) + 2 := by
  obtain ⟨hlimit, hrange, harea⟩ := Selector.height_le.1 hs
  refine .after fun _ => ?_
  split
  · refine .bind (gives_expr levels) fun e he => .after fun _ => ?_
    split
    · exact .after fun _ =>
        .pure (Selector.height_le.2 ⟨hlimit, Nat.le_succ_of_le he, harea⟩)
    · exact .pure (Selector.height_le.2 ⟨hlimit, Nat.le_succ_of_le he, harea⟩)
  refine .after fun _ => ?_
  split
  · exact .bind (gives_lineArea levels) fun a ha =>
      .pure (Selector.height_le.2 ⟨hlimit, hrange, ha⟩)
  refine .after fun _ => ?_
  split
  · exact .bind (gives_coneArea levels) fun a ha =>
      .pure (Selector.height_le.2 ⟨hlimit, hrange, ha⟩)
  · exact .unexpected _

theorem gives_selectorOption (levels : Nat) {s : Selector}
    (hs : s.height ≤ operandBound (levels + 1) + 2) : Gives (selectorOption levels s)
      fun r => ∀ t ∈ r, t.height ≤ operandBound (levels + 1) + 2 := by
  obtain ⟨-, hrange, harea⟩ := Selector.height_le.1 hs
  refine .after fun pos => .after fun _ => ?_
  split
  · exact .pure_some hs
  refine .after fun _ => ?_
  split
  · exact .pure_some hs
  refine .after fun _ => ?_
  split
  · exact .bind (gives_expr levels) fun e he =>
      .pure_some (Selector.height_le.2 ⟨Nat.le_succ_of_le he, hrange, harea⟩)
  refine .after fun _ => ?_
  split
  · exact .after fun _ => .pure_some hs
  refine .after fun _ => ?_
  split
  · exact .bind (gives_restriction levels pos hs) fun t ht => .pure_some ht
  · exact .pure_none

theorem gives_selector (levels : Nat) :
    Gives (selector levels) fun s => s.node.height ≤ operandBound (levels + 1) + 2 :=
  .after fun _ => .after fun _ =>
    .bind (.steps (Nat.le_add_left 1 _) fun _ => gives_selectorOption levels) fun _ hs => .pure hs

/-! ## Statements -/

section Inner

variable {inner : Parser (Located Stmt)} (hinner : Gives inner fun s => Fits levels s.node)
include hinner

theorem gives_bracedBlock : Gives (bracedBlock inner) (Block.Fits levels) := by
  refine .after fun pos => .after fun _ =>
    .bind (Gives.many (P := fun s => Fits levels s.node) ?_) fun l hl =>
    .after fun _ => .pure (Block.fits_mk hl)
  refine .after fun _ => .after fun _ => ?_
  split
  · exact .pure_none
  · exact .bind hinner fun s hs => .pure_some hs
  · exact .unexpected _

theorem gives_body : Gives (body inner) (Block.Fits levels) := by
  refine .after fun _ => ?_
  split
  · exact gives_bracedBlock hinner
  · refine .after fun pos => .bind hinner fun s hs => .pure (Block.fits_mk fun t ht => ?_)
    rwa [List.mem_singleton.1 ht]

theorem gives_elseBody : Gives (elseBody inner) (ElseFits levels) := by
  refine .after fun _ => ?_
  split
  · exact .bind (gives_body hinner) fun b hb => .pure ⟨hb.height, hb.filled, hb.nesting⟩
  · exact .pure ⟨Nat.zero_le _, Nat.zero_le _, Nat.zero_le _⟩

/-- A block, a condition or an expression of a statement makes it one higher. -/
theorem gives_statementTail {w : String} {tail : Parser Stmt}
    (h : statementTail? levels inner w = some tail) : Gives tail (Fits (levels + 1)) := by
  -- a level more leaves room for everything that is no chain of operators
  have hroom : operandBound (levels + 1) + 2 ≤ operandBound (levels + 2) := by
    rw [operandBound_succ (levels + 1)]
    exact Nat.add_le_add_left (by decide) _
  unfold statementTail? at h
  split at h <;> cases h
  case h_1 => -- deal
    refine .after fun _ => .bind (gives_expr levels) fun amount hamount =>
      .after fun _ => .after fun _ =>
      .after fun _ => .pure (.flat ?_ fun _ => rfl)
    rw [stmtHeight]
    omega
  case h_2 => -- heal
    refine .bind (gives_expr levels) fun amount hamount => .after fun _ =>
      .after fun _ => .pure (.flat ?_ fun _ => rfl)
    rw [stmtHeight]
    omega
  case h_3 => -- move
    refine .after fun _ => .after fun _ =>
      .bind (gives_destination levels) fun goal hgoal => .pure (.flat ?_ fun _ => rfl)
    rw [stmtHeight]
    omega
  case h_4 => -- dash
    refine .after fun _ => .after fun _ =>
      .after fun _ => .after fun _ =>
      .bind (gives_expr levels) fun steps hsteps => .pure (.flat ?_ fun _ => rfl)
    rw [stmtHeight]
    omega
  case h_5 => -- line
    refine .after fun _ => .bind (gives_expr levels) fun amount hamount =>
      .after fun _ => .after fun _ =>
      .after fun _ => .bind (gives_expr levels) fun length hlength =>
      .after fun _ => ?_
    split
    · refine .bind (gives_expr levels) fun radius hradius => .pure (.flat ?_ fun _ => rfl)
      rw [stmtHeight]
      omega
    · refine .pure (.flat ?_ fun _ => rfl)
      rw [stmtHeight, Expr.height]
      omega
  case h_6 => -- set
    refine .bind (gives_scope levels) fun scope hscope => .after fun _ =>
      .after fun _ => .bind (gives_expr levels) fun value hvalue =>
      .pure (.flat ?_ fun _ => rfl)
    rw [stmtHeight]
    omega
  case h_7 => -- add
    refine .bind (gives_scope levels) fun scope hscope => .after fun _ => ?_
    split
    · refine .after fun _ => .pure (.flat ?_ fun _ => rfl)
      rw [stmtHeight]
      omega
    · refine .after fun _ => .after fun _ =>
        .bind (gives_expr levels) fun delta hdelta => .pure (.flat ?_ fun _ => rfl)
      rw [stmtHeight]
      omega
  case h_8 => -- remove
    refine .bind (gives_scope levels) fun scope hscope => .after fun _ => ?_
    split
    · refine .after fun _ => .pure (.flat ?_ fun _ => rfl)
      rw [stmtHeight]
      omega
    · refine .after fun _ => .pure (.flat ?_ fun _ => rfl)
      rw [stmtHeight]
      omega
  case h_9 => -- consume
    refine .after fun _ => .after fun _ =>
      .bind (gives_expr levels) fun amount hamount => .pure (.flat ?_ fun _ => rfl)
    rw [stmtHeight]
    omega
  case h_10 => -- if
    refine .bind (gives_condition levels) fun cond hcond => .after fun _ =>
      .bind (gives_body hinner) fun yes hyes => .bind (gives_elseBody hinner) fun no hno => .pure ?_
    refine .either ?_ (fun _ => rfl) hyes hno
    have hyes := hyes.height
    have hno := hno.height
    rw [stmtHeight]
    omega
  case h_11 => -- repeat
    refine .bind (gives_expr levels) fun times htimes => .after fun _ =>
      .bind (gives_body hinner) fun body hbody => .pure (.single ?_ (fun _ => rfl) hbody)
    have hbody := hbody.height
    rw [stmtHeight]
    omega
  case h_12 => -- parallel
    refine .bind (gives_bracedBlock hinner) fun body hbody => .pure (.single ?_ (fun _ => rfl) hbody)
    have hbody := hbody.height
    rw [stmtHeight]
    omega
  case h_13 => -- for
    refine .after fun _ => .bind (gives_selector levels) fun selector hselector =>
      .after fun _ => .bind (gives_body hinner) fun body hbody =>
      .pure (.single ?_ (fun _ => rfl) hbody)
    have hbody := hbody.height
    rw [stmtHeight]
    omega
  case h_14 => -- chance
    refine .bind (gives_expr levels) fun percent hpercent => .after fun _ =>
      .after fun _ => .bind (gives_body hinner) fun yes hyes =>
      .bind (gives_elseBody hinner) fun no hno => .pure (.either ?_ (fun _ => rfl) hyes hno)
    have hyes := hyes.height
    have hno := hno.height
    rw [stmtHeight]
    omega

theorem gives_statement : Gives (statement levels inner) fun s => Fits (levels + 1) s.node := by
  refine .after fun pos => .after fun _ => ?_
  split
  · exact .unexpected _
  split
  · exact .fail _
  split
  · exact .fail _
  · next tail htail =>
    exact .after fun _ => .bind (gives_statementTail hinner htail) fun _ hs => .pure hs

end Inner

theorem gives_statementWithin (levels : Nat) :
    Gives (statementWithin levels) fun s => Fits (levels + 1) s.node := by
  induction levels with
  | zero => exact gives_statement (.fail _)
  | succ levels ih => exact gives_statement ih

end Parser

end Skirmish.Script
