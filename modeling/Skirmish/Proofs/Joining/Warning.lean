import Skirmish.Proofs.Joining.Moved
import Skirmish.Skill

/-!
# Warnings about scripts that are moved

What a script declares does not depend on where it stands, and what there is to warn about is the same
further down (`warnings_down`).
-/

namespace Skirmish.Script

variable (f : Pos → Pos)

/-- One warning that there may be. -/
theorem ite_moved (c : Prop) [Decidable c] (w : Warning) (pos : Pos) :
    (if c then [(⟨w, f pos⟩ : Located Warning)] else []) =
      (if c then [⟨w, pos⟩] else []).map (Located.moved f) := by
  split
  · rfl
  · rfl

/-! ## Metadata -/

theorem lastMeta?_moved {α : Type} (metas : List (Located Meta)) (g : Meta → Option α) :
    lastMeta? (metas.map (Located.moved f)) g = (lastMeta? metas g).map (Located.moved f) := by
  have hone : ∀ m : Located Meta, (g m.node).map (fun a => (⟨a, f m.pos⟩ : Located α)) =
      ((g m.node).map fun a => ⟨a, m.pos⟩).map (Located.moved f) := by
    intro m
    rw [Option.map_map]
    rfl
  unfold lastMeta?
  rw [List.filterMap_map, ← List.getLast?_map, List.map_filterMap]
  exact congrArg (fun h => (List.filterMap h metas).getLast?) (funext hone)

theorem metaWarnings_moved (metas : List (Located Meta)) :
    metaWarnings (metas.map (Located.moved f)) = (metaWarnings metas).map (Located.moved f) := by
  unfold metaWarnings
  dsimp only
  rw [lastMeta?_moved, lastMeta?_moved, lastMeta?_moved, Option.any_map, List.map_append]
  refine congr (congrArg HAppend.hAppend ?_) ?_
  · obtain _ | high := lastMeta? metas _
    · rfl
    obtain _ | low := lastMeta? metas _
    · rfl
    · exact ite_moved f _ _ low.pos
  · obtain _ | high := lastMeta? metas _
    · rfl
    · exact ite_moved f _ _ high.pos

/-! ## Statements -/

theorem isEmpty_movedStmts (l : List (Located Stmt)) : (movedStmts f l).isEmpty = l.isEmpty := by
  rw [movedStmts_eq_map, List.isEmpty_map]

theorem chanceWarnings_moved (pos : Pos) (percent : Expr) (none sure : Float → Warning) :
    chanceWarnings (f pos) percent none sure =
      (chanceWarnings pos percent none sure).map (Located.moved f) := by
  unfold chanceWarnings
  split
  · split
    · rfl
    split
    · rfl
    · rfl
  · rfl

theorem Cond.warnings_moved (c : Cond) : (c.moved f).warnings = c.warnings.map (Located.moved f) := by
  induction c with
  | chance percent => exact chanceWarnings_moved f percent.pos percent.node _ _
  | not c ih => exact ih
  | and lhs rhs ihl ihr | or lhs rhs ihl ihr =>
    show (lhs.moved f).warnings ++ (rhs.moved f).warnings = _
    rw [ihl, ihr, ← List.map_append]
    rfl
  | _ => rfl

theorem negativeWarnings_moved (e : Option (Located Expr)) (warning : Int64 → Warning) :
    negativeWarnings (e.map (Located.moved f)) warning =
      (negativeWarnings e warning).map (Located.moved f) := by
  cases e with
  | none => rfl
  | some e =>
    obtain ⟨e, pos⟩ := e
    simp only [negativeWarnings, Option.map_some, Located.moved]
    cases e.constant?.map Value.asInt with
    | none => rfl
    | some n => exact ite_moved f _ _ pos

theorem areaWarnings_moved (pos : Pos) (a : Area) :
    areaWarnings (f pos) a = (areaWarnings pos a).map (Located.moved f) := by
  cases a with
  | line length dir width => cases dir <;> rfl
  | cone radius angle dir => cases dir <;> cases angle <;> rfl

theorem Selector.warnings_moved (s : Selector) :
    (s.moved f).warnings = s.warnings.map (Located.moved f) := by
  unfold Selector.warnings Selector.moved
  dsimp only
  rw [negativeWarnings_moved, negativeWarnings_moved, List.map_append, List.map_append]
  cases s.area with
  | none => rfl
  | some a => exact congrArg (_ ++ ·) (areaWarnings_moved f a.pos a.node)

theorem repeatWarnings_moved (pos : Pos) (times : Expr) :
    repeatWarnings (f pos) times = (repeatWarnings pos times).map (Located.moved f) := by
  unfold repeatWarnings
  split
  · split
    · rfl
    split
    · rfl
    · rfl
  · rfl

mutual

theorem stmtWarnings_moved (pos : Pos) : (s : Stmt) →
    stmtWarnings (f pos) (movedStmt f s) = (stmtWarnings pos s).map (Located.moved f)
  | .branch cond yes no => by
    rw [movedStmt, stmtWarnings, stmtWarnings, cond.warnings_moved, blockWarnings_moved yes,
      elseWarnings_moved no, List.map_append, List.map_append]
  | .chance percent yes no => by
    have hno : (movedElse f no).isSome = no.isSome := by
      cases no with
      | none => rw [movedElse]
      | some b => rw [movedElse]; rfl
    rw [movedStmt, stmtWarnings, stmtWarnings, hno, chanceWarnings_moved, blockWarnings_moved yes,
      elseWarnings_moved no, List.map_append, List.map_append]
  | .repeat times body => by
    rw [movedStmt, stmtWarnings, stmtWarnings, repeatWarnings_moved, blockWarnings_moved body,
      List.map_append]
  | .parallel (.mk braced bodyPos l) => by
    rw [movedStmt, movedBlock, stmtWarnings, stmtWarnings, isEmpty_movedStmts, ite_moved,
      stmtsWarnings_moved l, List.map_append]
  | .forEach selector body => by
    rw [movedStmt, stmtWarnings, stmtWarnings, selector.node.warnings_moved,
      blockWarnings_moved body, List.map_append]
  | .deal .. | .heal .. | .move .. | .dash .. | .line .. | .setVar .. | .addVar .. | .removeVar ..
  | .addTag .. | .removeTag .. | .consumeMp .. => by
    rw [movedStmt, stmtWarnings, stmtWarnings, List.map_nil]

theorem blockWarnings_moved : (b : Block) →
    blockWarnings (movedBlock f b) = (blockWarnings b).map (Located.moved f)
  | .mk braced pos l => by
    rw [movedBlock, blockWarnings, blockWarnings, isEmpty_movedStmts, ite_moved,
      stmtsWarnings_moved l, List.map_append]

theorem elseWarnings_moved : (no : Option Block) →
    elseWarnings (movedElse f no) = (elseWarnings no).map (Located.moved f)
  | some b => by rw [movedElse, elseWarnings, elseWarnings, blockWarnings_moved b]
  | none => by rw [movedElse, elseWarnings, List.map_nil]

theorem stmtsWarnings_moved : (l : List (Located Stmt)) →
    stmtsWarnings (movedStmts f l) = (stmtsWarnings l).map (Located.moved f)
  | [] => by rw [movedStmts, stmtsWarnings, List.map_nil]
  | ⟨s, pos⟩ :: rest => by
    rw [movedStmts, stmtsWarnings, stmtsWarnings, stmtWarnings_moved pos s,
      stmtsWarnings_moved rest, List.map_append]

end

/-! ## Scripts -/

theorem Pos.atMost_down (n : Nat) (p q : Pos) : (p.down n).atMost (q.down n) = p.atMost q := by
  have hlt : decide (p.line + n < q.line + n) = decide (p.line < q.line) :=
    decide_eq_decide.2 (Nat.add_lt_add_iff_right ..)
  have heq : (p.line + n == q.line + n) = (p.line == q.line) :=
    Bool.eq_iff_iff.2 (by simp only [beq_iff_eq, Nat.add_right_cancel_iff])
  unfold Pos.atMost Pos.down
  rw [hlt, heq]

/-- The warnings about a script that stands further down are those about the script, further down. -/
theorem warnings_down (s : Script) (n : Nat) :
    (s.moved (Pos.down n)).warnings = s.warnings.map (Located.moved (Pos.down n)) := by
  have hmerge : ∀ a ∈ metaWarnings s.metas ++ stmtsWarnings s.stmts,
      ∀ b ∈ metaWarnings s.metas ++ stmtsWarnings s.stmts,
        a.pos.atMost b.pos = (a.moved (Pos.down n)).pos.atMost (b.moved (Pos.down n)).pos :=
    fun a _ b _ => (Pos.atMost_down n a.pos b.pos).symm
  unfold warnings moved
  rw [metaWarnings_moved, stmtsWarnings_moved, ← List.map_append]
  exact (List.map_mergeSort (f := Located.moved (Pos.down n)) hmerge).symm

end Skirmish.Script

namespace Skirmish

open Script (Stmt Pos movedStmt movedStmts)

namespace SkillMeta

theorem sureCost?_movedStmt (f : Pos → Pos) (s : Stmt) : sureCost? (movedStmt f s) = sureCost? s := by
  cases s <;> rw [movedStmt] <;> rfl

/-- What a script declares does not depend on where it stands. -/
theorem ofScript_moved (f : Pos → Pos) (s : Script) : ofScript (s.moved f) = ofScript s := by
  have hcosts : (movedStmts f s.stmts).filterMap (fun l => sureCost? l.node) =
      s.stmts.filterMap fun l => sureCost? l.node := by
    rw [Script.movedStmts_eq_map, List.filterMap_map]
    exact congrArg (List.filterMap · s.stmts) (funext fun l => sureCost?_movedStmt f l.node)
  unfold ofScript Script.moved
  rw [List.map_map, hcosts]
  rfl

end SkillMeta

end Skirmish
