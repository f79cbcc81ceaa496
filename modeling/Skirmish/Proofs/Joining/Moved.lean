import Skirmish.Proofs.Joining.Scan
import Skirmish.Script.Document

/-!
# Scripts that are moved

A script that stands elsewhere in a text is the same script with other positions.
-/

namespace Skirmish.Script

variable (f : Pos → Pos)

def Located.moved {α : Type} (x : Located α) : Located α := ⟨x.node, f x.pos⟩

def Cond.moved : Cond → Cond
  | chance percent => chance (percent.moved f)
  | not c => not c.moved
  | and lhs rhs => and lhs.moved rhs.moved
  | or lhs rhs => or lhs.moved rhs.moved
  | cmp op lhs rhs => cmp op lhs rhs
  | truthy e => truthy e
  | hasTag ref tag => hasTag ref tag
  | globalHasTag tag => globalHasTag tag

def Selector.moved (s : Selector) : Selector :=
  { s with
    limit := s.limit.map (Located.moved f)
    range := s.range.map (Located.moved f)
    area := s.area.map (Located.moved f) }

mutual

def movedStmt : Stmt → Stmt
  | .branch cond yes no => .branch (cond.moved f) (movedBlock yes) (movedElse no)
  | .repeat times body => .repeat times (movedBlock body)
  | .parallel body => .parallel (movedBlock body)
  | .forEach selector body =>
    .forEach ⟨selector.node.moved f, f selector.pos⟩ (movedBlock body)
  | .chance percent yes no => .chance percent (movedBlock yes) (movedElse no)
  | .deal kind amount who => .deal kind amount who
  | .heal amount who => .heal amount who
  | .move unit goal => .move unit goal
  | .dash who steps => .dash who steps
  | .line kind amount who length radius => .line kind amount who length radius
  | .setVar scope name value => .setVar scope name value
  | .addVar scope name delta => .addVar scope name delta
  | .removeVar scope name => .removeVar scope name
  | .addTag scope tag => .addTag scope tag
  | .removeTag scope tag => .removeTag scope tag
  | .consumeMp amount => .consumeMp amount

def movedBlock : Block → Block
  | .mk braced pos l => .mk braced (f pos) (movedStmts l)

def movedElse : Option Block → Option Block
  | some b => some (movedBlock b)
  | none => none

def movedStmts : List (Located Stmt) → List (Located Stmt)
  | [] => []
  | ⟨s, pos⟩ :: rest => ⟨movedStmt s, f pos⟩ :: movedStmts rest

end

/-- A statement that is moved with the position where it begins. -/
def Located.movedStmt (s : Located Stmt) : Located Stmt := ⟨Script.movedStmt f s.node, f s.pos⟩

theorem movedStmts_eq_map (l : List (Located Stmt)) :
    movedStmts f l = l.map (Located.movedStmt f) := by
  induction l with
  | nil => rw [movedStmts, List.map_nil]
  | cons s l ih =>
    obtain ⟨s, pos⟩ := s
    rw [movedStmts, ih, List.map_cons, Located.movedStmt]

/-- A piece of a script that is moved. -/
def Piece.moved : Piece → Piece
  | declaration m => declaration (m.moved f)
  | statement s => statement (s.movedStmt f)

/-- A script whose positions are moved. -/
def moved (s : Script) : Script where
  metas := s.metas.map (Located.moved f)
  stmts := movedStmts f s.stmts

/-! ## What is not moved -/

theorem Cond.moved_id (c : Cond) : c.moved id = c := by
  induction c with
  | not c ih => rw [Cond.moved, ih]
  | and lhs rhs ihl ihr | or lhs rhs ihl ihr => rw [Cond.moved, ihl, ihr]
  | _ => rfl

theorem Selector.moved_id (s : Selector) : s.moved id = s := by
  have hlocated : ∀ {α : Type} (o : Option (Located α)), o.map (Located.moved id) = o :=
    fun _ => Option.map_id_apply
  unfold Selector.moved
  rw [hlocated, hlocated, hlocated]

mutual

theorem movedStmt_id : (s : Stmt) → movedStmt id s = s
  | .branch cond yes no => by
    rw [movedStmt, cond.moved_id, movedBlock_id yes, movedElse_id no]
  | .repeat times body => by rw [movedStmt, movedBlock_id body]
  | .parallel body => by rw [movedStmt, movedBlock_id body]
  | .forEach selector body => by
    rw [movedStmt, selector.node.moved_id, movedBlock_id body]
    rfl
  | .chance percent yes no => by rw [movedStmt, movedBlock_id yes, movedElse_id no]
  | .deal .. | .heal .. | .move .. | .dash .. | .line .. | .setVar .. | .addVar .. | .removeVar ..
  | .addTag .. | .removeTag .. | .consumeMp .. => by rw [movedStmt]

theorem movedBlock_id : (b : Block) → movedBlock id b = b
  | .mk braced pos l => by
    rw [movedBlock, movedStmts_id l]
    rfl

theorem movedElse_id : (no : Option Block) → movedElse id no = no
  | some b => by rw [movedElse, movedBlock_id b]
  | none => by rw [movedElse]

theorem movedStmts_id : (l : List (Located Stmt)) → movedStmts id l = l
  | [] => by rw [movedStmts]
  | ⟨s, pos⟩ :: rest => by
    rw [movedStmts, movedStmt_id s, movedStmts_id rest]
    rfl

end

theorem Piece.moved_id (p : Piece) : p.moved id = p := by
  cases p with
  | declaration m => rfl
  | statement s =>
    rw [Piece.moved, Located.movedStmt, movedStmt_id]
    rfl

end Skirmish.Script
