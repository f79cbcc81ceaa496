import Skirmish.Proofs.Grammar.Reading
import Skirmish.Proofs.Grammar.Writing

/-!
# Reading expressions back

An expression that was written is read back, if nothing that goes on with it follows
(`reads_expr`). An operand is read back whatever follows (`reads_operand`).
-/

namespace Skirmish.Script

open Script.Parser

variable {style : Style}

/-! ## Units -/

theorem reads_reference (style : Style) (ref : Ref) :
    Reads reference (style.ref ref) Any (· = ref) := by
  refine .here fun pos => ?_
  cases ref with
  | caster =>
    unfold Style.ref
    cases style.saysCaster
    · exact .bind_cons (.take rfl) (.pure rfl)
    · exact .bind_cons (.take rfl) (.pure rfl)
  | target => exact .bind_cons (.take rfl) (.pure rfl)
  | it => exact .bind_cons (.take rfl) (.pure rfl)
  | unit id => exact .bind_cons (.take rfl) (.bind_cons (.take rfl) (.pure rfl))

theorem ref_eq (style : Style) (ref : Ref) :
    ∃ w more, style.ref ref = .word w :: more ∧ w ∈ refWords := by
  cases ref with
  | caster =>
    unfold Style.ref
    cases style.saysCaster
    · exact ⟨"self", [], rfl, by decide⟩
    · exact ⟨"caster", [], rfl, by decide⟩
  | target => exact ⟨"target", [], rfl, by decide⟩
  | it => exact ⟨"it", [], rfl, by decide⟩
  | unit id => exact ⟨"unit", [.text id], rfl, by decide⟩

theorem reads_atRef {next : List Lexeme → Prop} {ls : List Lexeme} {w : String} (h : w ∈ refWords)
    {β : Type} {f : Bool → Parser β} {Q : β → Prop} (hf : Reads (f true) (.word w :: ls) next Q) :
    Reads (atRef >>= f) (.word w :: ls) next Q := by
  have hat : Reads atRef [] (fun ms => ms.head? = some (.word w)) (· = true) :=
    .peek? (fun _ hhead => hhead) (.pure (List.contains_iff_mem.2 h))
  exact .bind_nil hat (fun _ _ => rfl) hf

/-! ## What expressions begin with -/

/-- How the first lexemes of an expression may look. -/
inductive StartsExpr : List Lexeme → Prop
  | paren (rest) : StartsExpr (.symbol .lparen :: rest)
  | minus (rest) : StartsExpr (.symbol .minus :: rest)
  | literal {l v} (h : literal? l = some v) (rest) : StartsExpr (l :: rest)
  | turn (rest) : StartsExpr (.word "turn" :: rest)
  | global (rest) : StartsExpr (.word "global" :: .symbol .dot :: rest)
  | ref (style : Style) (ref : Ref) (rest) : StartsExpr (style.ref ref ++ .symbol .dot :: rest)

/-- The lexeme of a literal. -/
theorem literalLexemes_eq {v : Value} (h : (Expr.lit v).isWritable) :
    ∃ l, literalLexemes v = [l] ∧ literal? l = some v := by
  cases v with
  | int n => exact ⟨_, rfl, rfl⟩
  | float x => exact ⟨_, rfl, rfl⟩
  | text s => exact ⟨_, rfl, rfl⟩
  | bool b => cases b <;> exact ⟨_, rfl, rfl⟩
  | coord p => cases h

theorem startsExpr_expr {e : Expr} (h : e.isWritable) (rest : List Lexeme) :
    StartsExpr (style.expr e ++ rest) := by
  induction e generalizing rest with
  | lit v =>
    obtain ⟨l, hl, hv⟩ := literalLexemes_eq h
    rw [Style.expr, hl]
    exact .literal hv rest
  | unitVar ref name =>
    rw [Style.expr, List.append_assoc]
    exact .ref style ref _
  | globalVar name => exact .global _
  | turn => exact .turn _
  | neg e => exact .minus _
  | bin op lhs rhs ihl ihr =>
    rw [Style.expr, List.append_assoc]
    obtain ⟨hlhs, -⟩ := Bool.and_eq_true_iff.1 h
    unfold enclose
    split
    · exact .paren _
    · exact ihl hlhs _

theorem startsExpr_enclose {e : Expr} (h : e.isWritable) (enclosed : Bool) (rest : List Lexeme) :
    StartsExpr (enclose enclosed (style.expr e) ++ rest) := by
  unfold enclose
  split
  · exact .paren _
  · exact startsExpr_expr h rest

/-! ## Parentheses -/

/-- What stands in parentheses perhaps is read back in both ways. In parentheses there is a level
less for it. -/
theorem reads_enclose {α : Type} {p : Nat → Parser α} {ls : List Lexeme}
    {next : List Lexeme → Prop} {P : α → Prop} {enclosed : Bool} {nesting levels : Nat}
    (h : nesting + enclosed.toNat ≤ levels)
    (hbare : enclosed = false → nesting ≤ levels → Reads (p levels) ls next P)
    (hfull : ∀ levels, nesting ≤ levels → Reads (p (levels + 1)) (enclose true ls) next P) :
    Reads (p levels) (enclose enclosed ls) next P := by
  cases enclosed with
  | false => exact hbare rfl h
  | true =>
    cases levels with
    | zero => exact absurd h (Nat.not_succ_le_zero _)
    | succ levels => exact hfull levels (Nat.le_of_succ_le_succ h)

/-! ## Operands -/

/-- What reads the operands one level deeper. -/
def innerOperand : Nat → Parser Expr
  | 0 => tooDeep
  | levels + 1 => operandWithin levels

theorem operandWithin_eq (levels : Nat) : operandWithin levels = operand (innerOperand levels) := by
  cases levels <;> rfl

theorem reads_atom {inner : Parser Expr} {e : Expr} (h : e.isWritable)
    (hatom : ∀ e', e ≠ .neg e') (hbin : e.isBin = false) :
    Reads (operand inner) (style.expr e) Any (· = e) := by
  unfold operand
  cases e with
  | lit v =>
    obtain ⟨l, hl, hv⟩ := literalLexemes_eq h
    rw [Style.expr, hl]
    refine .bind_eat_ne (by rintro rfl; cases hv) (.bind_eat_ne (by rintro rfl; cases hv) ?_)
    exact .bind_cons (.take? hv) (.pure rfl)
  | unitVar ref name =>
    obtain ⟨w, more, hw, hmem⟩ := ref_eq style ref
    have hother : ∀ w ∈ refWords, literal? (.word w) = none ∧ Lexeme.word w ≠ .word "turn" ∧
        Lexeme.word w ≠ .word "global" := by decide
    obtain ⟨hliteral, hturn, hglobal⟩ := hother w hmem
    rw [Style.expr, hw, List.cons_append]
    refine .bind_eat_ne nofun (.bind_eat_ne nofun (.bind_take?_none hliteral ?_))
    refine .bind_eat_ne hturn (.bind_eat_ne hglobal ?_)
    refine reads_atRef hmem ?_
    rw [← List.cons_append, ← hw]
    refine .bind_eq (reads_reference style ref) (fun _ _ => trivial) ?_
    exact .bind_cons .expect (.bind_cons (.take rfl) (.pure rfl))
  | globalVar name =>
    refine .bind_eat_ne (by decide) (.bind_eat_ne (by decide) (.bind_take?_none rfl ?_))
    refine .bind_eat_ne (by decide) (.bind_cons .eat (.bind_cons .expect ?_))
    exact .bind_cons (.take rfl) (.pure rfl)
  | turn =>
    refine .bind_eat_ne (by decide) (.bind_eat_ne (by decide) (.bind_take?_none rfl ?_))
    exact .bind_cons .eat (.pure rfl)
  | neg e => exact absurd rfl (hatom e)
  | bin op lhs rhs => cases hbin

theorem reads_neg {inner : Parser Expr} {ls : List Lexeme} {e : Expr}
    (h : Reads inner ls Any (· = e)) :
    Reads (operand inner) (.symbol .minus :: ls) Any (· = .neg e) := by
  unfold operand
  exact .bind_cons .eat (.bind_pure h (fun _ _ => trivial) (.pure rfl))

/-! ## Sums and products -/

/-- Nothing follows that an expression goes on with. -/
def EndsExpr (ms : List Lexeme) : Prop :=
  ∀ l ∈ ms.head?, additive? l = none ∧ multiplicative? l = none

theorem endsExpr_cons {l : Lexeme} (hadd : additive? l = none) (hmul : multiplicative? l = none)
    (ms : List Lexeme) : EndsExpr (l :: ms) := by
  intro m hm
  obtain rfl := Option.some.inj hm
  exact ⟨hadd, hmul⟩

theorem endsExpr_word (w : String) (ms : List Lexeme) : EndsExpr (.word w :: ms) :=
  endsExpr_cons rfl rfl ms

theorem reads_additive_none :
    Reads (take? fun l => (additive? l).map Expr.bin) [] EndsExpr (· = none) := by
  refine Reads.take?_none.mono (fun ms hms => ?_) fun _ h => h
  cases hhead : ms.head? with
  | none => rfl
  | some l => rw [Option.bind_some, (hms l hhead).1, Option.map_none]

theorem reads_multiplicative_none :
    Reads (take? fun l => (multiplicative? l).map Expr.bin) []
      (fun ms => ∀ l ∈ ms.head?, multiplicative? l = none) (· = none) := by
  refine Reads.take?_none.mono (fun ms hms => ?_) fun _ h => h
  cases hhead : ms.head? with
  | none => rfl
  | some l => rw [Option.bind_some, hms l hhead, Option.map_none]

section Sum

variable {p : Parser Expr} {ls ms : List Lexeme} {lhs rhs : Expr}

/-- An operand is a product, in front of anything but an operator of products. -/
theorem reads_product (h : Reads p ls Any (· = lhs)) :
    Reads (chain (take? fun l => (multiplicative? l).map Expr.bin) p) ls
      (fun ms => ∀ l ∈ ms.head?, multiplicative? l = none) (· = lhs) :=
  .chain_one (h.mono (fun _ _ => trivial) fun _ h => h) reads_multiplicative_none

theorem reads_sum_one (h : Reads p ls Any (· = lhs)) : Reads (sum p) ls EndsExpr (· = lhs) :=
  .chain_one ((reads_product h).mono (fun _ hms l hl => (hms l hl).2) fun _ h => h)
    reads_additive_none

theorem reads_sum_two (op : BinOp) (hlhs : Reads p ls Any (· = lhs))
    (hrhs : Reads p ms Any (· = rhs)) :
    Reads (sum p) (ls ++ .symbol op.symbol :: ms) EndsExpr (· = .bin op lhs rhs) := by
  have hends : ∀ rest, EndsExpr rest → ∀ l ∈ rest.head?, multiplicative? l = none :=
    fun _ hrest l hl => (hrest l hl).2
  cases op with
  | add | sub =>
    refine .chain_two (reads_product hlhs) (fun _ l hl => ?_) (.take? rfl)
      ((reads_product hrhs).mono hends fun _ h => h) reads_additive_none ?_
    · cases hl
      rfl
    · rintro _ _ rfl rfl
      rfl
  | mul | div =>
    refine .chain_one (.chain_two hlhs (fun _ => trivial) (.take? rfl)
      (hrhs.mono (fun _ _ => trivial) fun _ h => h)
      (reads_multiplicative_none.mono hends fun _ h => h) ?_) reads_additive_none
    rintro _ _ rfl rfl
    rfl

end Sum

/-! ## Expressions -/

theorem reads_enclosed {levels : Nat} {ls : List Lexeme} {e : Expr}
    (h : Reads (expr levels) ls EndsExpr (· = e)) :
    Reads (operandWithin (levels + 1)) (enclose true ls) Any (· = e) := by
  rw [operandWithin_eq]
  unfold operand
  refine .bind_eat_ne nofun (.bind_cons .eat ?_)
  refine .bind_eq h (fun _ _ => endsExpr_cons rfl rfl _) ?_
  exact .bind_cons .expect (.pure rfl)

/-- An expression is read back in front of anything that does not go on with it; one that is no sum
or product is read back as an operand as it stands, whatever follows. -/
structure Expr.ReadsBack (style : Style) (e : Expr) : Prop where
  bare : e.isBin = false → ∀ levels, style.exprNesting e ≤ levels →
    Reads (operandWithin levels) (style.expr e) Any (· = e)
  full : ∀ levels, style.exprNesting e ≤ levels →
    Reads (expr levels) (style.expr e) EndsExpr (· = e)

theorem Expr.ReadsBack.of_bare {e : Expr} (h : ∀ levels, style.exprNesting e ≤ levels →
      Reads (operandWithin levels) (style.expr e) Any (· = e)) : e.ReadsBack style :=
  ⟨fun _ => h, fun levels hle => reads_sum_one (h levels hle)⟩

/-- An operand stands in parentheses or as it is. -/
theorem Expr.ReadsBack.operand {e : Expr} (he : e.ReadsBack style) {levels : Nat}
    (h : style.operandNesting e ≤ levels) :
    Reads (operandWithin levels) (style.operand e) Any (· = e) := by
  refine reads_enclose h (fun hencloses h => ?_) fun levels h => reads_enclosed (he.full levels h)
  exact he.bare (Bool.or_eq_false_iff.1 hencloses).1 levels h

/-- Every expression that was written is read back. -/
theorem Expr.readsBack {e : Expr} (hwritable : e.isWritable) : e.ReadsBack style := by
  induction e with
  | lit | unitVar | globalVar | turn =>
    refine .of_bare fun levels _ => ?_
    rw [operandWithin_eq]
    exact reads_atom hwritable nofun rfl
  | neg e ih =>
    refine .of_bare fun levels h => ?_
    cases levels with
    | zero => exact absurd h (Nat.not_succ_le_zero _)
    | succ levels => exact reads_neg ((ih hwritable).operand (Nat.le_of_succ_le_succ h))
  | bin op lhs rhs ihl ihr =>
    obtain ⟨hl, hr⟩ := Bool.and_eq_true_iff.1 hwritable
    refine ⟨nofun, fun levels h => ?_⟩
    obtain ⟨hlhs, hrhs⟩ := Nat.max_le.1 h
    exact reads_sum_two op ((ihl hl).operand hlhs) ((ihr hr).operand hrhs)

variable {e : Expr} {levels : Nat}

theorem reads_expr (hwritable : e.isWritable) (h : style.exprNesting e ≤ levels) :
    Reads (expr levels) (style.expr e) EndsExpr (· = e) :=
  (Expr.readsBack hwritable).full levels h

theorem reads_operand (hwritable : e.isWritable) (h : style.operandNesting e ≤ levels) :
    Reads (operandWithin levels) (style.operand e) Any (· = e) :=
  (Expr.readsBack hwritable).operand h

/-- An expression that is no operand, in parentheses or not. -/
theorem reads_whole (hwritable : e.isWritable) (h : style.wholeNesting e ≤ levels) :
    Reads (expr levels) (style.whole e) EndsExpr (· = e) :=
  reads_enclose h (fun _ h => reads_expr hwritable h) fun _ h =>
    reads_sum_one (reads_enclosed (reads_expr hwritable h))

end Skirmish.Script
