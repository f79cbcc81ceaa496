import Skirmish.Proofs.Source.Fault

/-!
# Faults in statements

Expressions, conditions and statements find their faults in what they read, one level deeper than
what they are read in as well (`blames_statementWithin`). A condition in parentheses that cannot be
read says nothing: what it began with is read again as an expression.
-/

namespace Skirmish.Script

open Script.Parser

namespace Parser

/-! ## Expressions -/

theorem blames_eatWord (w : String) : Blames (eatWord w) := .eat _

theorem blames_atRef : Blames atRef := .bind .peek? fun _ => .pure _

theorem blames_text (what : String) : Blames (text what) := .take _ _

theorem blames_varName : Blames varName := .take _ _

theorem blames_reference : Blames reference := by
  refine .here_take (g := word?) fun start place tail w l hplace hnext hw htail => ?_
  split
  · exact .pure htail
  · exact .pure htail
  · exact .pure htail
  · exact .pure htail
  · exact Blames.bind (blames_text _) (fun _ => .pure _) htail
  · refine .failAt hplace ?_
    rw [hnext, word?_eq_some hw]
    exact .unexpected _ _

theorem blames_named {α : Type} (what : String) (ofName? : String → Option α) :
    Blames (named what ofName?) := by
  refine .here_take (g := word?) fun start place tail w l hplace hnext hw htail => ?_
  split
  · exact .pure htail
  · refine .failAt hplace ?_
    rw [hnext, word?_eq_some hw]
    exact .invalidName _ _

theorem blames_sum {operand : Parser Expr} (h : Blames operand) : Blames (sum operand) :=
  .chain (.take? _) (.chain (.take? _) h)

theorem blames_operand {inner : Parser Expr} (h : Blames inner) : Blames (operand inner) := by
  unfold operand
  refine .bind (.eat _) fun _ => ?_
  split
  · exact .bind h fun _ => .pure _
  refine .bind (.eat _) fun _ => ?_
  split
  · exact .bind (blames_sum h) fun _ => .bind (.expect _ _) fun _ => .pure _
  refine .bind (.take? _) fun _ => ?_
  split
  · exact .pure _
  refine .bind (.eat _) fun _ => ?_
  split
  · exact .pure _
  refine .bind (.eat _) fun _ => ?_
  split
  · exact .bind (.expect _ _) fun _ => .bind blames_varName fun _ => .pure _
  refine .bind blames_atRef fun _ => ?_
  split
  · exact .bind blames_reference fun _ => .bind (.expect _ _) fun _ => .bind blames_varName fun _ =>
      .pure _
  · exact .unexpected _

theorem blames_tooDeep {α : Type} : Blames (tooDeep : Parser α) := .fail .tooDeep

theorem blames_expr (levels : Nat) : Blames (expr levels) := by
  have hoperand : ∀ levels, Blames (operandWithin levels) := by
    intro levels
    induction levels with
    | zero => exact blames_operand blames_tooDeep
    | succ levels ih => exact blames_operand ih
  exact blames_sum (hoperand levels)

/-! ## Conditions -/

theorem blames_tagTest : Blames tagTest := .bind (.expect _ _) fun _ => blames_text _

theorem blames_globalHasTag? : Blames globalHasTag? := by
  intro start input h
  have hrest : Blames (if (input.tokens.map Token.lexeme).take 2 = [.word "global", .word "has"] then do
      skip
      skip
      return some (.globalHasTag (← tagTest))
    else return none : Parser (Option Cond)) := by
    split
    · exact .bind .skip fun _ => .bind .skip fun _ => .bind blames_tagTest fun _ => .pure _
    · exact .pure _
  exact .of_eq (hrest h) rfl

/-- What was read of the name of a unit may be given back. -/
theorem blames_hasTag? : Blames hasTag? := by
  refine .bind blames_atRef fun isRef => ?_
  split
  · exact .pure _
  intro start input h
  have hrest : BlamesAt start (do
      let ref ← reference
      if ← eatWord "has" then return some (.hasTag ref (← tagTest))
      else
        set input
        return none : Parser (Option Cond)) input := by
    refine .bind (blames_reference h) fun ref left _ hleft => ?_
    refine .bind (blames_eatWord _ hleft) fun has left' _ hleft' => ?_
    cases has with
    | true => exact Blames.bind blames_tagTest (fun _ => .pure _) hleft'
    | false => exact .of_eq (.pure (a := none) h) rfl
  exact .of_eq hrest rfl

theorem blames_disjunction {operand : Parser Cond} (h : Blames operand) :
    Blames (disjunction operand) := by
  have hjoined : ∀ (w : String) (join : Cond → Cond → Cond),
      Blames (return if ← eatWord w then some join else none) :=
    fun w join => .bind (blames_eatWord w) fun _ => .pure _
  exact .chain (hjoined _ _) (.chain (hjoined _ _) h)

theorem blames_grouped? {inner : Parser Cond} (h : Blames inner) : Blames (grouped? inner) := by
  refine .bind (.eat _) fun _ => ?_
  split
  · exact .pure _
  refine .bind h fun _ => .bind (.eat _) fun _ => .bind .peek? fun _ => ?_
  split
  · exact .pure _
  · exact .pure _

theorem blames_condOperand (levels : Nat) {inner : Parser Cond} (h : Blames inner) :
    Blames (condOperand levels inner) := by
  refine .here fun pos => .bind (blames_eatWord _) fun _ => ?_
  split
  · exact .bind h fun _ => .pure _
  refine .bind (blames_eatWord _) fun _ => ?_
  split
  · exact .bind (blames_expr levels) fun _ => .bind (.expect _ _) fun _ => .pure _
  refine .bind blames_globalHasTag? fun _ => ?_
  split
  · exact .pure _
  refine .bind blames_hasTag? fun _ => ?_
  split
  · exact .pure _
  refine .bind (.attempt (blames_grouped? (blames_disjunction h))) fun _ => ?_
  split
  · exact .pure _
  refine .bind (blames_expr levels) fun _ => .bind (.take? _) fun _ => ?_
  split
  · exact .bind (blames_expr levels) fun _ => .pure _
  · exact .pure _

theorem blames_condition (levels : Nat) : Blames (condition levels) := by
  have hoperand : ∀ levels, Blames (condOperandWithin levels) := by
    intro levels
    induction levels with
    | zero => exact blames_condOperand 0 blames_tooDeep
    | succ levels ih => exact blames_condOperand (levels + 1) ih
  exact blames_disjunction (hoperand levels)

/-! ## Parts of statements -/

theorem blames_damageKind : Blames damageKind := .bind (.take? _) fun _ => .pure _

theorem blames_pointTail (levels : Nat) : Blames (pointTail levels) :=
  .bind (blames_expr levels) fun _ => .bind (.expect _ _) fun _ => .bind (blames_expr levels) fun _ =>
    .bind (.expect _ _) fun _ => .pure _

theorem blames_scope (levels : Nat) : Blames (scope levels) := by
  refine .bind (blames_eatWord _) fun _ => ?_
  split
  · exact .pure _
  refine .bind (blames_eatWord _) fun _ => ?_
  split
  · refine .bind (blames_eatWord _) fun _ => ?_
    split
    · exact .bind blames_reference fun _ => .pure _
    · exact .bind (.expect _ _) fun _ => .bind (blames_pointTail levels) fun _ => .pure _
  · exact .bind blames_reference fun _ => .pure _

theorem blames_destination (levels : Nat) : Blames (destination levels) := by
  refine .bind (.eat _) fun _ => ?_
  split
  · exact .bind (blames_pointTail levels) fun _ => .pure _
  · exact .bind blames_reference fun _ => .pure _

theorem blames_variableName : Blames variableName := .bind (.expect _ _) fun _ => blames_text _

/-! ## Selectors -/

theorem blames_optionsOf {σ : Type} {options : List (String × (σ → Parser σ))} (s : σ)
    (h : ∀ o ∈ options, ∀ s, Blames (o.2 s)) : Blames (optionsOf options s) := by
  refine .steps (fun s start input hinput => ?_) s
  refine .take? hinput (fun o l tail _ ho htail => ?_) (.pure hinput)
  exact Blames.bind (h o (List.mem_of_find?_eq_some ho) s) (fun _ => .pure _) htail

theorem blames_lineArea (levels : Nat) : Blames (lineArea levels) := by
  refine .bind (.expect _ _) fun _ => .bind (blames_expr levels) fun _ =>
    .bind (blames_optionsOf _ fun o ho s => ?_) fun _ => .pure _
  rw [List.mem_cons, List.mem_singleton] at ho
  obtain rfl | rfl := ho
  · exact .bind (blames_named _ _) fun _ => .pure _
  · exact .bind (blames_expr levels) fun _ => .pure _

theorem blames_coneArea (levels : Nat) : Blames (coneArea levels) := by
  refine .bind (.expect _ _) fun _ => .bind (blames_expr levels) fun _ =>
    .bind (blames_optionsOf _ fun o ho s => ?_) fun _ => .pure _
  rw [List.mem_cons, List.mem_singleton] at ho
  obtain rfl | rfl := ho
  · exact .bind (blames_expr levels) fun _ => .pure _
  · exact .bind (blames_named _ _) fun _ => .pure _

theorem blames_pool : Blames pool := by
  refine .here_take (g := word?) fun start place tail w l hplace hnext hw htail => ?_
  split
  · exact .pure htail
  · exact .pure htail
  · exact .pure htail
  · refine .failAt hplace ?_
    rw [hnext, word?_eq_some hw]
    exact .invalidPool _

theorem blames_restriction (levels : Nat) (pos : Pos) (s : Selector) :
    Blames (restriction levels pos s) := by
  refine .bind (blames_eatWord _) fun _ => ?_
  split
  · refine .bind (blames_expr levels) fun _ => .bind (blames_eatWord _) fun _ => ?_
    split
    · exact .bind blames_reference fun _ => .pure _
    · exact .pure _
  refine .bind (blames_eatWord _) fun _ => ?_
  split
  · exact .bind (blames_lineArea levels) fun _ => .pure _
  refine .bind (blames_eatWord _) fun _ => ?_
  split
  · exact .bind (blames_coneArea levels) fun _ => .pure _
  · exact .unexpected _

theorem blames_selectorOption (levels : Nat) (s : Selector) : Blames (selectorOption levels s) := by
  refine .here fun pos => .bind (blames_eatWord _) fun _ => ?_
  split
  · exact .pure _
  refine .bind (blames_eatWord _) fun _ => ?_
  split
  · exact .pure _
  refine .bind (blames_eatWord _) fun _ => ?_
  split
  · exact .bind (blames_expr levels) fun _ => .pure _
  refine .bind (blames_eatWord _) fun _ => ?_
  split
  · exact .bind blames_tagTest fun _ => .pure _
  refine .bind (blames_eatWord _) fun _ => ?_
  split
  · exact .bind (blames_restriction levels pos s) fun _ => .pure _
  · exact .pure _

theorem blames_selector (levels : Nat) : Blames (selector levels) :=
  .here fun _ => .bind blames_pool fun _ => .bind (.steps (blames_selectorOption levels) _) fun _ =>
    .pure _

/-! ## Statements -/

section Inner

variable {inner : Parser (Located Stmt)} (hinner : Blames inner)
include hinner

theorem blames_bracedBlock : Blames (bracedBlock inner) := by
  refine .here fun pos => .bind (.expect _ _) fun _ => .bind (.many ?_) fun _ =>
    .bind .skip fun _ => .pure _
  refine .bind (.skipAll _) fun _ => .bind .peek? fun _ => ?_
  split
  · exact .pure _
  · exact .bind hinner fun _ => .pure _
  · exact .unexpected _

theorem blames_body : Blames (body inner) := by
  refine .bind .peek? fun _ => ?_
  split
  · exact blames_bracedBlock hinner
  · exact .here fun _ => .bind hinner fun _ => .pure _

theorem blames_elseBody : Blames (elseBody inner) := by
  refine .bind (blames_eatWord _) fun _ => ?_
  split
  · exact .bind (blames_body hinner) fun _ => .pure _
  · exact .pure _

theorem blames_statementTail {levels : Nat} {w : String} {tail : Parser Stmt}
    (h : statementTail? levels inner w = some tail) : Blames tail := by
  unfold statementTail? at h
  split at h <;> cases h
  case h_1 => -- deal
    exact .bind blames_damageKind fun _ => .bind (blames_expr levels) fun _ =>
      .bind (.expect _ _) fun _ => .bind (.expect _ _) fun _ => .bind blames_reference fun _ => .pure _
  case h_2 => -- heal
    exact .bind (blames_expr levels) fun _ => .bind (.expect _ _) fun _ =>
      .bind blames_reference fun _ => .pure _
  case h_3 => -- move
    exact .bind blames_reference fun _ => .bind (.expect _ _) fun _ =>
      .bind (blames_destination levels) fun _ => .pure _
  case h_4 => -- dash
    exact .bind (.expect _ _) fun _ => .bind blames_reference fun _ => .bind (.expect _ _) fun _ =>
      .bind (.expect _ _) fun _ => .bind (blames_expr levels) fun _ => .pure _
  case h_5 => -- line
    refine .bind blames_damageKind fun _ => .bind (blames_expr levels) fun _ =>
      .bind (.expect _ _) fun _ => .bind blames_reference fun _ => .bind (.expect _ _) fun _ =>
      .bind (blames_expr levels) fun _ => .bind (blames_eatWord _) fun _ => ?_
    split
    · exact .bind (blames_expr levels) fun _ => .pure _
    · exact .pure _
  case h_6 => -- set
    exact .bind (blames_scope levels) fun _ => .bind blames_variableName fun _ =>
      .bind (.expect _ _) fun _ => .bind (blames_expr levels) fun _ => .pure _
  case h_7 => -- add
    refine .bind (blames_scope levels) fun _ => .bind (blames_eatWord _) fun _ => ?_
    split
    · exact .bind (blames_text _) fun _ => .pure _
    · exact .bind blames_variableName fun _ => .bind (.expect _ _) fun _ =>
        .bind (blames_expr levels) fun _ => .pure _
  case h_8 => -- remove
    refine .bind (blames_scope levels) fun _ => .bind (blames_eatWord _) fun _ => ?_
    split
    · exact .bind (blames_text _) fun _ => .pure _
    · exact .bind blames_variableName fun _ => .pure _
  case h_9 => -- consume
    exact .bind (.expect _ _) fun _ => .bind (.expect _ _) fun _ => .bind (blames_expr levels) fun _ =>
      .pure _
  case h_10 => -- if
    exact .bind (blames_condition levels) fun _ => .bind (.expect _ _) fun _ =>
      .bind (blames_body hinner) fun _ => .bind (blames_elseBody hinner) fun _ => .pure _
  case h_11 => -- repeat
    exact .bind (blames_expr levels) fun _ => .bind (.expect _ _) fun _ =>
      .bind (blames_body hinner) fun _ => .pure _
  case h_12 => -- parallel
    exact .bind (blames_bracedBlock hinner) fun _ => .pure _
  case h_13 => -- for
    exact .bind (.expect _ _) fun _ => .bind (blames_selector levels) fun _ =>
      .bind (.expect _ _) fun _ => .bind (blames_body hinner) fun _ => .pure _
  case h_14 => -- chance
    exact .bind (blames_expr levels) fun _ => .bind (.expect _ _) fun _ => .bind (.expect _ _) fun _ =>
      .bind (blames_body hinner) fun _ => .bind (blames_elseBody hinner) fun _ => .pure _

/-- A word that begins no statement is found where it stands. -/
theorem blames_statement (levels : Nat) : Blames (statement levels inner) := by
  refine fun start input h => .here (.peek? ?_)
  split
  · exact .unexpected _ h
  next w hword =>
  obtain ⟨l, hnext, hw⟩ := Option.bind_eq_some_iff.1 hword
  rw [word?_eq_some hw] at hnext
  split
  · exact .fail h (hnext ▸ .nestedMeta w)
  split
  · exact .fail h (hnext ▸ .unknownStatement w)
  · next tail htail =>
    exact Blames.bind .skip (fun _ => .bind (blames_statementTail hinner htail) fun _ => .pure _) h

end Inner

theorem blames_statementWithin (levels : Nat) : Blames (statementWithin levels) := by
  induction levels with
  | zero => exact blames_statement blames_tooDeep 0
  | succ levels ih => exact blames_statement ih (levels + 1)

end Parser

end Skirmish.Script
