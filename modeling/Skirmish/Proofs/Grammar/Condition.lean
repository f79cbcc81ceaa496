import Skirmish.Proofs.Grammar.Expression

/-!
# Reading conditions back

A parenthesis in a condition may belong to an expression. It is tried as a condition first; what is
tried fails if an operator follows the closing parenthesis, and then nothing of it is left
(`reads_attempt_operand`). So a condition that was written is read back (`reads_cond`).
-/

namespace Skirmish.Script

open Script.Parser

variable {style : Style}

/-! ## What may follow -/

/-- No operator between expressions follows. -/
def NoOperator (ms : List Lexeme) : Prop := ms.head?.any isOperator = false

/-- Nothing follows that a condition goes on with. -/
def EndsCond (ms : List Lexeme) : Prop :=
  NoOperator ms ∧ ms.head? ≠ some (.word "and") ∧ ms.head? ≠ some (.word "or")

theorem NoOperator.at {ms : List Lexeme} (h : NoOperator ms) {l : Lexeme} (hl : l ∈ ms.head?) :
    (additive? l = none ∧ multiplicative? l = none) ∧ comparison? l = none := by
  have hoperator : isOperator l = false := by
    unfold NoOperator at h
    rwa [hl] at h
  simpa only [isOperator, Bool.or_eq_false_iff, Option.isSome_eq_false_iff,
    Option.isNone_iff_eq_none] using hoperator

theorem NoOperator.endsExpr {ms : List Lexeme} (h : NoOperator ms) : EndsExpr ms :=
  fun _ hl => (h.at hl).1

theorem NoOperator.comparison {ms : List Lexeme} (h : NoOperator ms) :
    ms.head?.bind comparison? = none := by
  cases hhead : ms.head? with
  | none => rfl
  | some l => exact (h.at hhead).2

theorem endsCond_rparen (ms : List Lexeme) : EndsCond (.symbol .rparen :: ms) :=
  ⟨rfl, nofun, nofun⟩

/-! ## Tests that an expression passes -/

theorem StartsExpr.head?_ne_word {ms : List Lexeme} (h : StartsExpr ms) {w : String}
    (hliteral : literal? (.word w) = none) (hturn : w ≠ "turn") (hglobal : w ≠ "global")
    (href : w ∉ refWords) : ms.head? ≠ some (.word w) := by
  intro hhead
  cases h with
  | paren | minus => cases hhead
  | literal hv =>
    obtain rfl := Option.some.inj hhead
    rw [hliteral] at hv
    cases hv
  | turn =>
    obtain rfl := Lexeme.word.inj (Option.some.inj hhead)
    exact hturn rfl
  | global =>
    obtain rfl := Lexeme.word.inj (Option.some.inj hhead)
    exact hglobal rfl
  | ref style ref =>
    obtain ⟨w', more, hw, hmem⟩ := ref_eq style ref
    rw [hw] at hhead
    obtain rfl := Lexeme.word.inj (Option.some.inj hhead)
    exact href hmem

/-- The first two lexemes of a test whether the battle as a whole has a tag. -/
abbrev globalTest : List Lexeme := [.word "global", .word "has"]

theorem StartsExpr.take_ne {ms : List Lexeme} (h : StartsExpr ms) : ms.take 2 ≠ globalTest := by
  intro htake
  cases h with
  | paren | minus => cases htake
  | turn => exact absurd (List.cons.inj htake).1 (by decide)
  | global => cases (List.cons.inj (List.cons.inj htake).2).1
  | literal hv =>
    rw [(List.cons.inj htake).1] at hv
    cases hv
  | ref style ref =>
    obtain ⟨w, more, hw, hmem⟩ := ref_eq style ref
    rw [hw] at htake
    obtain rfl := Lexeme.word.inj (List.cons.inj htake).1
    exact absurd hmem (by decide)

theorem reads_globalHasTag?_none :
    Reads globalHasTag? [] (·.take 2 ≠ globalTest) (· = none) := by
  refine Reads.nil_iff.2 fun rest finish hrest => ⟨none, ?_, rfl⟩
  show (if _ = _ then _ else _ : Parser (Option Cond)) _ = _
  rw [if_neg hrest]
  rfl

/-- Whether the first of some lexemes names a unit. -/
def AtRef (ms : List Lexeme) : Bool := (ms.head?.bind word?).any refWords.contains

theorem atRef_apply (input : TokenList) :
    atRef input = .ok (AtRef (input.tokens.map Token.lexeme), input) := by
  rw [AtRef, List.head?_map]
  rfl

/-- Of all that an expression begins with, only the name of a unit names one. -/
theorem StartsExpr.ref_of_atRef {ms : List Lexeme} (h : StartsExpr ms) (hat : AtRef ms) :
    ∃ (style : Style) (ref : Ref) (rest : List Lexeme),
      ms = style.ref ref ++ .symbol .dot :: rest := by
  cases h with
  | paren | minus | turn | global => cases hat
  | ref style ref rest => exact ⟨style, ref, rest, rfl⟩
  | literal hv =>
    have hnone : ∀ w ∈ refWords, literal? (.word w) = none := by decide
    obtain ⟨w, hw, hmem⟩ := (Option.any_eq_true ..).1 hat
    rename_i l v rest
    cases l with
    | word w' =>
      obtain rfl := Option.some.inj hw
      rw [hnone _ (List.contains_iff_mem.1 hmem)] at hv
      cases hv
    | _ => cases hw

/-- A unit whose name is not followed by `has` is left to the expression that begins with it. -/
theorem reads_hasTag?_none : Reads hasTag? [] StartsExpr (· = none) := by
  refine Reads.nil_iff.2 fun rest finish hrest => ⟨none, ?_, rfl⟩
  unfold hasTag?
  rw [bind_of_ok (atRef_apply _)]
  cases hat : AtRef (rest.map Token.lexeme) with
  | false => rfl
  | true =>
    obtain ⟨style, ref, tail, hms⟩ := hrest.ref_of_atRef hat
    obtain ⟨us, vs, rfl, hus, hvs⟩ := List.map_eq_append_iff.1 hms
    obtain ⟨r, href, -⟩ := reads_reference style ref us vs finish hus trivial
    obtain ⟨_, heat, rfl⟩ := Reads.nil_iff.1 (Reads.eat_none (l := .word "has")) vs finish
      (by rw [hvs]; nofun)
    have hget : (get : Parser TokenList) ⟨us ++ vs, finish⟩ =
        .ok (⟨us ++ vs, finish⟩, ⟨us ++ vs, finish⟩) := rfl
    rw [if_neg (by decide), bind_of_ok hget, bind_of_ok href]
    unfold eatWord
    rw [bind_of_ok heat]
    rfl

/-! ## Parentheses -/

/-- What reads the operands of conditions one level deeper. -/
def innerCond : Nat → Parser Cond
  | 0 => tooDeep
  | levels + 1 => condOperandWithin levels

theorem condOperandWithin_eq (levels : Nat) :
    condOperandWithin levels = condOperand levels (innerCond levels) := by
  cases levels <;> rfl

section Grouped

variable {inner : Parser Cond} {ls : List Lexeme} {Q : Cond → Prop}

theorem reads_grouped (h : Reads inner ls EndsCond Q) :
    Reads (grouped? inner) (enclose true ls) NoOperator fun r => ∃ c, r = some c ∧ Q c := by
  refine .bind_cons .eat (.bind h (fun _ _ => endsCond_rparen _) fun c hc => .bind_cons .eat ?_)
  refine .peek?_nil fun ms hms => ?_
  rw [hms]
  exact .pure ⟨c, rfl, hc⟩

/-- What stands in parentheses in front of an operator is no condition. -/
theorem reads_grouped_none (h : Reads inner ls EndsCond Q) :
    Reads (grouped? inner) (enclose true ls) (·.head?.any isOperator) (· = none) := by
  refine .bind_cons .eat (.bind h (fun _ _ => endsCond_rparen _) fun c hc => .bind_cons .eat ?_)
  refine .peek?_nil fun ms hms => ?_
  rw [hms]
  exact .pure rfl

theorem reads_attempt_no_paren :
    Reads (attempt (grouped? inner)) [] (·.head? ≠ some (.symbol .lparen)) (· = none) := by
  have hnone : Reads (grouped? inner) [] (·.head? ≠ some (.symbol .lparen)) (· = none) :=
    .bind_nil .eat_none (fun _ h => h) (.pure rfl)
  exact (Reads.attempt_none hnone).mono (fun ms hms => ⟨ms, rfl, hms⟩) fun _ h => h

end Grouped

/-! ## Expressions as conditions -/

/-- What is left to try when a condition begins with no word of its own. -/
def condTail (levels : Nat) (inner : Parser Cond) : Parser Cond := do
  if let some c ← attempt (grouped? (disjunction inner)) then return c
  else
    let lhs ← expr levels
    match ← take? comparison? with
    | some op => return .cmp op lhs (← expr levels)
    | none => return .truthy lhs

theorem reads_condOperand_of_tail {levels : Nat} {inner : Parser Cond} {ls : List Lexeme}
    {next : List Lexeme → Prop} {Q : Cond → Prop}
    (hstart : ∀ rest, next rest → StartsExpr (ls ++ rest))
    (htail : Reads (condTail levels inner) ls next Q) :
    Reads (condOperand levels inner) ls next Q := by
  have hne : ∀ w : String, literal? (.word w) = none → w ≠ "turn" → w ≠ "global" → w ∉ refWords →
      ∀ rest, next rest → (ls ++ rest).head? ≠ some (.word w) :=
    fun w hliteral hturn hglobal href rest hrest =>
      (hstart rest hrest).head?_ne_word hliteral hturn hglobal href
  refine .here fun pos => ?_
  refine .bind_nil .eat_none (hne "not" rfl (by decide) (by decide) (by decide)) ?_
  refine .bind_nil .eat_none (hne "chance" rfl (by decide) (by decide) (by decide)) ?_
  refine .bind_nil reads_globalHasTag?_none (fun rest hrest => (hstart rest hrest).take_ne) ?_
  exact .bind_nil reads_hasTag?_none hstart htail

/-- Conditions joined by nothing. -/
theorem reads_disjunction_one {p : Parser Cond} {ls : List Lexeme} {Q : Cond → Prop}
    (h : Reads p ls NoOperator Q) : Reads (disjunction p) ls EndsCond Q := by
  refine .chain_one (.chain_one (h.mono (fun _ hms => hms.1) fun _ h => h) ?_) ?_
  · exact .bind_nil .eat_none (fun _ hms => hms.2.1) (.pure rfl)
  · exact .bind_nil .eat_none (fun _ hms => hms.2.2) (.pure rfl)

theorem head?_bare_ne_paren {e : Expr} (hwritable : e.isWritable) (hbin : e.isBin = false)
    (rest : List Lexeme) : (style.expr e ++ rest).head? ≠ some (.symbol .lparen) := by
  cases e with
  | lit v =>
    obtain ⟨l, hl, hv⟩ := literalLexemes_eq hwritable
    rw [Style.expr, hl]
    intro h
    obtain rfl := Option.some.inj h
    cases hv
  | unitVar ref name =>
    obtain ⟨w, more, hw, -⟩ := ref_eq style ref
    rw [Style.expr, hw]
    intro h
    cases h
  | globalVar | turn | neg =>
    intro h
    cases h
  | bin => cases hbin

section Attempt

variable {levels : Nat}

/-- What is tried in front of an operator, at an operand that begins a condition. -/
theorem reads_attempt_operand {lhs : Expr} (hwritable : lhs.isWritable)
    (h : style.operandNesting lhs ≤ levels)
    (htruthy : ∀ levels, style.exprNesting lhs ≤ levels →
      Reads (condOperandWithin levels) (style.expr lhs) NoOperator (· = .truthy lhs)) :
    Reads (attempt (grouped? (disjunction (innerCond levels)))) []
      (fun ms => ∃ rest, ms = style.operand lhs ++ rest ∧ rest.head?.any isOperator)
      (· = none) := by
  unfold Style.operandNesting at h
  unfold Style.operand
  cases hencloses : style.encloses lhs with
  | false =>
    refine reads_attempt_no_paren.mono ?_ fun _ h => h
    rintro _ ⟨rest, rfl, -⟩
    exact head?_bare_ne_paren hwritable (Bool.or_eq_false_iff.1 hencloses).1 rest
  | true =>
    rw [hencloses] at h
    cases levels with
    | zero => exact absurd h (Nat.not_succ_le_zero _)
    | succ levels =>
      exact .attempt_none
        (reads_grouped_none (reads_disjunction_one (htruthy levels (Nat.le_of_succ_le_succ h))))

theorem reads_condTail_truthy {inner : Parser Cond} {e : Expr} {ls : List Lexeme}
    {follow : List Lexeme → Prop}
    (hattempt : Reads (attempt (grouped? (disjunction inner))) [] follow (· = none))
    (hfollow : ∀ rest, NoOperator rest → follow (ls ++ rest))
    (hexpr : Reads (expr levels) ls EndsExpr (· = e)) :
    Reads (condTail levels inner) ls NoOperator (· = .truthy e) := by
  refine .bind_nil hattempt hfollow ?_
  refine .bind_pure hexpr (fun _ hrest => hrest.endsExpr) ?_
  exact .bind_nil .take?_none (fun _ hrest => hrest.comparison) (.pure rfl)

/-- An expression, read as a condition. -/
theorem reads_truthy_expr {e : Expr} (hwritable : e.isWritable) (levels : Nat)
    (h : style.exprNesting e ≤ levels) :
    Reads (condOperandWithin levels) (style.expr e) NoOperator (· = .truthy e) := by
  rw [condOperandWithin_eq]
  refine reads_condOperand_of_tail (fun rest _ => startsExpr_expr hwritable rest) ?_
  have hexpr := reads_expr hwritable h
  cases e with
  | bin op lhs rhs =>
    -- the left operand alone would do as a condition, but an operator follows it
    obtain ⟨hl, -⟩ := Bool.and_eq_true_iff.1 hwritable
    have hattempt := reads_attempt_operand hl (Nat.max_le.1 h).1 fun levels h =>
      reads_truthy_expr hl levels h
    refine reads_condTail_truthy hattempt (fun rest _ => ⟨_, List.append_assoc .., ?_⟩) hexpr
    cases op <;> rfl
  | lit | unitVar | globalVar | turn | neg =>
    exact reads_condTail_truthy reads_attempt_no_paren
      (fun rest _ => head?_bare_ne_paren hwritable rfl rest) hexpr

end Attempt

/-! ## Conditions -/

theorem reads_tagTest (tag : String) : Reads tagTest (Style.tagTest tag) Any (· = tag) :=
  .bind_cons .expect (.take rfl)

section Parts

variable {levels : Nat} {inner : Parser Cond} {ls ms : List Lexeme} {Q : Cond → Prop}

theorem reads_condOperand_enclosed
    (h : Reads (disjunction (condOperandWithin levels)) ls EndsCond Q) :
    Reads (condOperandWithin (levels + 1)) (enclose true ls) NoOperator Q := by
  refine reads_condOperand_of_tail (fun rest _ => .paren _) ?_
  refine .bind_last (.attempt (reads_grouped h)) (fun _ hrest => hrest) fun r hr => ?_
  obtain ⟨c, rfl, hc⟩ := hr
  exact .pure hc

theorem reads_truthy_whole {e : Expr} (hwritable : e.isWritable)
    (h : style.wholeNesting e ≤ levels) :
    Reads (condOperandWithin levels) (style.whole e) NoOperator (· = .truthy e) :=
  reads_enclose h (fun _ h => reads_truthy_expr hwritable levels h) fun levels h =>
    reads_condOperand_enclosed (reads_disjunction_one (reads_truthy_expr hwritable levels h))

theorem reads_cmp (op : CmpOp) {lhs rhs : Expr} (hl : lhs.isWritable) (hr : rhs.isWritable)
    (hlhs : style.operandNesting lhs ≤ levels) (hrhs : style.operandNesting rhs ≤ levels) :
    Reads (condOperandWithin levels) (style.cond (.cmp op lhs rhs)) NoOperator
      (· = .cmp op lhs rhs) := by
  have hoperator : isOperator (.symbol op.symbol) ∧ comparison? (.symbol op.symbol) = some op ∧
      additive? (.symbol op.symbol) = none ∧ multiplicative? (.symbol op.symbol) = none := by
    cases op <;> exact ⟨rfl, rfl, rfl, rfl⟩
  obtain ⟨hoperator, hcomparison, hadd, hmul⟩ := hoperator
  rw [condOperandWithin_eq, Style.cond]
  refine reads_condOperand_of_tail (fun rest _ => ?_) ?_
  · rw [List.append_assoc]
    exact startsExpr_enclose hl _ _
  have hattempt := reads_attempt_operand hl hlhs fun levels h => reads_truthy_expr hl levels h
  refine .bind_nil hattempt (fun rest _ => ⟨_, List.append_assoc .., hoperator⟩) ?_
  refine .bind_eq (reads_sum_one (reads_operand hl hlhs)) (fun _ _ => endsExpr_cons hadd hmul _) ?_
  refine .bind_cons (.take? hcomparison) ?_
  have hoperand := reads_sum_one (reads_operand hr hrhs)
  exact .bind_pure hoperand (fun _ hrest => hrest.endsExpr) (.pure rfl)

theorem reads_hasTag (ref : Ref) (tag : String) :
    Reads (condOperand levels inner) (style.cond (.hasTag ref tag)) NoOperator
      (· = .hasTag ref tag) := by
  obtain ⟨w, more, hw, hmem⟩ := ref_eq style ref
  have hother : ∀ w ∈ refWords, Lexeme.word w ≠ .word "not" ∧ Lexeme.word w ≠ .word "chance" ∧
      Lexeme.word w ≠ .word "global" := by decide
  obtain ⟨hnot, hchance, hglobal⟩ := hother w hmem
  have htest : Reads hasTag? (style.cond (.hasTag ref tag)) Any (· = some (.hasTag ref tag)) := by
    rw [Style.cond, hw, List.cons_append]
    refine reads_atRef hmem (.get fun _ _ _ => ?_)
    rw [← List.cons_append, ← hw]
    refine .bind_eq (reads_reference style ref) (fun _ _ => trivial) (.bind_cons .eat ?_)
    exact .bind_pure (reads_tagTest tag) (fun _ _ => trivial) (.pure rfl)
  have htail : Reads (do
      if let some c ← hasTag? then return c else condTail levels inner)
      (style.cond (.hasTag ref tag)) NoOperator (· = .hasTag ref tag) :=
    .bind_pure htest (fun _ _ => trivial) (.pure rfl)
  rw [Style.cond, hw, List.cons_append] at htail ⊢
  refine .here fun pos => .bind_eat_ne hnot (.bind_eat_ne hchance ?_)
  refine .bind_nil reads_globalHasTag?_none (fun rest _ htake => hglobal ?_) htail
  exact (List.cons.inj htake).1

theorem reads_globalHasTag (tag : String) :
    Reads (condOperand levels inner) (style.cond (.globalHasTag tag)) NoOperator
      (· = .globalHasTag tag) := by
  have htest : Reads globalHasTag? (style.cond (.globalHasTag tag)) Any
      (· = some (.globalHasTag tag)) := by
    refine .get fun input rest hinput => ?_
    dsimp only
    have htake : (style.cond (.globalHasTag tag) ++ rest).take 2 = globalTest := rfl
    rw [hinput, if_pos htake]
    refine .bind_cons .skip (.bind_cons .skip ?_)
    exact .bind_pure (reads_tagTest tag) (fun _ _ => trivial) (.pure rfl)
  refine .here fun pos => .bind_eat_ne (by decide) (.bind_eat_ne (by decide) ?_)
  exact .bind_pure htest (fun _ _ => trivial) (.pure rfl)

theorem reads_chance (percent : Located Expr) (hwritable : percent.node.isWritable)
    (h : style.wholeNesting percent.node ≤ levels) :
    Reads (condOperand levels inner) (style.cond (.chance percent)) NoOperator
      (·.unplaced = (Cond.chance percent).unplaced) := by
  refine .here fun pos => .bind_eat_ne (by decide) (.bind_cons .eat ?_)
  refine .bind (reads_whole hwritable h) (fun _ _ => endsExpr_cons rfl rfl _) fun _ he => ?_
  subst he
  exact .bind_cons .expect (.pure rfl)

end Parts

/-- Operands with one of the words that join conditions in between. -/
theorem reads_disjunction_two {p : Parser Cond} {ls ms : List Lexeme} {lhs rhs : Cond}
    (hlhs : Reads p ls NoOperator (·.unplaced = lhs.unplaced))
    (hrhs : Reads p ms NoOperator (·.unplaced = rhs.unplaced)) :
    Reads (disjunction p) (ls ++ .word "and" :: ms) EndsCond
        (·.unplaced = (Cond.and lhs rhs).unplaced) ∧
      Reads (disjunction p) (ls ++ .word "or" :: ms) EndsCond
        (·.unplaced = (Cond.or lhs rhs).unplaced) := by
  have hjoined : ∀ {w : String} {join : Cond → Cond → Cond},
      Reads (return if ← eatWord w then some join else none) [.word w] Any (· = some join) :=
    .bind_cons .eat (.pure rfl)
  have hend : ∀ {w : String} {join : Cond → Cond → Cond},
      Reads (return if ← eatWord w then some join else none) []
        (·.head? ≠ some (.word w)) (· = none) :=
    .bind_nil .eat_none (fun _ h => h) (.pure rfl)
  -- no operator and no `and` follows what `or` joins
  have hsingle : ∀ {ls : List Lexeme} {c : Cond}, Reads p ls NoOperator (·.unplaced = c.unplaced) →
      Reads (chain (return if ← eatWord "and" then some .and else none) p) ls
        (fun ms => NoOperator ms ∧ ms.head? ≠ some (.word "and")) (·.unplaced = c.unplaced) :=
    fun h => .chain_one (h.mono (fun _ hms => hms.1) fun _ h => h)
      (hend.mono (fun _ hms => hms.2) fun _ h => h)
  constructor
  · refine .chain_one (.chain_two hlhs (fun _ => rfl) hjoined
      (hrhs.mono (fun _ h => h.1) fun _ h => h) (hend.mono (fun _ h => h.2.1) fun _ h => h) ?_)
      (hend.mono (fun _ h => h.2.2) fun _ h => h)
    intro a b ha hb
    rw [Cond.unplaced, ha, hb, Cond.unplaced]
  · refine .chain_two (hsingle hlhs) (fun _ => ⟨rfl, by simp⟩) hjoined
      ((hsingle hrhs).mono (fun _ h => ⟨h.1, h.2.1⟩) fun _ h => h)
      (hend.mono (fun _ h => h.2.2) fun _ h => h) ?_
    intro a b ha hb
    rw [Cond.unplaced, ha, hb, Cond.unplaced]

/-- A condition is read back in front of anything that does not go on with it; one that joins
nothing is read back as an operand as it stands. -/
structure Cond.ReadsBack (style : Style) (c : Cond) : Prop where
  bare : c.isJoined = false → ∀ levels, style.condNesting c ≤ levels →
    Reads (condOperandWithin levels) (style.cond c) NoOperator (·.unplaced = c.unplaced)
  full : ∀ levels, style.condNesting c ≤ levels →
    Reads (condition levels) (style.cond c) EndsCond (·.unplaced = c.unplaced)

theorem Cond.ReadsBack.of_bare {c : Cond} (h : ∀ levels, style.condNesting c ≤ levels →
      Reads (condOperandWithin levels) (style.cond c) NoOperator (·.unplaced = c.unplaced)) :
    c.ReadsBack style :=
  ⟨fun _ => h, fun levels hle => reads_disjunction_one (h levels hle)⟩

/-- An operand stands in parentheses or as it is. -/
theorem Cond.ReadsBack.operand {c : Cond} (hc : c.ReadsBack style) {levels : Nat}
    (h : style.condOperandNesting c ≤ levels) :
    Reads (condOperandWithin levels) (style.condOperand c) NoOperator
      (·.unplaced = c.unplaced) := by
  refine reads_enclose h (fun hencloses h => ?_) fun levels h =>
    reads_condOperand_enclosed (hc.full levels h)
  exact hc.bare (Bool.or_eq_false_iff.1 hencloses).1 levels h

/-- Every condition that was written is read back. -/
theorem Cond.readsBack {c : Cond} (hwritable : c.isWritable) : c.ReadsBack style := by
  induction c with
  | cmp op lhs rhs =>
    obtain ⟨hl, hr⟩ := Bool.and_eq_true_iff.1 hwritable
    refine .of_bare fun levels h => ?_
    obtain ⟨hlhs, hrhs⟩ := Nat.max_le.1 h
    exact (reads_cmp op hl hr hlhs hrhs).mono (fun _ h => h) fun _ h => h ▸ rfl
  | truthy e =>
    refine .of_bare fun levels h => ?_
    exact (reads_truthy_whole hwritable h).mono (fun _ h => h) fun _ h => h ▸ rfl
  | hasTag ref tag =>
    refine .of_bare fun levels _ => ?_
    rw [condOperandWithin_eq]
    exact (reads_hasTag ref tag).mono (fun _ h => h) fun _ h => h ▸ rfl
  | globalHasTag tag =>
    refine .of_bare fun levels _ => ?_
    rw [condOperandWithin_eq]
    exact (reads_globalHasTag tag).mono (fun _ h => h) fun _ h => h ▸ rfl
  | chance percent =>
    refine .of_bare fun levels h => ?_
    rw [condOperandWithin_eq]
    exact reads_chance percent hwritable h
  | not c ih =>
    refine .of_bare fun levels h => ?_
    cases levels with
    | zero => exact absurd h (Nat.not_succ_le_zero _)
    | succ levels =>
      have hoperand := (ih hwritable).operand (Nat.le_of_succ_le_succ h)
      refine .here fun pos => .bind_cons .eat (.bind_last hoperand (fun _ h => h) fun c' hc => ?_)
      exact .pure (by rw [Cond.unplaced, hc, Cond.unplaced])
  | and lhs rhs ihl ihr =>
    obtain ⟨hl, hr⟩ := Bool.and_eq_true_iff.1 hwritable
    refine ⟨nofun, fun levels h => ?_⟩
    obtain ⟨hlhs, hrhs⟩ := Nat.max_le.1 h
    exact (reads_disjunction_two ((ihl hl).operand hlhs) ((ihr hr).operand hrhs)).1
  | or lhs rhs ihl ihr =>
    obtain ⟨hl, hr⟩ := Bool.and_eq_true_iff.1 hwritable
    refine ⟨nofun, fun levels h => ?_⟩
    obtain ⟨hlhs, hrhs⟩ := Nat.max_le.1 h
    exact (reads_disjunction_two ((ihl hl).operand hlhs) ((ihr hr).operand hrhs)).2

/-- A condition that was written is read back. -/
theorem reads_cond {c : Cond} {levels : Nat} (hwritable : c.isWritable)
    (h : style.condNesting c ≤ levels) :
    Reads (condition levels) (style.cond c) EndsCond (·.unplaced = c.unplaced) :=
  (Cond.readsBack hwritable).full levels h

/-- The condition of a statement, in parentheses or not. -/
theorem reads_test {c : Cond} {levels : Nat} (hwritable : c.isWritable)
    (h : style.testNesting c ≤ levels) :
    Reads (condition levels) (style.test c) EndsCond (·.unplaced = c.unplaced) :=
  reads_enclose h (fun _ h => reads_cond hwritable h) fun _ h =>
    reads_disjunction_one (reads_condOperand_enclosed (reads_cond hwritable h))

end Skirmish.Script
