import Skirmish.Proofs.Joining.Operand

/-!
# What a condition begins with

The first token of an operand of a condition, or what its parentheses hold, decides how it is read;
nothing is read twice then (`condOperand_other` and the equations in front of it). What can be read
as an expression up to a closing parenthesis can be read as a condition too
(`disjunction_of_sum`), so an operator behind the parenthesis is all that turns it into an operand
of arithmetic.
-/

namespace Skirmish.Script

open Script.Parser

namespace Parser

variable {levels : Nat} {inner : Parser Cond}
  {pos finish finish' : Pos} {t : Token} {tokens rest : List Token} {input : TokenList} {e : Expr}
  {c : Cond}

/-! ## The first operand

An expression goes on behind its first operand as a sum does. -/

section Operand

variable {inner : Parser Expr}

theorem operand_global : operand inner ⟨⟨.word "global", pos⟩ :: tokens, finish⟩ =
    (do
      expectSymbol .dot
      return .globalVar (← varName) : Parser Expr) ⟨tokens, finish⟩ := rfl

theorem operand_ref {w : String} (hw : w ∈ refWords) :
    operand inner ⟨⟨.word w, pos⟩ :: tokens, finish⟩ =
      (do
        let ref ← reference
        expect (.symbol .dot) "`.` after a unit reference"
        return .unitVar ref (← varName) : Parser Expr) ⟨⟨.word w, pos⟩ :: tokens, finish⟩ := by
  simp only [refWords, List.mem_cons, List.not_mem_nil, or_false] at hw
  obtain rfl | rfl | rfl | rfl | rfl := hw
  · rfl
  · rfl
  · rfl
  · rfl
  · rfl

theorem operand_lparen : operand inner ⟨⟨.symbol .lparen, pos⟩ :: tokens, finish⟩ =
    (do
      let e ← sum inner
      expectSymbol .rparen
      return e : Parser Expr) ⟨tokens, finish⟩ := rfl

end Operand

/-- What stands behind the first expression of a test. -/
def testTail (levels : Nat) (lhs : Expr) : Parser Cond := do
  match ← take? comparison? with
  | some op => return .cmp op lhs (← expr levels)
  | none => return .truthy lhs

/-- A comparison, or an expression by itself, behind its first operand. -/
def testFrom (levels : Nat) (e : Expr) : Parser Cond :=
  sumFrom (operandWithin levels) e >>= testTail levels

/-- A comparison, or an expression by itself. -/
def test (levels : Nat) : Parser Cond := operandWithin levels >>= testFrom levels

theorem test_eq (levels : Nat) : test levels = expr levels >>= testTail levels := by
  unfold expr
  rw [sum_eq, bind_assoc]
  rfl

/-! ## What a condition begins with -/

/-- A test that begins with `global`, behind that word. -/
def globalTest (levels : Nat) : Parser Cond := do
  if ← eatWord "has" then return .globalHasTag (← tagTest)
  else
    expectSymbol .dot
    testFrom levels (.globalVar (← varName))

/-- A test that begins with the name of a unit. -/
def refTest (levels : Nat) : Parser Cond := do
  let ref ← reference
  if ← eatWord "has" then return .hasTag ref (← tagTest)
  else
    expect (.symbol .dot) "`.` after a unit reference"
    testFrom levels (.unitVar ref (← varName))

theorem test_global : test levels ⟨⟨.word "global", pos⟩ :: tokens, finish⟩ =
    (do
      expectSymbol .dot
      testFrom levels (.globalVar (← varName)) : Parser Cond) ⟨tokens, finish⟩ := by
  unfold test
  rw [operandWithin_eq, bind_of_eq operand_global]
  simp only [bind_assoc, pure_bind]

theorem test_ref {w : String} (hw : w ∈ refWords) :
    test levels ⟨⟨.word w, pos⟩ :: tokens, finish⟩ =
      (do
        let ref ← reference
        expect (.symbol .dot) "`.` after a unit reference"
        testFrom levels (.unitVar ref (← varName)) : Parser Cond)
          ⟨⟨.word w, pos⟩ :: tokens, finish⟩ := by
  unfold test
  rw [operandWithin_eq, bind_of_eq (operand_ref hw)]
  simp only [bind_assoc, pure_bind]

theorem test_lparen : test levels ⟨⟨.symbol .lparen, pos⟩ :: tokens, finish⟩ =
    (do
      let e ← sum (innerOperand levels)
      expectSymbol .rparen
      testFrom levels e : Parser Cond) ⟨tokens, finish⟩ := by
  unfold test
  rw [operandWithin_eq, bind_of_eq operand_lparen]
  simp only [bind_assoc, pure_bind]

theorem condTail_of_ne {l : Lexeme} (h : l ≠ .symbol .lparen) :
    condTail levels inner ⟨⟨l, pos⟩ :: tokens, finish⟩ = test levels ⟨⟨l, pos⟩ :: tokens, finish⟩ := by
  have hgrouped : grouped? (disjunction inner) ⟨⟨l, pos⟩ :: tokens, finish⟩ =
      .ok (none, ⟨⟨l, pos⟩ :: tokens, finish⟩) := bind_eat_ne h
  have hattempt : attempt (grouped? (disjunction inner)) ⟨⟨l, pos⟩ :: tokens, finish⟩ =
      .ok (none, ⟨⟨l, pos⟩ :: tokens, finish⟩) := by
    unfold attempt
    rw [hgrouped]
  unfold condTail
  rw [bind_of_ok hattempt, test_eq]
  rfl

section Begins

variable (levels : Nat) (inner : Parser Cond)

theorem condOperand_not : condOperand levels inner ⟨⟨.word "not", pos⟩ :: tokens, finish⟩ =
    (do return .not (← inner) : Parser Cond) ⟨tokens, finish⟩ := rfl

theorem condOperand_chance : condOperand levels inner ⟨⟨.word "chance", pos⟩ :: tokens, finish⟩ =
    (do
      let percent ← expr levels
      expectSymbol .percent
      return .chance ⟨percent, pos⟩ : Parser Cond) ⟨tokens, finish⟩ := rfl

theorem condOperand_lparen : condOperand levels inner ⟨⟨.symbol .lparen, pos⟩ :: tokens, finish⟩ =
    condTail levels inner ⟨⟨.symbol .lparen, pos⟩ :: tokens, finish⟩ := rfl

/-- What is left to try when a condition begins neither with `not` nor with `chance`. -/
def condRest (levels : Nat) (inner : Parser Cond) : Parser Cond := do
  if let some c ← globalHasTag? then return c
  else if let some c ← hasTag? then return c
  else condTail levels inner

theorem condOperand_of_ne {l : Lexeme} (hnot : l ≠ .word "not") (hchance : l ≠ .word "chance") :
    condOperand levels inner ⟨⟨l, pos⟩ :: tokens, finish⟩ =
      condRest levels inner ⟨⟨l, pos⟩ :: tokens, finish⟩ := by
  have hhere : here ⟨⟨l, pos⟩ :: tokens, finish⟩ = .ok (pos, ⟨⟨l, pos⟩ :: tokens, finish⟩) := rfl
  unfold condOperand eatWord
  rw [bind_of_ok hhere, bind_eat_ne hnot, if_neg Bool.false_ne_true, bind_eat_ne hchance,
    if_neg Bool.false_ne_true]
  rfl

theorem globalHasTag?_of_ne
    (h : (input.tokens.map Token.lexeme).take 2 ≠ [.word "global", .word "has"]) :
    globalHasTag? input = .ok (none, input) := by
  show (if _ then _ else _ : Parser (Option Cond)) _ = _
  rw [if_neg h]
  rfl

theorem hasTag?_of_ne {l : Lexeme} (h : ∀ w ∈ refWords, l ≠ .word w) :
    hasTag? ⟨⟨l, pos⟩ :: tokens, finish⟩ = .ok (none, ⟨⟨l, pos⟩ :: tokens, finish⟩) := by
  have hat : atRef ⟨⟨l, pos⟩ :: tokens, finish⟩ = .ok (false, ⟨⟨l, pos⟩ :: tokens, finish⟩) := by
    rw [atRef_apply]
    cases l with
    | word w =>
      have hno : AtRef (.word w :: tokens.map Token.lexeme) = false :=
        Bool.eq_false_iff.2 fun hw => h w (List.contains_iff_mem.1 hw) rfl
      rw [← hno]
      rfl
    | _ => rfl
  unfold hasTag?
  rw [bind_of_ok hat]
  rfl

/-- What begins with a word for no test of its own is a comparison or an expression. -/
theorem condOperand_other {l : Lexeme} (hnot : l ≠ .word "not") (hchance : l ≠ .word "chance")
    (hglobal : l ≠ .word "global") (href : ∀ w ∈ refWords, l ≠ .word w)
    (hparen : l ≠ .symbol .lparen) :
    condOperand levels inner ⟨⟨l, pos⟩ :: tokens, finish⟩ =
      test levels ⟨⟨l, pos⟩ :: tokens, finish⟩ := by
  rw [condOperand_of_ne levels inner hnot hchance]
  unfold condRest
  have hnone : globalHasTag? ⟨⟨l, pos⟩ :: tokens, finish⟩ = .ok (none, ⟨⟨l, pos⟩ :: tokens, finish⟩) :=
    globalHasTag?_of_ne fun h => hglobal (List.cons.inj h).1
  rw [bind_of_ok hnone]
  show (hasTag? >>= _ : Parser Cond) _ = _
  rw [bind_of_ok (hasTag?_of_ne href)]
  exact condTail_of_ne hparen

theorem condOperand_global : condOperand levels inner ⟨⟨.word "global", pos⟩ :: tokens, finish⟩ =
    globalTest levels ⟨tokens, finish⟩ := by
  rw [condOperand_of_ne levels inner (by decide) (by decide)]
  unfold condRest
  by_cases hhas : tokens.head?.map Token.lexeme = some (.word "has")
  · obtain _ | ⟨⟨l, pos'⟩, tokens⟩ := tokens
    · cases hhas
    obtain rfl : l = .word "has" := Option.some.inj hhas
    have hglobal : globalHasTag? ⟨⟨.word "global", pos⟩ :: ⟨.word "has", pos'⟩ :: tokens, finish⟩ =
        (do return some (.globalHasTag (← tagTest)) : Parser (Option Cond)) ⟨tokens, finish⟩ := rfl
    rw [bind_of_eq hglobal, bind_assoc]
    rfl
  · have hglobal : globalHasTag? ⟨⟨.word "global", pos⟩ :: tokens, finish⟩ =
        .ok (none, ⟨⟨.word "global", pos⟩ :: tokens, finish⟩) := by
      refine globalHasTag?_of_ne fun h => hhas ?_
      obtain _ | ⟨t, tokens⟩ := tokens
      · cases h
      · exact congrArg some (List.cons.inj (List.cons.inj h).2).1
    rw [bind_of_ok hglobal]
    show (hasTag? >>= _ : Parser Cond) _ = _
    rw [bind_of_ok (hasTag?_of_ne (by decide))]
    show condTail _ _ _ = _
    unfold globalTest eatWord
    rw [condTail_of_ne (by decide), test_global, bind_eat_none hhas]
    rfl

section Ref

variable {w : String} (hw : w ∈ refWords)

include hw

/-- Behind the name of a unit, `has` decides whether it is a test for a tag. -/
theorem hasTag?_ref : hasTag? ⟨⟨.word w, pos⟩ :: tokens, finish⟩ =
    (do
      let ref ← reference
      if ← eatWord "has" then return some (.hasTag ref (← tagTest))
      else
        set (⟨⟨.word w, pos⟩ :: tokens, finish⟩ : TokenList)
        return none : Parser (Option Cond)) ⟨⟨.word w, pos⟩ :: tokens, finish⟩ := by
  have hat : atRef ⟨⟨.word w, pos⟩ :: tokens, finish⟩ =
      .ok (true, ⟨⟨.word w, pos⟩ :: tokens, finish⟩) := by
    rw [atRef_apply]
    have hyes : AtRef (.word w :: tokens.map Token.lexeme) = true := List.contains_iff_mem.2 hw
    rw [← hyes]
    rfl
  unfold hasTag?
  rw [bind_of_ok hat]
  rfl

theorem condRest_ref : condRest levels inner ⟨⟨.word w, pos⟩ :: tokens, finish⟩ =
    refTest levels ⟨⟨.word w, pos⟩ :: tokens, finish⟩ := by
  have hnone : globalHasTag? ⟨⟨.word w, pos⟩ :: tokens, finish⟩ =
      .ok (none, ⟨⟨.word w, pos⟩ :: tokens, finish⟩) := by
    have hglobal : ∀ w ∈ refWords, w ≠ "global" := by decide
    exact globalHasTag?_of_ne fun h => hglobal w hw (Lexeme.word.inj (List.cons.inj h).1)
  have htail : condTail levels inner ⟨⟨.word w, pos⟩ :: tokens, finish⟩ =
      test levels ⟨⟨.word w, pos⟩ :: tokens, finish⟩ := condTail_of_ne nofun
  have hhas : hasTag? ⟨⟨.word w, pos⟩ :: tokens, finish⟩ = _ := hasTag?_ref hw
  unfold condRest refTest
  rw [bind_of_ok hnone]
  show (hasTag? >>= _ : Parser Cond) _ = _
  rw [bind_of_eq hhas, bind_assoc]
  rw [test_ref hw] at htail
  generalize (⟨⟨.word w, pos⟩ :: tokens, finish⟩ : TokenList) = input at htail ⊢
  cases href : reference input with
  | error e => rw [bind_of_error href, bind_of_error href]
  | ok r =>
    obtain ⟨ref, mid⟩ := r
    rw [bind_of_ok href] at htail ⊢
    rw [bind_of_ok href]
    by_cases hmid : mid.tokens.head?.map Token.lexeme = some (.word "has")
    · obtain ⟨_ | ⟨t, tokens⟩, finish⟩ := mid
      · cases hmid
      have ht : t.lexeme = .word "has" := Option.some.inj hmid
      unfold eatWord
      rw [bind_assoc, bind_eat_self ht, bind_eat_self ht]
      show ((tagTest >>= fun tag => pure (some (Cond.hasTag ref tag))) >>= _ : Parser Cond) _ = _
      rw [bind_assoc]
      rfl
    · unfold eatWord
      rw [bind_assoc, bind_eat_none hmid, bind_eat_none hmid]
      exact htail

theorem condOperand_ref : condOperand levels inner ⟨⟨.word w, pos⟩ :: tokens, finish⟩ =
    refTest levels ⟨⟨.word w, pos⟩ :: tokens, finish⟩ := by
  have hne : ∀ w ∈ refWords, w ≠ "not" ∧ w ≠ "chance" := by decide
  obtain ⟨hnot, hchance⟩ := hne w hw
  rw [condOperand_of_ne levels inner (by simpa using hnot) (by simpa using hchance)]
  exact condRest_ref levels inner hw

end Ref

/-! ## Parentheses -/

/-- Whether a condition read up to a closing parenthesis is followed by an operator, if it is. -/
def NoGroup (p : Parser Cond) (input : TokenList) : Prop :=
  ∀ c t rest finish, p input = .ok (c, ⟨t :: rest, finish⟩) → t.lexeme = .symbol .rparen →
    (rest.head?.map Token.lexeme).any isOperator

theorem exists_group {p : Parser Cond} (h : ¬ NoGroup p input) :
    ∃ c t rest finish, p input = .ok (c, ⟨t :: rest, finish⟩) ∧ t.lexeme = .symbol .rparen ∧
      (rest.head?.map Token.lexeme).any isOperator = false := by
  unfold NoGroup at h
  push Not at h
  obtain ⟨c, t, rest, finish, hrun, ht, hnext⟩ := h
  exact ⟨c, t, rest, finish, hrun, ht, Bool.eq_false_iff.2 hnext⟩

/-- What is read behind a condition in parentheses. -/
def groupEnd (c : Cond) : Parser (Option Cond) := do
  if (← eatSymbol .rparen) && !(← peek?).any isOperator then return some c else return none

theorem grouped?_lparen (p : Parser Cond) :
    grouped? p ⟨⟨.symbol .lparen, pos⟩ :: tokens, finish⟩ = (p >>= groupEnd) ⟨tokens, finish⟩ := rfl

theorem groupEnd_rparen (h : t.lexeme = .symbol .rparen) : groupEnd c ⟨t :: rest, finish⟩ =
    .ok (if (rest.head?.map Token.lexeme).any isOperator then none else some c, ⟨rest, finish⟩) := by
  unfold groupEnd eatSymbol
  rw [bind_eat_self h]
  show (if (true && !((rest.head?.map Token.lexeme).any isOperator)) = true then _ else _ :
    Parser (Option Cond)) _ = _
  cases (rest.head?.map Token.lexeme).any isOperator with
  | false => rfl
  | true => rfl

theorem condOperand_group
    (hrun : disjunction inner ⟨tokens, finish⟩ = .ok (c, ⟨t :: rest, finish'⟩))
    (ht : t.lexeme = .symbol .rparen)
    (hnext : (rest.head?.map Token.lexeme).any isOperator = false) :
    condOperand levels inner ⟨⟨.symbol .lparen, pos⟩ :: tokens, finish⟩ =
      .ok (c, ⟨rest, finish'⟩) := by
  have hattempt : attempt (grouped? (disjunction inner))
      ⟨⟨.symbol .lparen, pos⟩ :: tokens, finish⟩ = .ok (some c, ⟨rest, finish'⟩) := by
    unfold attempt
    rw [grouped?_lparen, bind_of_ok hrun, groupEnd_rparen ht, hnext]
    rfl
  rw [condOperand_lparen]
  unfold condTail
  rw [bind_of_ok hattempt]
  rfl

theorem condOperand_noGroup (h : NoGroup (disjunction inner) ⟨tokens, finish⟩) :
    condOperand levels inner ⟨⟨.symbol .lparen, pos⟩ :: tokens, finish⟩ =
      test levels ⟨⟨.symbol .lparen, pos⟩ :: tokens, finish⟩ := by
  have hattempt : attempt (grouped? (disjunction inner))
      ⟨⟨.symbol .lparen, pos⟩ :: tokens, finish⟩ =
        .ok (none, ⟨⟨.symbol .lparen, pos⟩ :: tokens, finish⟩) := by
    unfold attempt
    rw [grouped?_lparen]
    cases hrun : disjunction inner ⟨tokens, finish⟩ with
    | error e => rw [bind_of_error hrun]
    | ok r =>
      obtain ⟨c, ⟨_ | ⟨t, rest⟩, finish'⟩⟩ := r
      · rw [bind_of_ok hrun]
        rfl
      rw [bind_of_ok hrun]
      by_cases ht : t.lexeme = .symbol .rparen
      · rw [groupEnd_rparen ht, if_pos (h c t rest finish' hrun ht)]
      · unfold groupEnd eatSymbol
        rw [bind_eat_ne ht]
        rfl
  rw [condOperand_lparen]
  unfold condTail
  rw [bind_of_ok hattempt, test_eq]
  rfl

end Begins

/-! ## Conditions that are expressions -/

theorem sumFrom_of_end {operand : Parser Expr}
    (h : (input.tokens.head?.map Token.lexeme).any isOperator = false) :
    sumFrom operand e input = .ok (e, input) := by
  have hnone : ∀ {g : Lexeme → Option (Expr → Expr → Expr)},
      (∀ l, isOperator l = false → g l = none) → take? g input = .ok (none, input) := by
    intro g hg
    rw [take?_apply]
    cases hhead : input.tokens.head?.map Token.lexeme with
    | none => rfl
    | some l =>
      rw [hhead] at h
      rw [Option.bind_some, hg l h]
  unfold sumFrom
  rw [bind_of_ok (links_of_none (hnone fun _ => no_multiplicative) _ _),
    links_of_none (hnone fun _ => no_additive)]

theorem disjunction_of_ok {operand : Parser Cond} (hrun : operand input = .ok (c, ⟨t :: rest, finish⟩))
    (ht : t.lexeme = .symbol .rparen) : disjunction operand input = .ok (c, ⟨t :: rest, finish⟩) := by
  have hnone : ∀ (w : String) (join : Cond → Cond → Cond),
      (return if ← eatWord w then some join else none : Parser (Option (Cond → Cond → Cond)))
        ⟨t :: rest, finish⟩ = .ok (none, ⟨t :: rest, finish⟩) := by
    intro w join
    unfold eatWord
    rw [bind_eat_ne (by rw [ht]; exact nofun)]
    rfl
  exact chain_of_none (chain_of_none hrun (hnone "and" .and)) (hnone "or" .or)

theorem test_of_expr (hrun : expr levels input = .ok (e, ⟨t :: rest, finish⟩))
    (ht : t.lexeme = .symbol .rparen) :
    test levels input = .ok (.truthy e, ⟨t :: rest, finish⟩) := by
  rw [test_eq, bind_of_ok hrun]
  unfold testTail
  rw [bind_take?_none (by rw [ht]; rfl)]
  rfl

/-- What goes on with a dot is no test for a tag. -/
theorem no_tagTest {p q : Parser Cond} {what : String} {r : Cond × TokenList}
    (h : (expect (.symbol .dot) what >>= fun _ => q) input = .ok r) :
    (eatWord "has" >>= fun b => if b then p else expect (.symbol .dot) what >>= fun _ => q) input =
      .ok r := by
  by_cases hhas : input.tokens.head?.map Token.lexeme = some (.word "has")
  · obtain ⟨_ | ⟨⟨l, pos⟩, tokens⟩, finish⟩ := input
    · cases hhas
    obtain rfl : l = .word "has" := Option.some.inj hhas
    cases h
  · unfold eatWord
    rw [bind_eat_none hhas]
    exact h

/-- An expression up to a closing parenthesis is a condition, if what is in parentheses in it is. -/
theorem condOperand_of_expr
    (hinner : ∀ {tokens finish e t rest finish'},
      sum (innerOperand levels) ⟨tokens, finish⟩ = .ok (e, ⟨t :: rest, finish'⟩) →
        t.lexeme = .symbol .rparen →
          ∃ c, disjunction (innerCond levels) ⟨tokens, finish⟩ = .ok (c, ⟨t :: rest, finish'⟩))
    (hrun : expr levels input = .ok (e, ⟨t :: rest, finish⟩)) (ht : t.lexeme = .symbol .rparen) :
    ∃ c, condOperandWithin levels input = .ok (c, ⟨t :: rest, finish⟩) := by
  have htest := test_of_expr hrun ht
  rw [condOperandWithin_eq]
  unfold expr at hrun
  rw [sum_eq, operandWithin_eq] at hrun
  obtain ⟨_ | ⟨⟨l, pos⟩, tokens⟩, finish₀⟩ := input
  · cases hrun
  by_cases hnot : l = .word "not"
  · subst hnot
    cases hrun
  by_cases hchance : l = .word "chance"
  · subst hchance
    cases hrun
  by_cases hglobal : l = .word "global"
  · subst hglobal
    rw [test_global] at htest
    exact ⟨_, (condOperand_global levels _).trans (no_tagTest htest)⟩
  by_cases href : ∃ w ∈ refWords, l = .word w
  · obtain ⟨w, hw, rfl⟩ := href
    rw [test_ref hw] at htest
    obtain ⟨ref, mid, hname, htest⟩ := bind_eq_ok.1 htest
    refine ⟨.truthy e, (condOperand_ref levels _ hw).trans ?_⟩
    unfold refTest
    rw [bind_of_ok hname]
    exact no_tagTest htest
  by_cases hparen : l = .symbol .lparen
  · subst hparen
    by_cases hgroup : NoGroup (disjunction (innerCond levels)) ⟨tokens, finish₀⟩
    · exact ⟨_, (condOperand_noGroup levels _ hgroup).trans htest⟩
    -- what is in parentheses is both, and no operator goes on with either
    obtain ⟨c, t', rest', finish', hcond, ht', hnext⟩ := exists_group hgroup
    refine ⟨c, (condOperand_group levels _ hcond ht' hnext).trans ?_⟩
    rw [bind_of_eq operand_lparen, bind_assoc] at hrun
    obtain ⟨e', mid, hsum, hrun⟩ := bind_eq_ok.1 hrun
    rw [bind_assoc] at hrun
    obtain ⟨_, left, hclose, hrun⟩ := bind_eq_ok.1 hrun
    obtain ⟨t'', hmid, ht''⟩ := expect_eq_ok hclose
    rw [hmid] at hsum
    obtain ⟨c', hcond'⟩ := hinner hsum ht''
    rw [hcond] at hcond'
    cases hcond'
    rw [pure_bind, sumFrom_of_end hnext] at hrun
    cases hrun
    rfl
  · refine ⟨_, (condOperand_other levels _ hnot hchance hglobal (fun w hw heq => ?_) hparen).trans htest⟩
    exact href ⟨w, hw, heq⟩

theorem disjunction_of_sum {tokens : List Token}
    (hrun : sum (innerOperand levels) ⟨tokens, finish⟩ = .ok (e, ⟨t :: rest, finish'⟩))
    (ht : t.lexeme = .symbol .rparen) :
    ∃ c, disjunction (innerCond levels) ⟨tokens, finish⟩ = .ok (c, ⟨t :: rest, finish'⟩) := by
  induction levels generalizing tokens finish e t rest finish' with
  | zero => cases hrun
  | succ levels ih =>
    obtain ⟨c, hc⟩ := condOperand_of_expr ih hrun ht
    exact ⟨c, disjunction_of_ok hc ht⟩

/-- An expression in parentheses goes on behind them if an operator is next. -/
theorem condOperand_sum {tokens : List Token}
    (hrun : sum (innerOperand levels) ⟨tokens, finish⟩ = .ok (e, ⟨t :: rest, finish'⟩))
    (ht : t.lexeme = .symbol .rparen) (hnext : (rest.head?.map Token.lexeme).any isOperator) :
    condOperand levels (innerCond levels) ⟨⟨.symbol .lparen, pos⟩ :: tokens, finish⟩ =
      testFrom levels e ⟨rest, finish'⟩ := by
  obtain ⟨c, hcond⟩ := disjunction_of_sum hrun ht
  have hgroup : NoGroup (disjunction (innerCond levels)) ⟨tokens, finish⟩ := by
    intro c' t' rest' finish'' hrun' _
    rw [hcond] at hrun'
    cases hrun'
    exact hnext
  rw [condOperand_noGroup levels _ hgroup, test_lparen, bind_of_ok hrun]
  obtain ⟨l, pos'⟩ := t
  obtain rfl : l = .symbol .rparen := ht
  rfl

end Parser

end Skirmish.Script
