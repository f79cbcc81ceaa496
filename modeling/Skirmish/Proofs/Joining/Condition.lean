import Skirmish.Proofs.Joining.Test

/-!
# Conditions elsewhere

A condition behind a word for a test is read wherever its tokens stand (`tracks_condition`).
-/

namespace Skirmish.Script

open Script.Parser

namespace Parser

variable {f : Pos → Pos} {before : List Lexeme} {levels : Nat} {pos finish finish' : Pos} {t : Token}
  {tokens rest : List Token} {e : Expr} {c : Cond}

/-! ## Tests -/

/-- A parenthesis that is opened here and closed nowhere leaves a test open. -/
def AtTest (before : List Lexeme) : Prop :=
  ∀ ls, (depth? 0 ls).isSome → inTest (before ++ .symbol .lparen :: ls)

theorem atTest_word {w : String} (hw : w ∈ testWords) (front : List Lexeme) :
    AtTest (front ++ [.word w]) := by
  intro ls hopen
  rw [List.append_assoc]
  refine inTest_append (List.any_eq_true.2 ⟨_, (List.mem_tails _ _).2 (List.suffix_refl _), ?_⟩) front
  show (testWords.contains w && (depth? 0 ls).isSome) = true
  rw [hopen, List.contains_iff_mem.2 hw]
  rfl

theorem AtTest.paren (h : AtTest before) : AtTest (before ++ [.symbol .lparen]) := by
  intro ls hopen
  rw [List.append_assoc]
  refine h (.symbol .lparen :: ls) ?_
  obtain ⟨m, hm⟩ := Option.isSome_iff_exists.1 hopen
  exact Option.isSome_of_eq_some (depth?_add hm 1)

theorem tracks_tagTest : Tracks f pieceStarts before 0 Eq tagTest tagTest :=
  .bind_expect rfl (tracks_text _)

theorem tracks_testFrom (levels : Nat) (e : Expr) :
    Tracks f pieceStarts before 0 (fun c c' => c' = c.moved f) (testFrom levels e)
      (testFrom levels e) := by
  refine .bind_eq (tracks_sumFrom (fun _ => tracks_operandWithin levels) e) fun lhs _ => ?_
  refine .bind_eq tracks_comparison fun op _ => ?_
  cases op with
  | none => exact .pure rfl
  | some op => exact .bind_eq (tracks_expr levels) fun _ _ => .pure rfl

theorem tracks_test (levels : Nat) :
    Tracks f pieceStarts before 0 (fun c c' => c' = c.moved f) (test levels) (test levels) :=
  .bind_eq (tracks_operandWithin levels) fun e _ => tracks_testFrom levels e

theorem tracks_globalTest (levels : Nat) :
    Tracks f pieceStarts before 0 (fun c c' => c' = c.moved f) (globalTest levels)
      (globalTest levels) :=
  .bind_eat (by decide) rfl (.bind_eq tracks_tagTest fun _ _ => .pure rfl)
    (.bind_expect rfl (.bind_eq tracks_varName fun _ _ => tracks_testFrom levels _))

theorem tracks_refTest (levels : Nat) :
    Tracks f pieceStarts before 0 (fun c c' => c' = c.moved f) (refTest levels) (refTest levels) :=
  .bind_eq tracks_reference fun _ _ =>
    .bind_eat (by decide) rfl (.bind_eq tracks_tagTest fun _ _ => .pure rfl)
      (.bind_expect rfl (.bind_eq tracks_varName fun _ _ => tracks_testFrom levels _))

theorem tracks_disjunction {operand : Parser Cond} (hoperand : ∀ before, AtTest before →
      Tracks f pieceStarts before 0 (fun c c' => c' = c.moved f) operand operand)
    (hbefore : AtTest before) :
    Tracks f pieceStarts before 0 (fun c c' => c' = c.moved f) (disjunction operand)
      (disjunction operand) := by
  have hjoined : ∀ {w : String} {join : Cond → Cond → Cond}, .word w ∉ pieceStarts → ∀ before,
      Tracks f pieceStarts before 0 Eq (return if ← eatWord w then some join else none)
        (return if ← eatWord w then some join else none) :=
    fun h _ => .bind_eat h rfl (.pure rfl) (.pure rfl)
  have hcombine : ∀ {w : String} {join : Cond → Cond → Cond}, w ∈ testWords →
      (∀ a b, (join a b).moved f = join (a.moved f) (b.moved f)) →
      ∀ input combine left, (return if ← eatWord w then some join else none : Parser (Option _)) input =
        .ok (some combine, left) →
      (∀ a a' b b', a' = a.moved f → b' = b.moved f → combine a' b' = (combine a b).moved f) ∧
        ∀ before taken, input.tokens = taken ++ left.tokens →
          AtTest (before ++ taken.map Token.lexeme) := by
    intro w join hw hjoin input combine left hrun
    unfold eatWord at hrun
    obtain ⟨_ | ⟨t, rest⟩, finish⟩ := input
    · cases hrun
    by_cases ht : t.lexeme = .word w
    · rw [bind_eat_self ht] at hrun
      cases hrun
      refine ⟨fun a a' b b' ha hb => ?_, fun before taken htaken => ?_⟩
      · rw [ha, hb]
        exact (hjoin a b).symm
      · obtain rfl : [t] = taken := List.append_cancel_right htaken
        rw [List.map_singleton, ht]
        exact atTest_word hw before
    · rw [bind_eat_ne ht] at hrun
      cases hrun
  exact .chain (fun before h => .chain hoperand (hjoined (by decide)) (hcombine (by decide) fun _ _ => rfl) h)
    (hjoined (by decide)) (hcombine (by decide) fun _ _ => rfl) hbefore

/-- What stands in parentheses is read, and then what stands behind them. -/
theorem TracksAt.paren {α γ : Type} {follow before' : List Lexeme} {R : α → α → Prop}
    {S : γ → γ → Prop} {p p' q : Parser α} {k : γ → Parser α} {r : Parser γ} {a : γ}
    (hr : TracksAt f follow before' 0 S r r ⟨tokens, finish⟩)
    (hrun : r ⟨tokens, finish⟩ = .ok (a, ⟨t :: rest, finish'⟩)) (ht : t.lexeme = .symbol .rparen)
    (hp : p ⟨⟨.symbol .lparen, pos⟩ :: tokens, finish⟩ = q ⟨rest, finish'⟩)
    (hp' : ∀ a' tokens' rest' finish', S a a' →
      r ⟨tokens', finish'⟩ = .ok (a', ⟨t.moved f :: rest', finish'⟩) → Meets f follow rest rest' →
        p' ⟨⟨.symbol .lparen, f pos⟩ :: tokens', finish'⟩ = k a' ⟨rest', finish'⟩)
    (hq : ∀ a' before, S a a' → TracksAt f follow before 0 R q (k a') ⟨rest, finish'⟩) :
    TracksAt f follow before 0 R p p' ⟨⟨.symbol .lparen, pos⟩ :: tokens, finish⟩ := by
  obtain ⟨taken, a', hinput, ha, hclosed, hok⟩ := hr.ok hrun
  obtain ⟨rfl, rfl⟩ := TokenList.mk.inj hinput
  have htokens : (⟨.symbol .lparen, pos⟩ :: (taken ++ t :: rest) : List Token) =
      ⟨.symbol .lparen, pos⟩ :: (taken ++ [t]) ++ rest := by
    rw [List.cons_append, List.append_assoc]
    rfl
  rw [htokens] at hp ⊢
  refine .after _ ?_ hp (fun rest' finish' hmeets => ?_) (hq a' _ ha)
  · show depth? 1 ((taken ++ [t]).map Token.lexeme) = some 0
    rw [List.map_append, depth?_append, depth?_of_closed hclosed, List.map_singleton, ht]
    rfl
  · have hall := hp' a' _ rest' finish' ha (hok _ finish' (.token t rest rest')) hmeets
    rw [List.map_cons, List.map_append, List.map_singleton, List.cons_append, List.append_assoc]
    exact hall

section Operand

variable (hinner : ∀ before, AtTest before →
  Tracks f pieceStarts before 0 (fun c c' => c' = c.moved f) (innerCond levels) (innerCond levels))

/-- No condition is read in parentheses, and no expression either: the error is inside. -/
theorem tracksAt_unclosed (hbefore : AtTest before)
    (hgroup : NoGroup (disjunction (innerCond levels)) ⟨tokens, finish⟩)
    (hsum : ∀ e t rest finish', sum (innerOperand levels) ⟨tokens, finish⟩ =
      .ok (e, ⟨t :: rest, finish'⟩) → t.lexeme ≠ .symbol .rparen) :
    TracksAt f pieceStarts before 0 (fun c c' => c' = c.moved f)
      (condOperand levels (innerCond levels)) (condOperand levels (innerCond levels))
      ⟨⟨.symbol .lparen, pos⟩ :: tokens, finish⟩ where
  ok hrun := by
    rw [condOperand_noGroup levels _ hgroup, test_lparen] at hrun
    obtain ⟨e, mid, hfirst, hrun⟩ := bind_eq_ok.1 hrun
    obtain ⟨_, left, hclose, -⟩ := bind_eq_ok.1 hrun
    obtain ⟨t, rfl, ht⟩ := expect_eq_ok hclose
    exact absurd ht (hsum _ _ _ _ hfirst)
  error {what l pos'} hrun := by
    rw [condOperand_noGroup levels _ hgroup, test_lparen] at hrun
    have htracks : TracksAt f pieceStarts before 0 Eq (sum (innerOperand levels))
        (sum (innerOperand levels)) ⟨tokens, finish⟩ :=
      tracks_sum (fun _ => tracks_innerOperand levels) _
    have hinside : ∃ passed t behind, tokens = passed ++ t :: behind ∧ t.lexeme = l ∧ t.pos = pos' ∧
        (depth? 0 (passed.map Token.lexeme)).isSome := by
      cases hfirst : sum (innerOperand levels) ⟨tokens, finish⟩ with
      | error e =>
        rw [bind_of_error hfirst] at hrun
        cases hrun
        obtain ⟨passed, t, behind, hpassed, hl, hpos, hopen, -⟩ := htracks.error hfirst
        exact ⟨passed, t, behind, hpassed, hl, hpos, hopen⟩
      | ok r =>
        obtain ⟨e, ⟨_ | ⟨t, rest⟩, finish'⟩⟩ := r
        · rw [bind_of_ok hfirst] at hrun
          cases hrun
        · have hne := hsum e t rest finish' hfirst
          rw [bind_of_ok hfirst] at hrun
          rw [expectSymbol, bind_expect_ne hne] at hrun
          cases hrun
          obtain ⟨taken, _, htaken, -, hclosed, -⟩ := htracks.ok hfirst
          exact ⟨taken, t, rest, congrArg TokenList.tokens htaken, rfl, rfl,
            Option.isSome_of_eq_some hclosed⟩
    obtain ⟨passed, t, behind, rfl, hl, hpos, hopen⟩ := hinside
    refine ⟨⟨.symbol .lparen, pos⟩ :: passed, t, behind, rfl, hl, hpos, ?_, fun htest => ?_⟩
    · obtain ⟨m, hm⟩ := Option.isSome_iff_exists.1 hopen
      exact Option.isSome_of_eq_some (depth?_add hm 1)
    · rw [List.map_cons, hbefore _ hopen] at htest
      cases htest

include hinner

/-- A parenthesis is one of a condition or of an expression, and what follows it decides which. -/
theorem tracksAt_paren (hbefore : AtTest before) :
    TracksAt f pieceStarts before 0 (fun c c' => c' = c.moved f)
      (condOperand levels (innerCond levels)) (condOperand levels (innerCond levels))
      ⟨⟨.symbol .lparen, pos⟩ :: tokens, finish⟩ := by
  by_cases hgroup : NoGroup (disjunction (innerCond levels)) ⟨tokens, finish⟩
  · by_cases hsum : ∀ e t rest finish', sum (innerOperand levels) ⟨tokens, finish⟩ =
        .ok (e, ⟨t :: rest, finish'⟩) → t.lexeme ≠ .symbol .rparen
    · exact tracksAt_unclosed hbefore hgroup hsum
    push Not at hsum
    obtain ⟨e, t, rest, finish', hrun, ht⟩ := hsum
    obtain ⟨c, hcond⟩ := disjunction_of_sum hrun ht
    have hnext := hgroup c t rest finish' hcond ht
    have hinside : TracksAt f pieceStarts before 0 Eq (sum (innerOperand levels))
        (sum (innerOperand levels)) ⟨tokens, finish⟩ :=
      tracks_sum (fun _ => tracks_innerOperand levels) _
    refine hinside.paren (q := testFrom levels e) (k := testFrom levels) hrun ht
      (condOperand_sum hrun ht hnext) (fun e' tokens' rest' finish'' _ hrun' hmeets => ?_)
      fun e' before he => he ▸ tracks_testFrom levels e _
    refine condOperand_sum hrun' ht ?_
    cases hmeets with
    | token => exact hnext
    | nothing | next => cases hnext
  · obtain ⟨c, t, rest, finish', hrun, ht, hnext⟩ := exists_group hgroup
    have hinside := tracks_disjunction hinner hbefore.paren ⟨tokens, finish⟩
    refine hinside.paren (q := pure c) (k := pure) hrun ht (condOperand_group levels _ hrun ht hnext)
      (fun c' tokens' rest' finish'' _ hrun' hmeets => ?_) fun c' before hc => .pure hc
    refine condOperand_group levels _ hrun' ht ?_
    cases hmeets with
    | token => exact hnext
    | nothing => rfl
    | next h => exact isOperator_pieceStarts _ h

theorem tracks_condOperand (hbefore : AtTest before) :
    Tracks f pieceStarts before 0 (fun c c' => c' = c.moved f) (condOperand levels (innerCond levels))
      (condOperand levels (innerCond levels))
  | ⟨[], finish⟩ => by
    have hended : condOperand levels (innerCond levels) ⟨[], finish⟩ =
        .error ⟨.unexpected "an expression" none, finish⟩ := by
      cases levels with
      | zero => rfl
      | succ levels => rfl
    exact .ended hended
  | ⟨⟨l, pos⟩ :: tokens, finish⟩ => by
    by_cases hnot : l = .word "not"
    · subst hnot
      refine .cons rfl (condOperand_not levels _) (fun _ _ => condOperand_not levels _) ?_
      exact Tracks.bind (hinner _ (atTest_word (by decide) before))
        (fun c c' hc _ => .pure (by rw [hc]; rfl)) _
    by_cases hchance : l = .word "chance"
    · subst hchance
      refine .cons rfl (condOperand_chance levels _) (fun _ _ => condOperand_chance levels _) ?_
      refine Tracks.bind_eq (tracks_expr levels) (fun _ _ => ?_) _
      exact .bind_expect rfl (.pure rfl)
    by_cases hglobal : l = .word "global"
    · subst hglobal
      exact .cons rfl (condOperand_global levels _) (fun _ _ => condOperand_global levels _)
        (tracks_globalTest levels _)
    by_cases href : ∃ w ∈ refWords, l = .word w
    · obtain ⟨w, hw, rfl⟩ := href
      exact .same_cons (condOperand_ref levels _ hw) (fun _ _ => condOperand_ref levels _ hw)
        (tracks_refTest levels _)
    by_cases hparen : l = .symbol .lparen
    · subst hparen
      exact tracksAt_paren hinner hbefore
    · have hother : ∀ w ∈ refWords, l ≠ .word w := fun w hw heq => href ⟨w, hw, heq⟩
      exact .same_cons (condOperand_other levels _ hnot hchance hglobal hother hparen)
        (fun _ _ => condOperand_other levels _ hnot hchance hglobal hother hparen)
        (tracks_test levels _)

end Operand

theorem tracks_innerCond (levels : Nat) (hbefore : AtTest before) :
    Tracks f pieceStarts before 0 (fun c c' => c' = c.moved f) (innerCond levels)
      (innerCond levels) := by
  induction levels generalizing before with
  | zero => exact .fail nofun
  | succ levels ih =>
    show Tracks f pieceStarts before 0 _ (condOperandWithin levels) (condOperandWithin levels)
    rw [condOperandWithin_eq]
    exact tracks_condOperand (fun _ h => ih h) hbefore

/-- A condition stands behind a word for a test. -/
theorem tracks_condition (levels : Nat) (hbefore : AtTest before) :
    Tracks f pieceStarts before 0 (fun c c' => c' = c.moved f) (condition levels)
      (condition levels) :=
  tracks_disjunction (fun _ h => tracks_innerCond (levels + 1) h) hbefore

end Parser

end Skirmish.Script
