import Skirmish.Proofs.Script.Taking
import Skirmish.Script.Statement

/-!
# How high expressions and conditions grow

A chain of operators adds at most `maxNesting` to the height of its operands, and so do the signs and
parentheses around an operand. So the height of what is read is bounded, however long the text is
(`gives_expr`, `gives_condition`).
-/

namespace Skirmish.Script

open Script.Parser

/-! ## Heights -/

/-- The number of nodes on the longest way down. -/
def Expr.height : Expr → Nat
  | neg e => e.height + 1
  | bin _ lhs rhs => max lhs.height rhs.height + 1
  | lit _ | unitVar .. | globalVar _ | turn => 1

/-- The number of nodes on the longest way down, those of expressions among them. -/
def Cond.height : Cond → Nat
  | cmp _ lhs rhs => max lhs.height rhs.height + 1
  | truthy e => e.height + 1
  | chance percent => percent.node.height + 1
  | not c => c.height + 1
  | and lhs rhs | or lhs rhs => max lhs.height rhs.height + 1
  | hasTag .. | globalHasTag _ => 1

/-- How high an operand grows with a number of levels left. -/
def operandBound (levels : Nat) : Nat := 2 * maxNesting * levels + 1

theorem operandBound_succ (levels : Nat) :
    operandBound (levels + 1) = operandBound levels + 2 * maxNesting := by
  unfold operandBound
  rw [Nat.mul_succ]
  omega

theorem one_le_operandBound (levels : Nat) : 1 ≤ operandBound levels := Nat.le_add_left 1 _

namespace Parser

variable {α β σ : Type}

/-! ## What parsers give back -/

/-- Where `p` succeeds, `P` holds of what it gives back. -/
def Gives (p : Parser α) (P : α → Prop) : Prop := ∀ input a rest, p input = .ok (a, rest) → P a

namespace Gives

variable {p : Parser α} {f : α → Parser β} {P P' : α → Prop} {Q : β → Prop}

theorem mono (h : Gives p P) (himp : ∀ a, P a → P' a) : Gives p P' :=
  fun input a rest hrun => himp a (h input a rest hrun)

theorem pure {a : α} (h : P a) : Gives (pure a) P := by
  intro input a' rest hrun
  cases hrun
  exact h

theorem pure_some {a : α} (h : P a) : Gives (Pure.pure (some a)) fun r => ∀ a ∈ r, P a :=
  pure fun a' ha' => by rwa [← Option.some.inj ha']

theorem pure_none : Gives (Pure.pure none) fun r => ∀ a ∈ r, P a :=
  pure fun a ha => absurd ha (Option.not_mem_none a)

theorem bind (hp : Gives p P) (hf : ∀ a, P a → Gives (f a) Q) : Gives (p >>= f) Q := by
  intro input b rest hrun
  obtain ⟨a, mid, hfirst, hsecond⟩ := bind_eq_ok.1 hrun
  exact hf a (hp input a mid hfirst) mid b rest hsecond

/-- What `p` gives back need not matter to what comes after it. -/
theorem after (hf : ∀ a, Gives (f a) Q) : Gives (p >>= f) Q :=
  bind (P := fun _ => True) (fun _ _ _ _ => trivial) fun a _ => hf a

theorem map {g : α → β} (h : Gives p fun a => Q (g a)) : Gives (g <$> p) Q := by
  intro input b rest hrun
  obtain ⟨a, mid, hfirst, hsecond⟩ := bind_eq_ok (p := p) (f := fun a => Pure.pure (g a)).1 hrun
  cases hsecond
  exact h input a _ hfirst

theorem fail (fault : Fault) : Gives (fail fault) P := nofun

theorem failAt (pos : Pos) (fault : Fault) : Gives (failAt pos fault) P := nofun

theorem unexpected (what : String) : Gives (unexpected what) P := nofun

theorem take? (f : Lexeme → Option α) : Gives (take? f) fun r => ∀ a ∈ r, ∃ l, f l = some a := by
  intro input r rest hrun a ha
  obtain ⟨-, -, -, ⟨rfl, -⟩ | ⟨t, a', rfl, -, hf⟩⟩ := Takes.take? f input r rest hrun
  · cases ha
  · obtain rfl := Option.some.inj ha
    exact ⟨t.lexeme, hf⟩

theorem attempt {p : Parser (Option α)} (h : Gives p fun r => ∀ a ∈ r, P a) :
    Gives (attempt p) fun r => ∀ a ∈ r, P a := by
  intro input r rest hrun
  rw [Parser.attempt] at hrun
  split at hrun
  · next a mid hsome =>
    cases hrun
    exact h input _ _ hsome
  · cases hrun
    exact fun a ha => absurd ha (Option.not_mem_none a)

/-- What every step keeps, repetition keeps. -/
theorem steps {step : σ → Parser (Option σ)} {s : σ} {I : σ → Prop} (hs : I s)
    (hstep : ∀ s, I s → Gives (step s) fun r => ∀ next ∈ r, I next) : Gives (steps step s) I := by
  have hwithin : ∀ n s, I s → Gives (stepsWithin step n s) I := by
    intro n
    induction n with
    | zero => exact fun s hs => pure hs
    | succ n ih =>
      refine fun s hs => bind (hstep s hs) fun r hr => ?_
      cases r with
      | none => exact pure hs
      | some next => exact ih next (hr next rfl)
  exact after fun input => hwithin _ s hs

theorem many {item : Parser (Option α)} (hitem : Gives item fun r => ∀ a ∈ r, P a) :
    Gives (many item) fun l => ∀ a ∈ l, P a := by
  -- `steps` collects the items from the last one to the first
  have hkeep : ∀ l, (∀ a ∈ l, P a) →
      Gives ((fun r => r.map (· :: l)) <$> item) fun r => ∀ m ∈ r, ∀ a ∈ m, P a := by
    refine fun l hl => map (hitem.mono fun r hr next hnext => ?_)
    obtain ⟨a, rfl, rfl⟩ := Option.map_eq_some_iff.1 hnext
    exact List.forall_mem_cons.2 ⟨hr a rfl, hl⟩
  exact map ((steps (List.forall_mem_nil P) hkeep).mono fun l hl a ha => hl a (List.mem_reverse.1 ha))

/-- Each operator of a chain makes what is read one higher, and there are at most `maxNesting`. -/
theorem chain {height : α → Nat} {n j : Nat} {operator : Parser (Option (α → α → α))}
    {operand : Parser α} (hoperator : Gives operator fun r => ∀ combine ∈ r, ∀ a b,
      height (combine a b) ≤ max (height a) (height b) + 1)
    (hoperand : Gives operand fun a => height a + (j + maxNesting) ≤ n) :
    Gives (chain operator operand) fun a => height a + j ≤ n := by
  -- what has been read leaves room for the operators that may still come
  have hlinks : ∀ left a, left ≤ maxNesting → height a + (j + left) ≤ n →
      Gives (links operator operand left a) fun b => height b + j ≤ n := by
    intro left
    induction left with
    | zero =>
      intro a _ ha
      rw [links.eq_def]
      refine bind hoperator fun r _ => ?_
      cases r with
      | none => exact pure ha
      | some combine => exact fail _
    | succ left ih =>
      intro a hleft ha
      rw [links.eq_def]
      refine bind hoperator fun r hr => ?_
      cases r with
      | none => exact pure (by omega)
      | some combine =>
        refine bind hoperand fun b hb => ?_
        have hjoined := hr combine rfl a b
        exact ih _ (by omega) (by omega)
  exact bind hoperand fun a ha => hlinks maxNesting a (Nat.le_refl _) ha

end Gives

/-! ## Expressions -/

theorem gives_sum {operand : Parser Expr} {n j : Nat}
    (h : Gives operand fun e => e.height + (j + 2 * maxNesting) ≤ n) :
    Gives (sum operand) fun e => e.height + j ≤ n := by
  have hoperator : ∀ op? : Lexeme → Option BinOp, Gives (take? fun l => (op? l).map Expr.bin)
      fun r => ∀ combine ∈ r, ∀ a b, (combine a b).height ≤ max a.height b.height + 1 := by
    refine fun op? => (Gives.take? _).mono fun r hr combine hcombine a b => ?_
    obtain ⟨l, hl⟩ := hr combine hcombine
    obtain ⟨op, -, rfl⟩ := Option.map_eq_some_iff.1 hl
    exact Nat.le_refl _
  exact .chain (hoperator _) (.chain (hoperator _) (h.mono fun e he => by omega))

/-- A sign makes an operand one higher, and parentheses let a whole sum stand for it. -/
theorem gives_operand {inner : Parser Expr} {n : Nat} (hn : 1 ≤ n)
    (hinner : Gives inner fun e => e.height + 2 * maxNesting ≤ n) :
    Gives (operand inner) fun e => e.height ≤ n := by
  have hsum : Gives (sum inner) fun e => e.height + 0 ≤ n :=
    gives_sum (hinner.mono fun e he => by omega)
  have hroom : 1 ≤ maxNesting := by decide
  unfold operand
  refine .after fun _ => ?_
  split
  · exact .bind hinner fun e he => .pure (by rw [Expr.height]; omega)
  refine .after fun _ => ?_
  split
  · exact .bind hsum fun e he => .after fun _ => .pure he
  refine .after fun _ => ?_
  split
  · exact .pure hn
  refine .after fun _ => ?_
  split
  · exact .pure hn
  refine .after fun _ => ?_
  split
  · exact .after fun _ => .after fun _ => .pure hn
  refine .after fun _ => ?_
  split
  · exact .after fun _ => .after fun _ =>
      .after fun _ => .pure hn
  · exact .unexpected _

theorem gives_operandWithin (levels : Nat) :
    Gives (operandWithin levels) fun e => e.height ≤ operandBound levels := by
  induction levels with
  | zero => exact gives_operand (one_le_operandBound 0) (.fail _)
  | succ levels ih =>
    refine gives_operand (one_le_operandBound _) (ih.mono fun e he => ?_)
    rw [operandBound_succ]
    omega

theorem gives_expr (levels : Nat) :
    Gives (expr levels) fun e => e.height ≤ operandBound (levels + 1) := by
  refine gives_sum (j := 0) ((gives_operandWithin levels).mono fun e he => ?_)
  rw [operandBound_succ]
  omega

/-! ## Conditions -/

theorem gives_disjunction {operand : Parser Cond} {n j : Nat}
    (h : Gives operand fun c => c.height + (j + 2 * maxNesting) ≤ n) :
    Gives (disjunction operand) fun c => c.height + j ≤ n := by
  have hjoined : ∀ (w : String) (join : Cond → Cond → Cond),
      (∀ a b, (join a b).height = max a.height b.height + 1) →
      Gives (return if ← eatWord w then some join else none)
        fun r => ∀ combine ∈ r, ∀ a b, (combine a b).height ≤ max a.height b.height + 1 := by
    refine fun w join hjoin => .after fun b => .pure fun combine hcombine a b => ?_
    split at hcombine
    · cases hcombine
      exact Nat.le_of_eq (hjoin a b)
    · cases hcombine
  exact .chain (hjoined "or" .or fun _ _ => rfl)
    (.chain (hjoined "and" .and fun _ _ => rfl) (h.mono fun c hc => by omega))

/-- A test for a tag is a leaf. -/
theorem gives_globalHasTag? : Gives globalHasTag? fun r => ∀ c ∈ r, c.height = 1 := by
  refine .after fun _ => ?_
  dsimp only
  split
  · exact .after fun _ => .after fun _ => .after fun _ => .pure_some rfl
  · exact .pure_none

theorem gives_hasTag? : Gives hasTag? fun r => ∀ c ∈ r, c.height = 1 := by
  refine .after fun _ => ?_
  split
  · exact .pure_none
  refine .after fun _ => .after fun _ => .after fun _ => ?_
  split
  · exact .after fun _ => .pure_some rfl
  · exact .after fun _ => .pure_none

theorem gives_grouped? {inner : Parser Cond} {n : Nat} (h : Gives inner fun c => c.height ≤ n) :
    Gives (grouped? inner) fun r => ∀ c ∈ r, c.height ≤ n := by
  unfold grouped?
  refine .after fun _ => ?_
  split
  · exact .pure_none
  refine .bind h fun c hc => .after fun _ => .after fun _ => ?_
  split
  · exact .pure_some hc
  · exact .pure_none

/-- A `not` makes an operand one higher, and so does what an expression is tested for. -/
theorem gives_condOperand (levels : Nat) {inner : Parser Cond} {n : Nat}
    (hn : operandBound (levels + 1) + 1 ≤ n)
    (hinner : Gives inner fun c => c.height + 2 * maxNesting ≤ n) :
    Gives (condOperand levels inner) fun c => c.height ≤ n := by
  have hleaf : 1 ≤ n := by have := one_le_operandBound (levels + 1); omega
  have hroom : 1 ≤ maxNesting := by decide
  unfold condOperand
  refine .after fun pos => .after fun _ => ?_
  split
  · exact .bind hinner fun c hc => .pure (by rw [Cond.height]; omega)
  refine .after fun _ => ?_
  split
  · refine .bind (gives_expr levels) fun percent hpercent => .after fun _ => .pure ?_
    show percent.height + 1 ≤ n
    omega
  refine .bind gives_globalHasTag? fun r hr => ?_
  split
  · next c => exact .pure (hr c rfl ▸ hleaf)
  refine .bind gives_hasTag? fun r hr => ?_
  split
  · next c => exact .pure (hr c rfl ▸ hleaf)
  have hdisjunction : Gives (disjunction inner) fun c => c.height + 0 ≤ n :=
    gives_disjunction (hinner.mono fun c hc => by omega)
  refine .bind (.attempt (gives_grouped? hdisjunction)) fun r hr => ?_
  split
  · next c => exact .pure (hr c rfl)
  refine .bind (gives_expr levels) fun lhs hlhs => .after fun op => ?_
  split
  · refine .bind (gives_expr levels) fun rhs hrhs => .pure ?_
    rw [Cond.height]
    omega
  · exact .pure (by rw [Cond.height]; omega)

theorem gives_condOperandWithin (levels : Nat) :
    Gives (condOperandWithin levels) fun c => c.height ≤ operandBound (levels + 1) + 1 := by
  induction levels with
  | zero => exact gives_condOperand 0 (Nat.le_refl _) (.fail _)
  | succ levels ih =>
    refine gives_condOperand (levels + 1) (Nat.le_refl _) (ih.mono fun c hc => ?_)
    rw [operandBound_succ (levels + 1)]
    omega

theorem gives_condition (levels : Nat) :
    Gives (condition levels) fun c => c.height ≤ operandBound (levels + 2) + 1 := by
  refine gives_disjunction (j := 0) ((gives_condOperandWithin levels).mono fun c hc => ?_)
  rw [operandBound_succ (levels + 1)]
  omega

end Parser

end Skirmish.Script
