import Skirmish.Proofs.Joining.Tracking
import Skirmish.Proofs.Grammar.Condition

/-!
# Expressions elsewhere

Names, units and expressions are read as they are by themselves in front of anything that begins a
piece of a script, because nothing of that kind goes on with an expression
(`isOperator_pieceStarts`).
-/

namespace Skirmish.Script

open Script.Parser

/-- The words that statements begin with. -/
def statementWords : List String :=
  ["deal", "heal", "move", "dash", "line", "set", "add", "remove", "consume", "if", "repeat",
    "parallel", "for", "chance"]

/-- What stands behind a piece of a script, if anything does. -/
def pieceStarts : List Lexeme :=
  [.symbol .semi, .symbol .rbrace] ++ (metaWords ++ statementWords).map .word

/-- Nothing that a piece of a script begins with goes on with an expression. -/
theorem isOperator_pieceStarts : ∀ l ∈ pieceStarts, isOperator l = false := by decide

section Operator

variable {l : Lexeme} (h : isOperator l = false)

include h

theorem no_operators : additive? l = none ∧ multiplicative? l = none ∧ comparison? l = none := by
  simpa only [isOperator, Bool.or_eq_false_iff, Option.isSome_eq_false_iff,
    Option.isNone_iff_eq_none, and_assoc] using h

theorem no_additive : (additive? l).map Expr.bin = none := by
  rw [(no_operators h).1, Option.map_none]

theorem no_multiplicative : (multiplicative? l).map Expr.bin = none := by
  rw [(no_operators h).2.1, Option.map_none]

end Operator

/-- An operator is no parenthesis. -/
theorem depthBehind?_of_isOperator {l : Lexeme} (h : isOperator l) (d : Nat) :
    depthBehind? d l = some d := by
  cases l with
  | symbol s =>
    cases s with
    | lparen | rparen => cases h
    | _ => rfl
  | _ => rfl

namespace Parser

variable {f : Pos → Pos} {before : List Lexeme}

/-- A name is no parenthesis. -/
theorem depthBehind?_text {l : Lexeme} {s : String} (h : text? l = some s) (d : Nat) :
    depthBehind? d l = some d := by
  cases l with
  | symbol s => cases h
  | _ => rfl

theorem tracks_text (what : String) : Tracks f pieceStarts before 0 Eq (text what) (text what) :=
  .take fun _ _ h => depthBehind?_text h 0

theorem tracks_varName : Tracks f pieceStarts before 0 Eq varName varName := by
  refine .take fun m c h => ?_
  cases m with
  | symbol s => cases h
  | _ => rfl

theorem reference_of_not_mem {w : String} (hw : w ∉ refWords) {pos : Pos} {tokens : List Token}
    {finish : Pos} : reference ⟨⟨.word w, pos⟩ :: tokens, finish⟩ =
      .error ⟨.unexpected "a unit reference" (some (.word w)), pos⟩ := by
  have hword : ∀ what, word what ⟨⟨.word w, pos⟩ :: tokens, finish⟩ = .ok (w, ⟨tokens, finish⟩) :=
    fun _ => rfl
  have hhere : here ⟨⟨.word w, pos⟩ :: tokens, finish⟩ =
      .ok (pos, ⟨⟨.word w, pos⟩ :: tokens, finish⟩) := rfl
  unfold reference
  rw [bind_of_ok hhere, bind_of_ok (hword _)]
  split
  all_goals first | rfl | exact absurd (by decide) hw

theorem tracks_reference : Tracks f pieceStarts before 0 Eq reference reference
  | ⟨[], _⟩ => .ended rfl
  | ⟨⟨l, pos⟩ :: tokens, finish⟩ => by
    cases l with
    | word w =>
      by_cases hw : w ∈ refWords
      · simp only [refWords, List.mem_cons, List.not_mem_nil, or_false] at hw
        obtain rfl | rfl | rfl | rfl | rfl := hw
        · exact .cons (q := pure .caster) (r := pure .caster) rfl rfl (fun _ _ => rfl) (.pure rfl)
        · exact .cons (q := pure .caster) (r := pure .caster) rfl rfl (fun _ _ => rfl) (.pure rfl)
        · exact .cons (q := pure .target) (r := pure .target) rfl rfl (fun _ _ => rfl) (.pure rfl)
        · exact .cons (q := pure .it) (r := pure .it) rfl rfl (fun _ _ => rfl) (.pure rfl)
        · refine .cons (q := return .unit (← text "a unit id"))
            (r := return .unit (← text "a unit id")) rfl rfl (fun _ _ => rfl) ?_
          exact Tracks.bind_eq (tracks_text _) (fun _ _ => .pure rfl) _
      · exact .reject (reference_of_not_mem hw) fun _ _ => ⟨_, reference_of_not_mem hw⟩
    | _ => exact .reject rfl fun _ _ => ⟨_, rfl⟩

theorem tracks_atRef : Tracks f pieceStarts before 0 Eq atRef atRef := by
  refine .bind_peek? (fun m hm => ?_) fun l? => .pure rfl
  have hother : ∀ m ∈ pieceStarts, (word? m).any refWords.contains = false := by decide
  show Pure.pure ((word? m).any refWords.contains) = Pure.pure false
  rw [hother m hm]

/-! ## Expressions -/

/-- Operators of a kind. -/
theorem tracks_operator {γ : Type} {g : Lexeme → Option γ}
    (h : ∀ l, isOperator l = false → g l = none) :
    Tracks f pieceStarts before 0 Eq (take? g) (take? g) := by
  refine .take? (fun m hm => h m (isOperator_pieceStarts m hm)) fun m c hc => ?_
  refine depthBehind?_of_isOperator (Bool.of_not_eq_false fun hno => ?_) 0
  rw [h m hno] at hc
  cases hc

theorem tracks_comparison :
    Tracks f pieceStarts before 0 Eq (take? comparison?) (take? comparison?) :=
  tracks_operator fun _ h => (no_operators h).2.2

/-- The operands that follow a first one in a sum of products. -/
def sumFrom (operand : Parser Expr) (e : Expr) : Parser Expr := do
  let e ← links (take? fun l => (multiplicative? l).map Expr.bin) operand maxNesting e
  links (take? fun l => (additive? l).map Expr.bin)
    (chain (take? fun l => (multiplicative? l).map Expr.bin) operand) maxNesting e

theorem sum_eq (operand : Parser Expr) : sum operand = operand >>= sumFrom operand :=
  bind_assoc ..

section Sum

variable {operand : Parser Expr} (hoperand : ∀ before, Tracks f pieceStarts before 0 Eq operand operand)

include hoperand

theorem tracks_sumFrom (e : Expr) :
    Tracks f pieceStarts before 0 Eq (sumFrom operand e) (sumFrom operand e) := by
  have hmul : ∀ before, Tracks f pieceStarts before 0 Eq
      (take? fun l => (multiplicative? l).map Expr.bin)
      (take? fun l => (multiplicative? l).map Expr.bin) := fun _ =>
    tracks_operator fun _ => no_multiplicative
  have hadd : ∀ before, Tracks f pieceStarts before 0 Eq (take? fun l => (additive? l).map Expr.bin)
      (take? fun l => (additive? l).map Expr.bin) := fun _ =>
    tracks_operator fun _ => no_additive
  refine .bind_eq (.links (C := fun _ => True) (fun before _ => hoperand before) hmul ?_ rfl) ?_
  · exact fun _ _ _ _ => ⟨fun _ _ _ _ ha hb => ha ▸ hb ▸ rfl, fun _ _ _ => trivial⟩
  refine fun e before => .links (C := fun _ => True) (fun before _ => ?_) hadd ?_ rfl
  · refine .chain (C := fun _ => True) (fun before _ => hoperand before) hmul ?_ trivial
    exact fun _ _ _ _ => ⟨fun _ _ _ _ ha hb => ha ▸ hb ▸ rfl, fun _ _ _ => trivial⟩
  · exact fun _ _ _ _ => ⟨fun _ _ _ _ ha hb => ha ▸ hb ▸ rfl, fun _ _ _ => trivial⟩

theorem tracks_sum : Tracks f pieceStarts before 0 Eq (sum operand) (sum operand) := by
  rw [sum_eq]
  exact .bind_eq (hoperand before) fun e _ => tracks_sumFrom hoperand e

end Sum

theorem tracks_operand {inner : Parser Expr}
    (hinner : ∀ before, Tracks f pieceStarts before 0 Eq inner inner) :
    Tracks f pieceStarts before 0 Eq (operand inner) (operand inner) := by
  unfold operand
  refine .bind_eat (by decide) rfl (.bind_eq (hinner _) fun _ _ => .pure rfl) ?_
  refine .bind_eat (by decide) rfl
    (.bind_eq (tracks_sum hinner) fun _ _ => .bind_expect rfl (.pure rfl)) ?_
  refine .bind_take? (by decide : ∀ m ∈ pieceStarts, literal? m = none)
    (fun m c hc => ⟨0, ?_, .pure rfl⟩) ?_
  · cases m with
    | symbol s => cases hc
    | _ => rfl
  refine .bind_eat (by decide) rfl (.pure rfl) ?_
  refine .bind_eat (by decide) rfl (.bind_expect rfl (.bind_eq tracks_varName fun _ _ => .pure rfl)) ?_
  refine .bind_eq tracks_atRef fun b _ => ?_
  cases b with
  | false => exact .unexpected _
  | true =>
    exact .bind_eq tracks_reference fun _ _ => .bind_expect rfl (.bind_eq tracks_varName fun _ _ =>
      .pure rfl)

theorem tracks_innerOperand (levels : Nat) :
    Tracks f pieceStarts before 0 Eq (innerOperand levels) (innerOperand levels) := by
  induction levels generalizing before with
  | zero => exact .fail nofun
  | succ levels ih =>
    show Tracks f pieceStarts before 0 Eq (operandWithin levels) (operandWithin levels)
    rw [operandWithin_eq]
    exact tracks_operand fun _ => ih

theorem tracks_operandWithin (levels : Nat) :
    Tracks f pieceStarts before 0 Eq (operandWithin levels) (operandWithin levels) :=
  tracks_innerOperand (levels + 1)

theorem tracks_expr (levels : Nat) : Tracks f pieceStarts before 0 Eq (expr levels) (expr levels) :=
  tracks_sum fun _ => tracks_operandWithin levels

end Parser

end Skirmish.Script
