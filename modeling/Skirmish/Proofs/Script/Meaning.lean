import Skirmish.Script.Step

/-!
# The meaning of scripts

A script means what its statements say one after the other (`runAll`): nothing is decided before
the script runs, every chance goes through a roll, every repetition counts its turns, and every
block goes through its statements from the world it meets. The steps that statements become, in
which what constants decide is decided already, do the same (`ofList_stmtSteps_eq_runAll`).
-/

namespace Skirmish

/-- Goes on `n` times, each time from the world that the time before left. -/
def Outcome.iterate (step : World → Outcome) : Nat → World → Outcome
  | 0, w => ⟨w, []⟩
  | n + 1, w => (step w).andThen (iterate step n)

namespace Script

/-! ## Statements as they are written -/

mutual

/-- What a statement does in a world. -/
def runStmt (rules : Rules) : Stmt → Bindings → World → Outcome
  | .branch cond yes no, b, w =>
    let (w, hit) := cond.test b w
    if hit then runBlock rules yes b w else runElse rules no b w
  | .chance percent yes no, b, w =>
    let (w, hit) := rollChance w (percent.eval w b).asFloat
    if hit then runBlock rules yes b w else runElse rules no b w
  | .repeat times body, b, w =>
    let n := max 0 (min (times.eval w b).asInt.toInt maxRepeat.toInt)
    Outcome.iterate (runBlock rules body b) n.toNat w
  | .parallel body, b, w => runBlock rules body b w
  | .forEach selector body, b, w =>
    Outcome.fold (fun id w => runBlock rules body { b with it? := some id } w)
      (selector.node.pick w b) w
  | s, b, w =>
    match s.action? w b with
    | some a => a.apply rules w
    | none => ⟨w, []⟩

def runBlock (rules : Rules) : Block → Bindings → World → Outcome
  | .mk _ _ stmts, b, w => runAll rules stmts b w

/-- What the block behind `else` does, if there is one. -/
def runElse (rules : Rules) : Option Block → Bindings → World → Outcome
  | some block, b, w => runBlock rules block b w
  | none, _, w => ⟨w, []⟩

/-- What statements do one after the other. -/
def runAll (rules : Rules) : List (Located Stmt) → Bindings → World → Outcome
  | [], _, w => ⟨w, []⟩
  | ⟨stmt, _⟩ :: rest, b, w => (runStmt rules stmt b w).andThen (runAll rules rest b)

end

/-! ## Steps that stand for others -/

theorem Step.ofList_eq_sequence (steps : List Step) : Step.ofList steps = Step.sequence steps := by
  match steps with
  | [] => rfl
  | [step] =>
    funext rules b w
    simp only [ofList, sequence, Outcome.fold, Outcome.andThen, List.append_nil]
  | _ :: _ :: _ => rfl

/-- The step of a statement; a statement that can never do anything does nothing. -/
def stepOf (s : Stmt) : Step := (stmtStep? s).getD .identity

/-- A statement that folds away does nothing in a list either. -/
theorem sequence_stmtSteps_cons (stmt : Stmt) (pos : Pos) (rest : List (Located Stmt))
    (rules : Rules) (b : Bindings) (w : World) :
    Step.sequence (stmtSteps (⟨stmt, pos⟩ :: rest)) rules b w =
      (stepOf stmt rules b w).andThen (Step.sequence (stmtSteps rest) rules b) := by
  rw [stmtSteps, stepOf]
  cases stmtStep? stmt with
  | some step => rfl
  | none => rfl

theorem branch_eq (test : Bindings → World → World × Bool) (yes : Step) (no : Option Step)
    (rules : Rules) (b : Bindings) (w : World) :
    Step.branch test yes no rules b w =
      if (test b w).2 then yes rules b (test b w).1
      else no.getD .identity rules b (test b w).1 := by
  cases no <;> rfl

theorem repeated_eq (times : Expr) (body : Step) (rules : Rules) (b : Bindings) (w : World) :
    Step.repeated times body rules b w =
      Outcome.iterate (body rules b)
        (max 0 (min (times.eval w b).asInt.toInt maxRepeat.toInt)).toNat w := by
  have hiterate : ∀ n (w : World), Step.sequence (List.replicate n body) rules b w =
      Outcome.iterate (body rules b) n w := by
    intro n
    induction n with
    | zero => exact fun _ => rfl
    | succ n ih =>
      intro w
      rw [List.replicate_succ, Outcome.iterate, ← funext ih]
      rfl
  rw [Step.repeated, hiterate, Saturating.toInt_min]
  congr 1
  omega

/-! ## What constants decide -/

/-- A constant has its value in every world. -/
theorem Expr.eval_of_constant? {e : Expr} {v : Value} (h : e.constant? = some v) (w : World)
    (b : Bindings) : e.eval w b = v := by
  induction e generalizing v with
  | lit u => exact Option.some.inj h
  | neg e ih =>
    rw [constant?] at h
    split at h
    · next n hn =>
      rw [eval, ih hn]
      exact Option.some.inj h
    · next x hx =>
      rw [eval, ih hx]
      exact Option.some.inj h
    · cases h
  | _ => cases h

/-- A chance that a constant decides does what a roll against it would do. -/
theorem stepOf_chance (percent : Expr) (yes : Block) (no : Option Block) (rules : Rules)
    (b : Bindings) (w : World) :
    stepOf (.chance percent yes no) rules b w =
      if (rollChance w (percent.eval w b).asFloat).2 then
        blockStep yes rules b (rollChance w (percent.eval w b).asFloat).1
      else (elseStep? no).getD .identity rules b (rollChance w (percent.eval w b).asFloat).1 := by
  have hrolled := branch_eq (fun b w => rollChance w (percent.eval w b).asFloat) (blockStep yes)
    (elseStep? no) rules b w
  rw [stepOf, stmtStep?]
  cases hconstant : percent.constant? with
  | none => exact hrolled
  | some v =>
    have hvalue := Expr.eval_of_constant? hconstant w b
    dsimp only [Option.map_some]
    split
    · next hnone => rw [hvalue, rollChance, if_pos hnone, if_neg Bool.false_ne_true]
    · next hnone =>
      split
      · next hsure => rw [hvalue, rollChance, if_neg hnone, if_pos hsure, if_pos rfl]; rfl
      · exact hrolled

theorem stepOf_repeat (times : Expr) (body : Block) (rules : Rules) (b : Bindings) (w : World) :
    stepOf (.repeat times body) rules b w = Step.repeated times (blockStep body) rules b w := by
  rw [stepOf, stmtStep?]
  split
  · next hnone =>
    obtain ⟨n, hn, hle⟩ := (Option.any_eq_true ..).1 hnone
    obtain ⟨v, hv, rfl⟩ := Option.map_eq_some_iff.1 hn
    have hle : v.asInt.toInt ≤ 0 := by
      have := of_decide_eq_true hle
      rwa [Int64.le_iff_toInt_le] at this
    have hcount : (max 0 (min v.asInt.toInt maxRepeat.toInt)).toNat = 0 := by omega
    rw [repeated_eq, Expr.eval_of_constant? hv, hcount]
    rfl
  · rfl

theorem stepOf_parallel (body : Block) : stepOf (.parallel body) = blockStep body := by
  obtain ⟨braced, pos, stmts⟩ := body
  rw [stepOf, stmtStep?, blockStep]
  cases stmts <;> rfl

/-! ## Steps and meaning -/

mutual

theorem stepOf_eq_runStmt (rules : Rules) : (s : Stmt) → ∀ b (w : World),
    stepOf s rules b w = runStmt rules s b w
  | .branch cond yes no, b, w => by
    rw [stepOf, stmtStep?, Option.getD_some, branch_eq, blockStep_eq_runBlock rules yes,
      elseStep_eq_runElse rules no, runStmt]
  | .chance percent yes no, b, w => by
    rw [stepOf_chance, blockStep_eq_runBlock rules yes, elseStep_eq_runElse rules no, runStmt]
  | .repeat times body, b, w => by
    have hbody : blockStep body rules b = runBlock rules body b :=
      funext (blockStep_eq_runBlock rules body b)
    rw [stepOf_repeat, repeated_eq, runStmt, hbody]
  | .parallel body, b, w => by
    rw [stepOf_parallel, runStmt, blockStep_eq_runBlock rules body]
  | .forEach selector body, b, w => by
    have hbody : blockStep body rules = runBlock rules body :=
      funext fun b => funext (blockStep_eq_runBlock rules body b)
    rw [stepOf, stmtStep?, Option.getD_some, Step.forEach, runStmt, hbody]
  | .deal .., _, _ | .heal .., _, _ | .move .., _, _ | .dash .., _, _ | .line .., _, _
  | .setVar .., _, _ | .addVar .., _, _ | .removeVar .., _, _ | .addTag .., _, _
  | .removeTag .., _, _ | .consumeMp _, _, _ => by
    simp only [stepOf, stmtStep?, Option.getD_some, runStmt]
    rfl

theorem blockStep_eq_runBlock (rules : Rules) : (block : Block) → ∀ b (w : World),
    blockStep block rules b w = runBlock rules block b w
  | .mk _ _ stmts, b, w => by
    rw [blockStep, runBlock, Step.ofList_eq_sequence, sequence_stmtSteps_eq_runAll rules stmts]

theorem elseStep_eq_runElse (rules : Rules) : (no : Option Block) → ∀ b (w : World),
    (elseStep? no).getD .identity rules b w = runElse rules no b w
  | none, _, _ => by
    rw [elseStep?, runElse]
    rfl
  | some block, b, w => by
    rw [elseStep?, Option.getD_some, runElse, blockStep_eq_runBlock rules block]

theorem sequence_stmtSteps_eq_runAll (rules : Rules) : (l : List (Located Stmt)) →
    ∀ b (w : World), Step.sequence (stmtSteps l) rules b w = runAll rules l b w
  | [], _, _ => by
    rw [stmtSteps, runAll]
    rfl
  | ⟨stmt, pos⟩ :: rest, b, w => by
    have hrest : Step.sequence (stmtSteps rest) rules b = runAll rules rest b :=
      funext (sequence_stmtSteps_eq_runAll rules rest b)
    rw [sequence_stmtSteps_cons, runAll, stepOf_eq_runStmt rules stmt, hrest]

end

/-- The step that statements become does what the statements say, in every world, for every caster
and target: the world it leads to and the events it records are the same. -/
theorem ofList_stmtSteps_eq_runAll (l : List (Located Stmt)) (rules : Rules) (b : Bindings)
    (w : World) : Step.ofList (stmtSteps l) rules b w = runAll rules l b w := by
  rw [Step.ofList_eq_sequence, sequence_stmtSteps_eq_runAll]

end Script

end Skirmish
