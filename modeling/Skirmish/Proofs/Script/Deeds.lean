import Skirmish.Proofs.Script.Meaning

/-!
# The deeds of a script

Whatever its statements, a run of a script is a list of deeds, in the order in which they are done:
the actions that it takes and the chances that it decides. A log of them is kept beside the run
(`stmtsDeeds`); conditions are in it with the chances that are decided in them, and nothing that
`and`, `or` or a branch passes over is in it.

The log leaves nothing out: done one after the other, the deeds lead from the world that the script
meets to what comes of it, with every chance decided in the world that it meets (`leads_step`).
-/

namespace Skirmish.Script

/-- A chance that has been decided. -/
structure Decision where
  percent : Float
  /-- The seed of the roll, if one was drawn. -/
  seed? : Option UInt64
  hit : Bool

/-- How a chance of a percentage is decided in a world. -/
def Decision.taken (w : World) (percent : Float) : Decision where
  percent
  seed? :=
    if percent ≤ 0.0 ∨ 100.0 ≤ percent then none
    else some (Roll.seed w.seed w.turn 0 w.rolls .chance)
  hit := (rollChance w percent).2

/-- Counts the roll that was drawn for a decision. -/
def Decision.count (d : Decision) (w : World) : World :=
  if d.seed?.isSome then { w with rolls := Saturating.next w.rolls } else w

/-- One thing that a script does. -/
inductive Deed where
  | act (a : Action)
  | chance (d : Decision)

/-- The action that a deed is. -/
def Deed.action? : Deed → Option Action
  | act a => some a
  | chance _ => none

def Deed.perform (rules : Rules) : Deed → World → Outcome
  | act a, w => a.apply rules w
  | chance d, w => ⟨d.count w, []⟩

/-! ## The log of a run -/

/-- The chances that are decided in a condition. -/
def Cond.decisions (b : Bindings) : Cond → World → List Decision
  | cmp .., _ | truthy _, _ | hasTag .., _ | globalHasTag _, _ => []
  | chance percent, w => [.taken w (percent.node.eval w b).asFloat]
  | not c, w => c.decisions b w
  | and lhs rhs, w =>
    let (v, hit) := lhs.test b w
    lhs.decisions b w ++ if hit then rhs.decisions b v else []
  | or lhs rhs, w =>
    let (v, hit) := lhs.test b w
    lhs.decisions b w ++ if hit then [] else rhs.decisions b v

/-- The deeds of steps that follow one another. -/
def foldDeeds {α : Type} (deeds : α → World → List Deed) (step : α → World → Outcome) :
    List α → World → List Deed
  | [], _ => []
  | a :: rest, w => deeds a w ++ foldDeeds deeds step rest (step a w).world

mutual

def stmtDeeds (rules : Rules) : Stmt → Bindings → World → List Deed
  | .branch cond yes no, b, w =>
    let (v, hit) := cond.test b w
    (cond.decisions b w).map .chance ++
      if hit then blockDeeds rules yes b v else elseDeeds rules no b v
  | .chance percent yes no, b, w =>
    let p := (percent.eval w b).asFloat
    let (v, hit) := rollChance w p
    .chance (.taken w p) :: if hit then blockDeeds rules yes b v else elseDeeds rules no b v
  | .repeat times body, b, w =>
    let n := max 0 (min (times.eval w b).asInt.toInt maxRepeat.toInt)
    foldDeeds (fun _ w => blockDeeds rules body b w) (fun _ w => runBlock rules body b w)
      (List.replicate n.toNat ()) w
  | .parallel body, b, w => blockDeeds rules body b w
  | .forEach selector body, b, w =>
    foldDeeds (fun id w => blockDeeds rules body { b with it? := some id } w)
      (fun id w => runBlock rules body { b with it? := some id } w) (selector.node.pick w b) w
  | s, b, w => (s.action? w b).toList.map .act

def blockDeeds (rules : Rules) : Block → Bindings → World → List Deed
  | .mk _ _ stmts, b, w => stmtsDeeds rules stmts b w

/-- Those of the block behind `else`, if there is one. -/
def elseDeeds (rules : Rules) : Option Block → Bindings → World → List Deed
  | some block, b, w => blockDeeds rules block b w
  | none, _, _ => []

def stmtsDeeds (rules : Rules) : List (Located Stmt) → Bindings → World → List Deed
  | [], _, _ => []
  | ⟨stmt, _⟩ :: rest, b, w =>
    stmtDeeds rules stmt b w ++ stmtsDeeds rules rest b (runStmt rules stmt b w).world

end

/-! ## What deeds lead to -/

/-- Deeds lead from a world to an outcome. Every chance among them is decided in the world that it
meets, for a percentage that some value reads as. -/
inductive Leads (rules : Rules) : World → List Deed → Outcome → Prop where
  | nil (w : World) : Leads rules w [] ⟨w, []⟩
  | act {w : World} {ds : List Deed} {o : Outcome} (a : Action)
      (rest : Leads rules (a.apply rules w).world ds o) :
      Leads rules w (.act a :: ds) ((a.apply rules w).andThen fun _ => o)
  | chance {w : World} {ds : List Deed} {o : Outcome} (v : Value)
      (rest : Leads rules (rollChance w v.asFloat).1 ds o) :
      Leads rules w (.chance (.taken w v.asFloat) :: ds) o

theorem Decision.count_taken (w : World) (percent : Float) :
    (taken w percent).count w = (rollChance w percent).1 := by
  unfold count taken rollChance
  dsimp only
  by_cases hnone : percent ≤ 0.0
  · simp only [hnone, true_or, if_true]
    rfl
  · by_cases hsure : 100.0 ≤ percent
    · simp only [hnone, hsure, or_true, if_true, if_false]
      rfl
    · simp only [hnone, hsure, or_self, if_false]
      rfl

namespace Leads

variable {rules : Rules} {w : World} {ds es : List Deed} {o : Outcome}

theorem append (h : Leads rules w ds o) {p : Outcome} (k : Leads rules o.world es p) :
    Leads rules w (ds ++ es) (o.andThen fun _ => p) := by
  induction h with
  | nil w => exact k
  | @act w ds o a rest ih =>
    have hlater := act a (ih k)
    rw [Outcome.andThen] at hlater ⊢
    rwa [Outcome.andThen, ← List.append_assoc] at hlater
  | chance v rest ih => exact .chance v (ih k)

theorem single (a : Action) (w : World) : Leads rules w [.act a] (a.apply rules w) := by
  have hact := act a (.nil (a.apply rules w).world)
  rwa [Outcome.andThen, List.append_nil] at hact

/-- Deeds done one after the other come to what they lead to. -/
theorem fold_eq (h : Leads rules w ds o) : Outcome.fold (Deed.perform rules) ds w = o := by
  induction h with
  | nil w => rfl
  | act a rest ih =>
    rw [Outcome.fold, Deed.perform, Outcome.andThen, ih]
    rfl
  | chance v rest ih =>
    rw [Outcome.fold, Deed.perform, Decision.count_taken, Outcome.andThen, ih]
    rfl

/-- The first deeds of a list lead somewhere. -/
theorem of_append (h : Leads rules w (ds ++ es) o) : ∃ p, Leads rules w ds p := by
  induction ds generalizing w o with
  | nil => exact ⟨_, .nil w⟩
  | cons d ds ih =>
    cases h with
    | act a rest =>
      obtain ⟨p, hp⟩ := ih rest
      exact ⟨_, .act a hp⟩
    | chance v rest =>
      obtain ⟨p, hp⟩ := ih rest
      exact ⟨_, .chance v hp⟩

/-- Steps that their deeds lead to follow one another. -/
theorem fold {α : Type} {deeds : α → World → List Deed} {step : α → World → Outcome}
    (h : ∀ a w, Leads rules w (deeds a w) (step a w)) (l : List α) (w : World) :
    Leads rules w (foldDeeds deeds step l w) (Outcome.fold step l w) := by
  induction l generalizing w with
  | nil => exact .nil w
  | cons a l ih => exact (h a w).append (ih (step a w).world)

theorem iterate {deeds : World → List Deed} {step : World → Outcome}
    (h : ∀ w, Leads rules w (deeds w) (step w)) (n : Nat) (w : World) :
    Leads rules w (foldDeeds (fun _ => deeds) (fun _ => step) (List.replicate n ()) w)
      (Outcome.iterate step n w) := by
  induction n generalizing w with
  | zero => exact .nil w
  | succ n ih => exact (h w).append (ih (step w).world)

/-- The decisions of a condition lead to the world in which it has been tested. -/
theorem test (b : Bindings) (c : Cond) (w : World) :
    Leads rules w ((c.decisions b w).map .chance) ⟨(c.test b w).1, []⟩ := by
  induction c generalizing w with
  | chance percent => exact .chance (percent.node.eval w b) (.nil _)
  | not c ih => exact ih w
  | and lhs rhs ihl ihr =>
    rw [Cond.decisions, Cond.test, List.map_append]
    have hleft := ihl w
    generalize lhs.test b w = tested at hleft
    obtain ⟨v, hit⟩ := tested
    cases hit with
    | true => exact hleft.append (ihr v)
    | false => exact hleft.append (.nil v)
  | or lhs rhs ihl ihr =>
    rw [Cond.decisions, Cond.test, List.map_append]
    have hleft := ihl w
    generalize lhs.test b w = tested at hleft
    obtain ⟨v, hit⟩ := tested
    cases hit with
    | true => exact hleft.append (.nil v)
    | false => exact hleft.append (ihr v)
  | _ => exact .nil w

end Leads

mutual

theorem leads_stmt (rules : Rules) : (s : Stmt) → ∀ b (w : World),
    Leads rules w (stmtDeeds rules s b w) (runStmt rules s b w)
  | .branch cond yes no, b, w => by
    rw [stmtDeeds, runStmt]
    have htested : Leads rules w _ _ := .test b cond w
    generalize cond.test b w = tested at htested
    obtain ⟨v, hit⟩ := tested
    cases hit with
    | true => exact htested.append (leads_block rules yes b v)
    | false => exact htested.append (leads_else rules no b v)
  | .chance percent yes no, b, w => by
    rw [stmtDeeds, runStmt]
    have hrolled : Leads rules w _ _ := .chance (percent.eval w b) (.nil _)
    generalize rollChance w (percent.eval w b).asFloat = rolled at hrolled
    obtain ⟨v, hit⟩ := rolled
    cases hit with
    | true => exact hrolled.append (leads_block rules yes b v)
    | false => exact hrolled.append (leads_else rules no b v)
  | .repeat times body, b, w => by
    rw [stmtDeeds, runStmt]
    exact .iterate (leads_block rules body b) _ w
  | .parallel body, b, w => by
    rw [stmtDeeds, runStmt]
    exact leads_block rules body b w
  | .forEach selector body, b, w => by
    rw [stmtDeeds, runStmt]
    exact .fold (fun id => leads_block rules body { b with it? := some id }) _ w
  | .deal .., _, _ | .heal .., _, _ | .move .., _, _ | .dash .., _, _ | .line .., _, _
  | .setVar .., _, _ | .addVar .., _, _ | .removeVar .., _, _ | .addTag .., _, _
  | .removeTag .., _, _ | .consumeMp _, _, _ => by
    simp only [stmtDeeds, runStmt]
    split
    · next a ha =>
      rw [ha]
      exact .single a _
    · next hnone =>
      rw [hnone]
      exact .nil _

theorem leads_block (rules : Rules) : (block : Block) → ∀ b (w : World),
    Leads rules w (blockDeeds rules block b w) (runBlock rules block b w)
  | .mk _ _ stmts, b, w => by
    rw [blockDeeds, runBlock]
    exact leads_stmts rules stmts b w

theorem leads_else (rules : Rules) : (no : Option Block) → ∀ b (w : World),
    Leads rules w (elseDeeds rules no b w) (runElse rules no b w)
  | none, _, w => by
    rw [elseDeeds, runElse]
    exact .nil w
  | some block, b, w => by
    rw [elseDeeds, runElse]
    exact leads_block rules block b w

theorem leads_stmts (rules : Rules) : (l : List (Located Stmt)) → ∀ b (w : World),
    Leads rules w (stmtsDeeds rules l b w) (runAll rules l b w)
  | [], _, w => by
    rw [stmtsDeeds, runAll]
    exact .nil w
  | ⟨stmt, _⟩ :: rest, b, w => by
    rw [stmtsDeeds, runAll]
    exact (leads_stmt rules stmt b w).append (leads_stmts rules rest b _)

end

/-- The deeds of a script lead to what its step comes to. -/
theorem leads_step (s : Script) (rules : Rules) (b : Bindings) (w : World) :
    Leads rules w (stmtsDeeds rules s.stmts b w) (s.step rules b w) := by
  rw [step, Step.ofList_eq_sequence, sequence_stmtSteps_eq_runAll]
  exact leads_stmts rules s.stmts b w

end Skirmish.Script
