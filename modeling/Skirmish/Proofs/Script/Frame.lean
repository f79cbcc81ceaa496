import Skirmish.Proofs.Footprint.Action
import Skirmish.Skill

/-!
# The frame of scripts

Whatever its statements, a script is made of actions and of rolls. So what every roll and every
action of a script keeps, the script keeps (`Script.keeps_step`): the proof goes along the
translation of statements to steps, once for all that may be kept (`World.Lasting`).

Every script leaves the clock, the seed, the grid and the units of the world as they are, keeps
health, and never takes back a roll (`World.Onward`).
-/

namespace Skirmish

/-- A relation between a world and a later one that goes on and that rolls do not end. -/
structure World.Lasting (R : World → World → Prop) : Prop where
  refl : ∀ w, R w w
  trans : ∀ {u v w}, R u v → R v w → R u w
  roll : ∀ w : World, R w { w with rolls := Saturating.next w.rolls }

theorem World.Lasting.fold {R : World → World → Prop} (hR : World.Lasting R) {α : Type}
    {step : α → World → Outcome} {l : List α} (h : ∀ a ∈ l, ∀ w, R w (step a w).world)
    (w : World) : R w (Outcome.fold step l w).world := by
  induction l generalizing w with
  | nil => exact hR.refl w
  | cons a l ih =>
    exact hR.trans (h a List.mem_cons_self w)
      (ih (fun b hb => h b (List.mem_cons_of_mem a hb)) (step a w).world)

namespace Script

/-! ## Statements that have none inside them -/

mutual

/-- The statements inside a statement that have none inside them; a statement of this kind itself. -/
def stmtLeaves : Stmt → List Stmt
  | .branch _ yes no | .chance _ yes no => blockLeaves yes ++ elseLeaves no
  | .repeat _ body | .parallel body | .forEach _ body => blockLeaves body
  | .deal kind amount who => [.deal kind amount who]
  | .heal amount who => [.heal amount who]
  | .move unit goal => [.move unit goal]
  | .dash who steps => [.dash who steps]
  | .line kind amount who length radius => [.line kind amount who length radius]
  | .setVar scope name value => [.setVar scope name value]
  | .addVar scope name delta => [.addVar scope name delta]
  | .removeVar scope name => [.removeVar scope name]
  | .addTag scope tag => [.addTag scope tag]
  | .removeTag scope tag => [.removeTag scope tag]
  | .consumeMp amount => [.consumeMp amount]

def blockLeaves : Block → List Stmt
  | .mk _ _ stmts => stmtsLeaves stmts

/-- Those of the block behind `else`. -/
def elseLeaves : Option Block → List Stmt
  | some b => blockLeaves b
  | none => []

def stmtsLeaves : List (Located Stmt) → List Stmt
  | [] => []
  | ⟨stmt, _⟩ :: rest => stmtLeaves stmt ++ stmtsLeaves rest

end

/-! ## Steps that keep a relation -/

/-- Every action that a statement is in some world keeps a relation. -/
def Stmt.Keeps (R : World → World → Prop) (s : Stmt) : Prop :=
  ∀ rules b w a, s.action? w b = some a → R w (a.apply rules w).world

def Step.Keeps (R : World → World → Prop) (step : Step) : Prop :=
  ∀ rules b w, R w (step rules b w).world

variable {R : World → World → Prop}

section

variable (hR : World.Lasting R)

include hR

theorem keeps_rollChance (w : World) (percent : Float) : R w (rollChance w percent).1 := by
  rw [rollChance]
  split
  · exact hR.refl w
  · split
    · exact hR.refl w
    · exact hR.roll w

/-- Only the chances of a condition touch the world. -/
theorem keeps_test (b : Bindings) (c : Cond) (w : World) : R w (c.test b w).1 := by
  induction c generalizing w with
  | chance percent => exact keeps_rollChance hR w _
  | not c ih => exact ih w
  | and lhs rhs ihl ihr =>
    rw [Cond.test]
    dsimp only
    split
    · exact hR.trans (ihl w) (ihr _)
    · exact ihl w
  | or lhs rhs ihl ihr =>
    rw [Cond.test]
    dsimp only
    split
    · exact ihl w
    · exact hR.trans (ihl w) (ihr _)
  | _ => exact hR.refl w

namespace Step.Keeps

theorem sequence {steps : List Step} (h : ∀ step ∈ steps, step.Keeps R) :
    (Step.sequence steps).Keeps R :=
  fun rules b w => hR.fold (fun step hstep w => h step hstep rules b w) w

theorem ofList {steps : List Step} (h : ∀ step ∈ steps, step.Keeps R) :
    (Step.ofList steps).Keeps R := by
  match steps with
  | [] => exact fun _ _ w => hR.refl w
  | [step] => exact h step (List.mem_singleton_self step)
  | _ :: _ :: _ => exact sequence hR h

theorem ofAction {s : Stmt} (h : s.Keeps R) : (Step.ofAction fun w b => s.action? w b).Keeps R := by
  intro rules b w
  rw [Step.ofAction]
  split
  · next a ha => exact h rules b w a ha
  · exact hR.refl w

theorem branch {test : Bindings → World → World × Bool} (htest : ∀ b w, R w (test b w).1)
    {yes : Step} (hyes : yes.Keeps R) {no : Option Step} (hno : ∀ step ∈ no, step.Keeps R) :
    (Step.branch test yes no).Keeps R := by
  intro rules b w
  have htested := htest b w
  rw [Step.branch]
  dsimp only
  split
  · exact hR.trans htested (hyes rules b _)
  · split
    · next step => exact hR.trans htested (hno step rfl rules b _)
    · exact htested

theorem repeated (times : Expr) {body : Step} (h : body.Keeps R) :
    (Step.repeated times body).Keeps R := by
  intro rules b w
  refine sequence hR (fun step hstep => ?_) rules b w
  rw [List.eq_of_mem_replicate hstep]
  exact h

theorem forEach (selector : Selector) {body : Step} (h : body.Keeps R) :
    (Step.forEach selector body).Keeps R :=
  fun rules _ w => hR.fold (fun _ _ w => h rules _ w) w

end Step.Keeps

end

/-! ## Statements -/

mutual

theorem keeps_stmtStep (hR : World.Lasting R) : (s : Stmt) →
    (∀ leaf ∈ stmtLeaves s, leaf.Keeps R) → ∀ step ∈ stmtStep? s, step.Keeps R
  | .branch cond yes no => by
    intro h
    rw [stmtLeaves, List.forall_mem_append] at h
    rw [stmtStep?]
    rintro _ ⟨⟩
    exact .branch hR (fun b => keeps_test hR b cond) (keeps_blockStep hR yes h.1)
      (keeps_elseStep hR no h.2)
  | .chance percent yes no => by
    intro h
    rw [stmtLeaves, List.forall_mem_append] at h
    have hyes := keeps_blockStep hR yes h.1
    have hno := keeps_elseStep hR no h.2
    have hrolled : (Step.branch (fun b w => rollChance w (percent.eval w b).asFloat)
        (blockStep yes) (elseStep? no)).Keeps R :=
      .branch hR (fun _ w => keeps_rollChance hR w _) hyes hno
    rw [stmtStep?]
    -- A constant may decide the chance at once; if none does, it is rolled for.
    split
    · split
      · exact hno
      · split
        · rintro _ ⟨⟩
          exact hyes
        · rintro _ ⟨⟩
          exact hrolled
    · rintro _ ⟨⟩
      exact hrolled
  | .repeat times body => by
    intro h
    rw [stmtLeaves] at h
    rw [stmtStep?]
    split
    · rintro _ ⟨⟩
    · rintro _ ⟨⟩
      exact .repeated hR times (keeps_blockStep hR body h)
  | .parallel (.mk _ _ stmts) => by
    intro h
    rw [stmtLeaves, blockLeaves] at h
    rw [stmtStep?]
    split
    · rintro _ ⟨⟩
    · rintro _ ⟨⟩
      exact .ofList hR (keeps_stmtSteps hR stmts h)
  | .forEach selector body => by
    intro h
    rw [stmtLeaves] at h
    rw [stmtStep?]
    rintro _ ⟨⟩
    exact .forEach hR selector.node (keeps_blockStep hR body h)
  | .deal .. | .heal .. | .move .. | .dash .. | .line .. | .setVar .. | .addVar .. | .removeVar ..
  | .addTag .. | .removeTag .. | .consumeMp _ => by
    intro h
    rw [stmtLeaves] at h
    simp only [stmtStep?]
    rintro _ ⟨⟩
    exact .ofAction hR (h _ (List.mem_singleton_self _))

theorem keeps_blockStep (hR : World.Lasting R) : (b : Block) →
    (∀ leaf ∈ blockLeaves b, leaf.Keeps R) → (blockStep b).Keeps R
  | .mk _ _ stmts => by
    intro h
    rw [blockLeaves] at h
    rw [blockStep]
    exact .ofList hR (keeps_stmtSteps hR stmts h)

theorem keeps_elseStep (hR : World.Lasting R) : (no : Option Block) →
    (∀ leaf ∈ elseLeaves no, leaf.Keeps R) → ∀ step ∈ elseStep? no, step.Keeps R
  | none => by
    intro _
    rw [elseStep?]
    rintro _ ⟨⟩
  | some b => by
    intro h
    rw [elseLeaves] at h
    rw [elseStep?]
    rintro _ ⟨⟩
    exact keeps_blockStep hR b h

theorem keeps_stmtSteps (hR : World.Lasting R) : (l : List (Located Stmt)) →
    (∀ leaf ∈ stmtsLeaves l, leaf.Keeps R) → ∀ step ∈ stmtSteps l, step.Keeps R
  | [] => by
    intro _
    rw [stmtSteps]
    exact fun _ h => absurd h List.not_mem_nil
  | ⟨stmt, _⟩ :: rest => by
    intro h
    rw [stmtsLeaves, List.forall_mem_append] at h
    have hstmt := keeps_stmtStep hR stmt h.1
    have hrest := keeps_stmtSteps hR rest h.2
    rw [stmtSteps]
    split
    · next step hstep =>
      exact List.forall_mem_cons.2 ⟨hstmt step hstep, hrest⟩
    · exact hrest

end

/-- What all actions of a script keep, the script keeps. -/
theorem keeps_step (hR : World.Lasting R) {s : Script}
    (h : ∀ leaf ∈ stmtsLeaves s.stmts, leaf.Keeps R) : s.step.Keeps R :=
  .ofList hR (keeps_stmtSteps hR s.stmts h)

end Script

/-! ## What every script keeps -/

/-- Worlds with the same turn, seed, size of the grid and unit ids, the second one after more
rolls. -/
structure World.Onward (v w : World) : Prop extends v.Alike w where
  rolls_le : v.rolls ≤ w.rolls
  hasHealth : v.HasHealth → w.HasHealth

namespace World.Onward

variable {u v w : World}

theorem refl (w : World) : w.Onward w := ⟨.refl w, UInt64.le_refl w.rolls, id⟩

theorem trans (h : u.Onward v) (k : v.Onward w) : u.Onward w :=
  ⟨h.toAlike.trans k.toAlike, UInt64.le_trans h.rolls_le k.rolls_le, k.hasHealth ∘ h.hasHealth⟩

theorem of_sameFrame (h : v.SameFrame w) (hhealth : v.HasHealth → w.HasHealth) : v.Onward w :=
  ⟨h.toAlike, h.rolls ▸ UInt64.le_refl v.rolls, hhealth⟩

theorem update (w : World) (f : Bag → Bag) (p : Place) : w.Onward (w.update f p) :=
  of_sameFrame (World.sameFrame_update w f p) fun h => h.update f p

theorem apply (rules : Rules) (a : Action) (w : World) : w.Onward (a.apply rules w).world :=
  of_sameFrame (Action.sameFrame_apply rules a w) Action.hasHealth_apply

theorem lasting : World.Lasting World.Onward where
  refl := refl
  trans := trans
  roll w := ⟨⟨rfl, rfl, rfl, rfl, rfl⟩, Saturating.le_next w.rolls, id⟩

end World.Onward

/-- Whatever is written in a script, its step leads onward. -/
theorem Script.onward_step (s : Script) : s.step.Keeps World.Onward :=
  keeps_step World.Onward.lasting fun _ _ rules _ w a _ => .apply rules a w

/-- A cast starts the cooldown of its skill, which is a change of the caster, and does what the
script says. -/
theorem Skill.onward_effect (name : String) (s : Script) (caster : String) (target : CastTarget)
    (rules : Rules) (w : World) :
    w.Onward ((Skill.ofScript name s).effect caster target rules w).world := by
  have hcooldown : w.Onward ((Skill.ofScript name s).startCooldown caster w) := by
    rw [startCooldown]
    split
    · exact .update w _ (.unit caster)
    · exact .refl w
  exact hcooldown.trans (Script.onward_step s rules _ _)

end Skirmish
