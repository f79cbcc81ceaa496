import Skirmish.Proofs.Run.Invariant
import Skirmish.Proofs.Threshold.Upkeep

/-!
# What a run records

The history of a run is its world together with all that its commands record, the upkeep at the end
of a turn included. A threshold triggers once in a history at most, whatever the actions do to
health and to the threshold itself (`Command.thresholdTriggered_once`).
-/

namespace Skirmish.Command

/-- What a command leads to, and what is recorded on the way. -/
def outcome (rules : Rules) (c : Command) (w : World) : Outcome :=
  match c with
  | act a => a.apply rules w
  | cast skill script caster target =>
    (Skill.ofScript skill script).effect caster target rules w
  | endTurn => (Upkeep.run rules w).outcome

/-- Commands one after the other, each under its own rules, with all that they record. -/
def history (cs : List (Rules × Command)) (w : World) : Outcome :=
  Outcome.fold (fun c w => c.2.outcome c.1 w) cs w

def casts : Command → Bool
  | cast .. => true
  | act _ | endTurn => false

theorem world_outcome (rules : Rules) (c : Command) (w : World) :
    (c.outcome rules w).world = c.perform rules w := by
  cases c <;> rfl

theorem world_history (cs : List (Rules × Command)) (w : World) :
    (history cs w).world = run cs w := by
  induction cs generalizing w with
  | nil => rfl
  | cons c cs ih =>
    have hcons : (history (c :: cs) w).world = (history cs (c.2.outcome c.1 w).world).world := rfl
    rw [hcons, world_outcome, ih, run_cons]

variable {id skill : String}

theorem outcome_oneShot (rules : Rules) {c : Command} (hplain : c.casts = false)
    (hkept : c ≠ .act (.removeTag (.unit id) (Stat.thresholdFired skill))) (w : World) :
    OneShot id skill w (c.outcome rules w) := by
  cases c with
  | act a => exact Action.apply_oneShot rules (fun ha => hkept (congrArg act ha)) w
  | cast => cases hplain
  | endTurn => exact Upkeep.run_oneShot rules w

theorem history_oneShot {cs : List (Rules × Command)} (hplain : ∀ c ∈ cs, c.2.casts = false)
    (hkept : ∀ c ∈ cs, c.2 ≠ .act (.removeTag (.unit id) (Stat.thresholdFired skill))) (w : World) :
    OneShot id skill w (history cs w) :=
  .fold (fun c hc w => outcome_oneShot c.1 (hplain c hc) (hkept c hc) w) w

/-- While actions and ends of turns follow one another and no action removes the mark, a threshold
triggers at most once for a unit and a skill, not at all if it is marked to begin with, and once it
has triggered the unit bears the mark for as long as it is there. -/
theorem thresholdTriggered_once {cs : List (Rules × Command)}
    (hplain : ∀ c ∈ cs, c.2.casts = false)
    (hkept : ∀ c ∈ cs, c.2 ≠ .act (.removeTag (.unit id) (Stat.thresholdFired skill))) (w : World) :
    let triggered := TraceEvent.thresholdTriggered id skill
    (history cs w).trace.count triggered ≤ 1 ∧
    (∀ unit, w.unit? id = some unit → unit.hasTag (Stat.thresholdFired skill) = true →
      triggered ∉ (history cs w).trace) ∧
    ∀ before after, cs = before ++ after → triggered ∈ (history before w).trace →
      ∀ unit, (run cs w).unit? id = some unit →
        unit.hasTag (Stat.thresholdFired skill) = true := by
  intro triggered
  have hcount : (history cs w).trace.count triggered + (w.isSpent id skill).toNat ≤
      ((history cs w).world.isSpent id skill).toNat := history_oneShot hplain hkept w
  have hafter := Bool.toNat_le ((history cs w).world.isSpent id skill)
  refine ⟨by omega, ?_, ?_⟩
  · intro unit hunit hmarked
    have hspent : w.isSpent id skill = true := by
      rw [World.isSpent, hunit, Option.all_some, hmarked]
    rw [hspent, Bool.toNat_true] at hcount
    exact List.count_eq_zero.1 (by omega)
  · rintro before after rfl hearlier unit hunit
    have hmem : triggered ∈ (history (before ++ after) w).trace := by
      rw [history, Outcome.fold_append]
      exact List.mem_append_left _ hearlier
    have hpos := List.count_pos_iff.2 hmem
    have hspent : (history (before ++ after) w).world.isSpent id skill = true := by
      rw [← Bool.toNat_eq_one]
      omega
    rw [World.isSpent, world_history, hunit, Option.all_some] at hspent
    exact hspent

/-- A unit that is healed over its threshold and struck below it again. -/
theorem thresholdTriggered_once_bob :
    let w := Edit.run
      [.set (.unit "bob") Stat.maxHp (.int 20), .set (.unit "bob") Stat.hpThreshold (.float 0.5),
        .set (.unit "bob") Stat.thresholdSkill (.text "rage")] arena
    let cs : List (Rules × Command) :=
      [({}, .act (.damage "bob" 8)), ({}, .act (.heal "bob" 9)), ({}, .endTurn),
        ({}, .act (.damage "bob" 9))]
    let triggered := TraceEvent.thresholdTriggered "bob" "rage"
    (∀ c ∈ cs, c.2.casts = false) ∧
    (∀ c ∈ cs, c.2 ≠ .act (.removeTag (.unit "bob") (Stat.thresholdFired "rage"))) ∧
    triggered ∈ (history cs w).trace ∧ (history cs w).trace.count triggered ≤ 1 ∧
    ∀ unit, (run cs w).unit? "bob" = some unit →
      unit.hasTag (Stat.thresholdFired "rage") = true := by
  intro w cs triggered
  have hplain : ∀ c ∈ cs, c.2.casts = false := by decide
  have hkept : ∀ c ∈ cs, c.2 ≠ .act (.removeTag (.unit "bob") (Stat.thresholdFired "rage")) := by
    simp [cs]
  have hmem : triggered ∈ (history cs w).trace := by decide
  obtain ⟨honce, -, hmarked⟩ := thresholdTriggered_once hplain hkept w
  exact ⟨hplain, hkept, hmem, honce, hmarked cs [] (List.append_nil cs).symm hmem⟩

end Skirmish.Command
