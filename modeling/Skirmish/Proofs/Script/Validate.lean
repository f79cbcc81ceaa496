import Skirmish.Skill.Cast

/-!
# The checks of a cast

A cast is checked in a fixed order, and the first check that fails is told (`Skill.validate_eq`).
Whether the caster can cast at all, the seal, the cooldown and the cost come first; the target and
its distance come last and have errors of their own (`Skill.checkAim_error`).
-/

namespace Skirmish

/-- The errors that are about a target and its distance. -/
def CastError.isAim : CastError → Bool
  | invalidTarget _ | targetNotFound _ | outOfRange .. => true
  | casterNotFound _ | cannotAct _ | sealed .. | onCooldown .. | insufficientMp .. => false

namespace Skill

variable {s : Skill} {w : World} {caster : String} {target : CastTarget} {unit : Bag}

/-- Checks the target and its distance. -/
def checkAim (s : Skill) (w : World) (caster : String) (unit : Bag) (target : CastTarget) :
    Except CastError Unit := do
  match ← targetPlace s.declared.targeting w caster unit.team target with
  | some p => checkRange s.declared unit.position p
  | none => pure ()

/-- The first turn at which a unit can cast a skill again. -/
def readyAt (s : Skill) (unit : Bag) : UInt64 :=
  Saturating.toUInt64 (unit.int (Stat.cooldownUntil s.name))

theorem validate_of_none (hunit : w.unit? caster = none) (target : CastTarget) :
    s.validate w caster target = .error (.casterNotFound caster) := by
  rw [validate, hunit]
  rfl

/-- The checks of a cast by a unit that is there, in their order. -/
theorem validate_eq (hunit : w.unit? caster = some unit) (target : CastTarget) :
    s.validate w caster target =
      if !isFree unit then .error (.cannotAct caster)
      else if w.turn < Saturating.toUInt64 s.declared.sealedUntil then
        .error (.sealed (Saturating.toUInt64 s.declared.sealedUntil) w.turn)
      else if w.turn < s.readyAt unit then .error (.onCooldown (s.readyAt unit) w.turn)
      else if unit.int Stat.mp < s.declared.mpCost then
        .error (.insufficientMp s.declared.mpCost (unit.int Stat.mp))
      else s.checkAim w caster unit target := by
  rw [validate, hunit]
  rfl

/-- A cast that succeeds has passed the checks and comes to its effect. -/
theorem cast_eq_ok {rules : Rules} {o : Outcome} (h : s.cast rules w caster target = .ok o) :
    s.validate w caster target = .ok () ∧ o = s.effect caster target rules w := by
  rw [cast] at h
  cases hvalid : s.validate w caster target with
  | error e =>
    rw [hvalid] at h
    cases h
  | ok _ =>
    rw [hvalid] at h
    cases h
    exact ⟨rfl, rfl⟩

/-! ## The aim -/

variable {e : CastError}

theorem unitTarget_error {mode : Targeting} {team id : String}
    (h : unitTarget mode w caster team id = .error e) : e.isAim = true := by
  rw [unitTarget] at h
  split at h
  · cases h
    rfl
  · split at h
    · cases h
      rfl
    · split at h <;> cases h
      rfl

theorem targetPlace_error {mode : Targeting} {team : String}
    (h : targetPlace mode w caster team target = .error e) : e.isAim = true := by
  unfold targetPlace at h
  split at h
  all_goals first
    | exact unitTarget_error h
    | (cases h; rfl)
    | cases h
    | (split at h <;> cases h; rfl)

theorem checkRange_error {m : SkillMeta} {start goal : Coord}
    (h : checkRange m start goal = .error e) : e.isAim = true := by
  unfold checkRange at h
  dsimp only at h
  split at h <;> cases h
  rfl

theorem checkAim_error (h : s.checkAim w caster unit target = .error e) : e.isAim = true := by
  rw [checkAim] at h
  cases hplace : targetPlace s.declared.targeting w caster unit.team target with
  | error e' =>
    rw [hplace] at h
    cases h
    exact targetPlace_error hplace
  | ok place? =>
    rw [hplace] at h
    cases place? with
    | none => cases h
    | some p => exact checkRange_error h

end Skill

end Skirmish
