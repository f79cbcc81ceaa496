import Skirmish.Proofs.Number.Order
import Skirmish.Proofs.Script.Validate
import Skirmish.Proofs.State.Location

/-!
# What an allowed cast has shown

A cast is allowed exactly if its caster is able to cast the skill and the skill takes the target
(`Skill.validate_eq_ok_iff`). A place has to lie on the grid for the kinds of targets that ask for
a place; a skill that may be aimed at anything takes every place in reach
(`Skill.validate_off_grid`).
-/

namespace Skirmish

theorem Saturating.toUInt64_le_iff (n : Int64) (t : UInt64) :
    toUInt64 n ≤ t ↔ n.toInt ≤ t.toNat := by
  have hlt : n.toInt < 2 ^ 63 := n.toInt_lt
  have hnat : (toUInt64 n).toNat = n.toInt.toNat := by
    rw [toUInt64, Nat.toUInt64, UInt64.toNat_ofNat', Nat.mod_eq_of_lt (by omega)]
  rw [UInt64.le_iff_toNat_le, hnat]
  omega

/-- Whether the distance of two places is between those that a skill allows. -/
def SkillMeta.Reaches (m : SkillMeta) (start goal : Coord) : Prop :=
  Number.ofWord m.minRange ≤ m.metric.distance start goal ∧
    m.metric.distance start goal ≤ Number.ofWord (m.range.getD Int64.maxValue)

/-- Whether a unit is on the side that a kind of targets asks for. -/
def Targeting.Sides (mode : Targeting) (caster team id : String) (u : Bag) : Prop :=
  match mode with
  | .self => id = caster
  | .enemies => u.team ≠ team
  | .allies => u.team = team ∧ id ≠ caster
  | .tile => False
  | .any | .point => True

theorem Targeting.sides_iff {mode : Targeting} (hself : mode ≠ .self) (htile : mode ≠ .tile)
    (caster team id : String) (u : Bag) :
    mode.Sides caster team id u ↔ ¬ (mode = .enemies ∧ u.team = team) ∧
      ¬ (mode = .allies ∧ (u.team ≠ team ∨ id = caster)) := by
  cases mode with
  | self => exact absurd rfl hself
  | tile => exact absurd rfl htile
  | allies => simp [Sides]
  | _ => simp [Sides]

namespace Skill

variable {s : Skill} {w : World} {caster : String} {target : CastTarget} {unit : Bag}

/-- Whether a unit is able to cast a skill, whatever the target. -/
structure CanCast (s : Skill) (w : World) (unit : Bag) : Prop where
  alive : 0 < unit.hp
  canAct : unit.canAct = true
  voiced : unit.isSilenced = false
  unsealed : s.declared.sealedUntil.toInt ≤ w.turn.toNat
  rested : (unit.int (Stat.cooldownUntil s.name)).toInt ≤ w.turn.toNat
  paid : s.declared.mpCost ≤ unit.int Stat.mp

/-- Whether a target is one that a skill takes from a unit. -/
def Takes (m : SkillMeta) (w : World) (caster : String) (unit : Bag) : CastTarget → Prop
  | .none => m.targeting = .self ∨ m.targeting = .any
  | .point p =>
    (m.targeting.isGround ∧ w.inBounds p ∨ m.targeting = .any) ∧ m.Reaches unit.position p
  | .unit id => ∃ u, w.unit? id = some u ∧ m.targeting.Sides caster unit.team id u ∧
    (m.targeting ≠ .point → m.targeting ≠ .self → 0 < u.hp ∧ u.isUntargetable = false) ∧
    (m.targeting ≠ .self → m.Reaches unit.position u.position)

theorem isFree_iff : isFree unit ↔
    0 < unit.hp ∧ unit.canAct = true ∧ unit.isSilenced = false := by
  simp [isFree, Bag.isAlive, and_assoc]

/-- Distances are numbers, so one that is not outside of the range is inside. -/
theorem checkRange_eq_ok_iff {m : SkillMeta} {start goal : Coord} :
    checkRange m start goal = .ok () ↔ m.Reaches start goal := by
  have hdistance := m.metric.isNaN_distance start goal
  have hword (n : Int64) : (Number.ofWord n).isNaN = false := Number.isNaN_ofInt n.toInt
  rw [SkillMeta.Reaches, ← not_iff_not, not_and_or,
    Number.not_le_iff_lt (hword _) hdistance, Number.not_le_iff_lt hdistance (hword _), or_comm]
  unfold checkRange
  dsimp only
  split
  · next h => exact iff_of_true nofun h
  · next h => exact iff_of_false (not_not_intro rfl) h

/-- Aiming at a unit as a unit, for the kinds of targets that do. -/
theorem unitTarget_eq_ok_iff {mode : Targeting} {team id : String} {place? : Option Coord}
    (hself : mode ≠ .self) (htile : mode ≠ .tile) :
    unitTarget mode w caster team id = .ok place? ↔
      ∃ u, w.unit? id = some u ∧ mode.Sides caster team id u ∧
        (0 < u.hp ∧ u.isUntargetable = false) ∧ some u.position = place? := by
  unfold unitTarget
  cases w.unit? id with
  | none => exact iff_of_false nofun nofun
  | some u =>
    simp only [Option.some.injEq, exists_eq_left', Targeting.sides_iff hself htile]
    by_cases hthere : 0 < u.hp ∧ u.isUntargetable = false
    · have hkept : (some u).filter (fun u => u.isAlive && !u.isUntargetable) = some u := by
        simp [Bag.isAlive, hthere]
      rw [hkept]
      dsimp only
      split
      · next h => exact iff_of_false nofun fun hsides => hsides.1.1 h
      · next henemy =>
        split
        · next h => exact iff_of_false nofun fun hsides => hsides.1.2 h
        · next hally =>
          exact ⟨fun h => ⟨⟨henemy, hally⟩, hthere, Except.ok.inj h⟩,
            fun h => congrArg Except.ok h.2.2⟩
    · have hgone : (some u).filter (fun u => u.isAlive && !u.isUntargetable) = none := by
        simpa [Bag.isAlive] using hthere
      rw [hgone]
      exact iff_of_false nofun fun h => hthere h.2.1

theorem targetPlace_none_iff {mode : Targeting} {team : String} {place? : Option Coord} :
    targetPlace mode w caster team .none = .ok place? ↔
      (mode = .self ∨ mode = .any) ∧ none = place? := by
  cases mode with
  | self | any => exact ⟨fun h => ⟨by decide, Except.ok.inj h⟩, fun h => congrArg Except.ok h.2⟩
  | _ => exact iff_of_false nofun (by simp)

theorem targetPlace_point_iff {mode : Targeting} {team : String} {p : Coord}
    {place? : Option Coord} : targetPlace mode w caster team (.point p) = .ok place? ↔
      (mode.isGround ∧ w.inBounds p ∨ mode = .any) ∧ some p = place? := by
  cases mode with
  | any => exact ⟨fun h => ⟨.inr rfl, Except.ok.inj h⟩, fun h => congrArg Except.ok h.2⟩
  | tile | point =>
    rw [targetPlace]
    split
    · next h =>
      exact ⟨fun hok => ⟨.inl ⟨rfl, h⟩, Except.ok.inj hok⟩, fun hok => congrArg Except.ok hok.2⟩
    · next h => exact iff_of_false nofun (by simp [h])
  | _ => exact iff_of_false nofun (by simp [Targeting.isGround])

theorem targetPlace_unit_iff {mode : Targeting} {team id : String} {place? : Option Coord}
    (hunit : w.unit? caster = some unit) :
    targetPlace mode w caster team (.unit id) = .ok place? ↔
      ∃ u, w.unit? id = some u ∧ mode.Sides caster team id u ∧
        (mode ≠ .point → mode ≠ .self → 0 < u.hp ∧ u.isUntargetable = false) ∧
        (if mode = .self then none else some u.position) = place? := by
  cases mode with
  | self =>
    rw [targetPlace]
    split
    · next h =>
      subst h
      exact ⟨fun hok => ⟨unit, hunit, rfl, nofun, Except.ok.inj hok⟩,
        fun ⟨_, _, _, _, hplace⟩ => congrArg Except.ok hplace⟩
    · next h => exact iff_of_false nofun fun ⟨_, _, hself, _⟩ => h hself
  | tile => exact iff_of_false nofun fun ⟨_, _, hside, _⟩ => hside
  | point =>
    rw [targetPlace]
    cases w.unit? id with
    | none => exact iff_of_false nofun nofun
    | some u =>
      exact ⟨fun hok => ⟨u, rfl, trivial, fun h => absurd rfl h, Except.ok.inj hok⟩,
        fun ⟨_, hu, _, _, hplace⟩ => congrArg Except.ok (Option.some.inj hu ▸ hplace)⟩
  | any | enemies | allies =>
    refine (unitTarget_eq_ok_iff (by decide) (by decide)).trans ?_
    simp

/-- The place whose distance counts is in reach, if there is one. -/
theorem checkAim_eq_ok_iff_reaches : s.checkAim w caster unit target = .ok () ↔
    ∃ place?, targetPlace s.declared.targeting w caster unit.team target = .ok place? ∧
      ∀ p ∈ place?, s.declared.Reaches unit.position p := by
  unfold checkAim
  cases targetPlace s.declared.targeting w caster unit.team target with
  | error e => exact iff_of_false nofun nofun
  | ok place? =>
    cases place? with
    | none => exact iff_of_true rfl ⟨none, rfl, nofun⟩
    | some p =>
      refine checkRange_eq_ok_iff.trans ⟨fun h => ⟨some p, rfl, ?_⟩, ?_⟩
      · rintro _ ⟨⟩
        exact h
      · rintro ⟨_, ⟨⟩, h⟩
        exact h p rfl

theorem checkAim_eq_ok_iff (hunit : w.unit? caster = some unit) :
    s.checkAim w caster unit target = .ok () ↔ Takes s.declared w caster unit target := by
  rw [checkAim_eq_ok_iff_reaches]
  cases target with
  | none => simp [targetPlace_none_iff, Takes]
  | point p => simp [targetPlace_point_iff, Takes]
  | unit id =>
    simp only [targetPlace_unit_iff hunit, Takes]
    constructor
    · rintro ⟨_, ⟨u, hu, hside, hthere, rfl⟩, hreach⟩
      exact ⟨u, hu, hside, hthere, fun hself => hreach _ (if_neg hself)⟩
    · rintro ⟨u, hu, hside, hthere, hreach⟩
      refine ⟨_, ⟨u, hu, hside, hthere, rfl⟩, fun p hp => ?_⟩
      split at hp
      · cases hp
      · next hself =>
        cases hp
        exact hreach hself

theorem ite_error_eq_ok_iff {ε α : Type} {c : Prop} [Decidable c] {e : ε} {x : Except ε α} {a : α} :
    (if c then .error e else x) = .ok a ↔ ¬ c ∧ x = .ok a := by
  split <;> simp [*]

/-- A cast is allowed exactly if the caster can cast the skill and the skill takes the target. -/
theorem validate_eq_ok_iff : s.validate w caster target = .ok () ↔
    ∃ unit, w.unit? caster = some unit ∧ s.CanCast w unit ∧
      Takes s.declared w caster unit target := by
  cases hunit : w.unit? caster with
  | none =>
    rw [validate_of_none hunit]
    exact iff_of_false nofun nofun
  | some unit =>
    simp only [Option.some.injEq, exists_eq_left']
    rw [validate_eq hunit, ← checkAim_eq_ok_iff hunit]
    simp only [ite_error_eq_ok_iff]
    simp only [Bool.not_eq_true', Bool.not_eq_false, isFree_iff, UInt64.not_lt, Int64.not_lt, readyAt,
      Saturating.toUInt64_le_iff]
    constructor
    · rintro ⟨⟨halive, hact, hvoice⟩, hseal, hready, hpaid, haim⟩
      exact ⟨⟨halive, hact, hvoice, hseal, hready, hpaid⟩, haim⟩
    · rintro ⟨⟨halive, hact, hvoice, hseal, hready, hpaid⟩, haim⟩
      exact ⟨⟨halive, hact, hvoice⟩, hseal, hready, hpaid, haim⟩

/-- A skill in whose range everything may be aimed at. -/
def blast : Skill :=
  ofScript "blast" { metas := [⟨.range 30, default⟩] }

/-- A place beyond the grid is taken by a skill that may be aimed at anything. -/
theorem validate_off_grid :
    blast.validate arena "ann" (.point ⟨20, 0⟩) = .ok () ∧
      arena.inBounds ⟨20, 0⟩ = false := by
  decide +kernel

end Skill

end Skirmish
