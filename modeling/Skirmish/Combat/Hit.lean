import Skirmish.Rules
import Skirmish.Trace

/-!
# Damage and healing

A hit is soaked up by the shield, then taken from health; health never falls below zero, and an
undying unit is held at a floor. What a hit took is recorded. A hit that leaves its target alive
heals it again if it has such a status, and may trigger the target's threshold, once for each
skill. Healing stops at the greatest health and never revives.

While a global toggle is active, damage heals or healing hurts instead.
-/

namespace Skirmish.Combat

/-- What a single hit or heal did. -/
structure Report where
  target : String
  /-- Health taken, or restored. -/
  amount : Int64 := 0
  /-- Damage soaked up by the shield. -/
  absorbed : Int64 := 0
  flags : HitFlags := {}
  deriving DecidableEq

/-- A report and the outcome it belongs to. -/
structure Resolved where
  report : Report
  outcome : Outcome

/-- Nothing changes, and only flags are reported. -/
def Resolved.unchanged (w : World) (target : String) (flags : HitFlags) : Resolved :=
  ⟨{ target, flags }, ⟨w, []⟩⟩

/-- Heals without regard to the toggles. -/
def healPlain (w : World) (target : String) (amount : Int64) (flags : HitFlags) : Resolved :=
  match w.unit? target with
  | none => .unchanged w target flags
  | some unit =>
    if amount ≤ 0 ∨ !unit.isAlive then .unchanged w target flags
    else if unit.isActive Stat.noHealTurns then
      .unchanged w target { flags with blocked := true }
    else
      let before := unit.hp
      let full := Saturating.add before amount
      let after :=
        if unit.contains Stat.maxHp then min full (max unit.maxHp before) else full
      let restored := after - before
      { report := { target, amount := restored, flags }
        outcome :=
          { world := w.updateUnit target (·.set Stat.hp (.int after))
            trace := [.healed target restored flags] } }

/-- Whether health went from above a fraction of the greatest health to that fraction or below. -/
def crossed (before after maxHp : Int64) (fraction : Float) : Bool :=
  if fraction ≤ 0.0 ∨ maxHp ≤ 0 then false
  else
    let line := Number.ofWord maxHp * fraction
    line < Number.ofWord before && Number.ofWord after ≤ line

/-- The skill that a unit triggers when its health changes, unless it has triggered it before. -/
def triggered? (unit : Bag) (before after : Int64) : Option String :=
  let skill := unit.text Stat.thresholdSkill
  if skill = "" ∨ unit.hasTag (Stat.thresholdFired skill) then none
  else if crossed before after unit.maxHp (unit.float Stat.hpThreshold) then some skill
  else none

/-- What a hit leaves of health, and whether the floor of an undying unit held it. -/
def healthLeft (rules : Rules) (unit : Bag) (loss : Int64) : Int64 × Bool :=
  let before := unit.hp
  let after := Saturating.sub before loss
  let floor := min rules.undyingFloor before
  let held := unit.isActive Stat.undyingTurns && after < 1 && after < floor
  (max (if held then floor else after) 0, held)

/-- The heal that follows a hit its target survived. -/
def healAfterHit (w : World) (target : String) (after : Int64) : Outcome :=
  match w.unit? target with
  | none => ⟨w, []⟩
  | some unit =>
    let amount := unit.int Stat.onDamageHeal
    if 0 < after ∧ unit.isActive Stat.onDamageHealTurns ∧ 0 < amount then
      (healPlain w target amount {}).outcome
    else ⟨w, []⟩

/-- Marks and records the threshold that a hit crossed; the flag tells whether it did. -/
def fireThreshold (w : World) (target : String) (before after : Int64) : Outcome × Bool :=
  match (w.unit? target).bind fun unit => triggered? unit before after with
  | none => (⟨w, []⟩, false)
  | some skill =>
    (⟨w.updateUnit target (·.tag (Stat.thresholdFired skill)),
      [.thresholdTriggered target skill]⟩, true)

/-- Takes damage without regard to the toggles. -/
def damagePlain (rules : Rules) (w : World) (target : String) (amount : Int64)
    (flags : HitFlags) : Resolved :=
  match w.unit? target with
  | none => .unchanged w target flags
  | some unit =>
    if amount ≤ 0 then .unchanged w target flags
    else
      let shield := max (unit.int Stat.shield) 0
      let absorbed := min shield amount
      let before := unit.hp
      let (after, held) := healthLeft rules unit (amount - absorbed)
      let dealt := before - after
      let flags :=
        { flags with
          absorbed := flags.absorbed || 0 < absorbed
          undying := flags.undying || held
          lethal := flags.lethal || (0 < before && after == 0) }
      let hurt (unit : Bag) : Bag :=
        let unit := unit.set Stat.hp (.int after)
        if 0 < absorbed then unit.set Stat.shield (.int (shield - absorbed)) else unit
      let struck : Outcome := ⟨w.updateUnit target hurt, [.damaged target dealt flags]⟩
      let healed := struck.andThen fun w => healAfterHit w target after
      let (fired, didFire) := fireThreshold healed.world target before after
      { report :=
          { target, amount := dealt, absorbed
            flags := { flags with threshold := flags.threshold || didFire } }
        outcome := ⟨fired.world, healed.trace ++ fired.trace⟩ }

/-- Whether a global toggle is active. -/
def isReversed (w : World) (counter : String) : Bool := w.global.isActive counter

/-- Damage that has passed mitigation. -/
def routeDamage (rules : Rules) (w : World) (target : String) (amount : Int64)
    (flags : HitFlags) : Resolved :=
  if isReversed w Stat.reverseDamageTurns then
    healPlain w target amount { flags with reversed := true }
  else damagePlain rules w target amount flags

def damage (rules : Rules) (w : World) (target : String) (amount : Int64) : Resolved :=
  routeDamage rules w target amount {}

def heal (rules : Rules) (w : World) (target : String) (amount : Int64) : Resolved :=
  if isReversed w Stat.reverseHealTurns then
    damagePlain rules w target amount { reversed := true }
  else healPlain w target amount {}

end Skirmish.Combat
