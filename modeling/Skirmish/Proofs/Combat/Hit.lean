import Skirmish.Combat.Hit
import Skirmish.Proofs.State.Edit

/-!
# Hits and heals as edits

A heal and a hit change the health and the shield of one unit. What they leave is fixed by that
unit alone: `healedTo?` and `impact` read it off the bag, `outcome_healPlain` and
`outcome_damagePlain` say that the world changes accordingly.
-/

namespace Skirmish.Combat

/-- The health that a heal leads to; none if the heal does nothing. -/
def healedTo? (unit : Bag) (amount : Int64) : Option Int64 :=
  if amount ≤ 0 ∨ !unit.isAlive then none
  else if unit.isActive Stat.noHealTurns then none
  else
    let full := Saturating.add unit.hp amount
    some (if unit.contains Stat.maxHp then min full (max unit.maxHp unit.hp) else full)

theorem outcome_healPlain {w : World} {target : String} {unit : Bag}
    (h : w.unit? target = some unit) (amount : Int64) (flags : HitFlags) :
    (healPlain w target amount flags).outcome =
      match healedTo? unit amount with
      | none => ⟨w, []⟩
      | some after =>
        ⟨(Edit.set (.unit target) Stat.hp (.int after)).apply w,
          [.healed target (after - unit.hp) flags]⟩ := by
  unfold healPlain healedTo?
  simp only [h]
  by_cases hdead : amount ≤ 0 ∨ (!unit.isAlive) = true
  · simp only [if_pos hdead, Resolved.unchanged]
  · by_cases hblock : unit.isActive Stat.noHealTurns = true
    · simp only [if_neg hdead, if_pos hblock, Resolved.unchanged]
    · simp only [if_neg hdead, if_neg hblock]
      rfl

theorem outcome_healPlain_of_none {w : World} {target : String} (h : w.unit? target = none)
    (amount : Int64) (flags : HitFlags) :
    (healPlain w target amount flags).outcome = ⟨w, []⟩ := by
  rw [healPlain, h]
  rfl

/-- What a hit does to its target. -/
structure Impact where
  before : Int64
  after : Int64
  shield : Int64
  absorbed : Int64
  /-- The floor of an undying unit held. -/
  held : Bool

/-- The impact of a hit, read off the unit. -/
def impact (rules : Rules) (unit : Bag) (amount : Int64) : Impact :=
  let shield := max (unit.int Stat.shield) 0
  let absorbed := min shield amount
  let left := healthLeft rules unit (amount - absorbed)
  { before := unit.hp, after := left.1, shield, absorbed, held := left.2 }

namespace Impact

/-- The flags that a hit adds. -/
def flags (i : Impact) (flags : HitFlags) : HitFlags :=
  { flags with
    absorbed := flags.absorbed || 0 < i.absorbed
    undying := flags.undying || i.held
    lethal := flags.lethal || (0 < i.before && i.after == 0) }

def edits (i : Impact) (target : String) : List Edit :=
  .set (.unit target) Stat.hp (.int i.after) ::
    if 0 < i.absorbed then [.set (.unit target) Stat.shield (.int (i.shield - i.absorbed))] else []

/-- The unit as a hit leaves it. -/
def onBag (i : Impact) (unit : Bag) : Bag :=
  let unit := unit.set Stat.hp (.int i.after)
  if 0 < i.absorbed then unit.set Stat.shield (.int (i.shield - i.absorbed)) else unit

/-- What is recorded of a hit. -/
def event (i : Impact) (target : String) (flags : HitFlags) : TraceEvent :=
  .damaged target (i.before - i.after) (i.flags flags)

/-- The hit itself, before what follows it. -/
def strike (i : Impact) (target : String) (flags : HitFlags) (w : World) : Outcome :=
  ⟨Edit.run (i.edits target) w, [.damaged target (i.before - i.after) (i.flags flags)]⟩

theorem run_edits (i : Impact) (target : String) (w : World) :
    Edit.run (i.edits target) w = w.updateUnit target i.onBag := by
  unfold onBag
  by_cases h : 0 < i.absorbed
  · simp only [edits, if_pos h, Edit.run_cons, Edit.run_nil]
    exact Edit.apply_update (.set (.unit target) Stat.shield (.int (i.shield - i.absorbed))) w
      (·.set Stat.hp (.int i.after))
  · simp only [edits, if_neg h, Edit.run_cons, Edit.run_nil]
    rfl

end Impact

/-- A hit is followed by the heal of a unit that survives it, and then by its threshold. -/
theorem outcome_damagePlain {rules : Rules} {w : World} {target : String} {unit : Bag}
    (h : w.unit? target = some unit) {amount : Int64} (hamount : ¬amount ≤ 0) (flags : HitFlags) :
    (damagePlain rules w target amount flags).outcome =
      (((impact rules unit amount).strike target flags w).andThen fun w =>
        healAfterHit w target (impact rules unit amount).after).andThen fun w =>
          (fireThreshold w target unit.hp (impact rules unit amount).after).1 := by
  rw [Impact.strike, Impact.run_edits]
  simp only [damagePlain, h, if_neg hamount]
  rfl

theorem outcome_damagePlain_of_nonpos {amount : Int64} (h : amount ≤ 0) (rules : Rules) (w : World)
    (target : String) (flags : HitFlags) :
    (damagePlain rules w target amount flags).outcome = ⟨w, []⟩ := by
  rw [damagePlain]
  cases w.unit? target with
  | none => rfl
  | some unit => exact congrArg Resolved.outcome (if_pos h)

/-! ## No target -/

section

variable {w : World} {target : String} (h : w.unit? target = none) (rules : Rules) (amount : Int64)

include h

theorem outcome_damagePlain_of_none (flags : HitFlags) :
    (damagePlain rules w target amount flags).outcome = ⟨w, []⟩ := by
  rw [damagePlain, h]
  rfl

theorem outcome_routeDamage_of_none (flags : HitFlags) :
    (routeDamage rules w target amount flags).outcome = ⟨w, []⟩ := by
  rw [routeDamage]
  split
  · exact outcome_healPlain_of_none h amount _
  · exact outcome_damagePlain_of_none h rules amount flags

theorem outcome_damage_of_none : (damage rules w target amount).outcome = ⟨w, []⟩ :=
  outcome_routeDamage_of_none h rules amount {}

theorem outcome_heal_of_none : (heal rules w target amount).outcome = ⟨w, []⟩ := by
  rw [heal]
  split
  · exact outcome_damagePlain_of_none h rules amount _
  · exact outcome_healPlain_of_none h amount _

end

end Skirmish.Combat
