import Skirmish.Proofs.Combat.Landing
import Skirmish.Proofs.Upkeep.Personal

/-!
# Hits in parts

A hit drains a unit: its shield gives up what it soaks up, and its health the rest, down to where it
stops (`Drains`). While the floor of the undying is at most one, that is a matter of sums: what is
soaked up adds up, and where health stops is the same before and after the first part
(`Drains.add`). So a hit may be split in two (`damage_add`). Under a higher floor the first part may
bring health below the floor, and the second is stopped there instead.
-/

namespace Skirmish.Combat

/-- What the shield of a unit takes of a hit. -/
def soaked (unit : Bag) (worth : Int) : Int := min (max (unit.int Stat.shield).toInt 0) worth

/-- Where the health of a unit stops: at zero, or at the floor if the unit is undying and has as
much. -/
def bottom (rules : Rules) (unit : Bag) : Int :=
  if unit.isActive Stat.undyingTurns = true then
    max (min rules.undyingFloor.toInt unit.hp.toInt) 0
  else 0

/-- A unit before and after a hit that was worth so much. -/
structure Drains (rules : Rules) (worth : Int) (unit last : Bag) : Prop where
  hp_eq : last.hp.toInt = max (unit.hp.toInt - (worth - soaked unit worth)) (bottom rules unit)
  shield_eq : (last.int Stat.shield).toInt = (unit.int Stat.shield).toInt - soaked unit worth
  kept : ∀ name, name ≠ Stat.hp → name ≠ Stat.shield → last.get? name = unit.get? name

variable {rules : Rules} {w : World} {target : String} {unit mid last : Bag} {power : Int64}

theorem toInt_shield_struckBy (rules : Rules) (target : String) (unit : Bag)
    (hpower : ¬power ≤ 0) :
    ((struckBy rules target unit power).int Stat.shield).toInt =
      (unit.int Stat.shield).toInt - soaked unit power.toInt := by
  have hshield := get?_shield_struckBy rules target unit power
  have habsorbed := toInt_absorbed rules unit power
  have hleft := toInt_shield_sub_absorbed rules unit hpower
  by_cases hsome : 0 < (impact rules unit power).absorbed
  · have hread : (struckBy rules target unit power).int Stat.shield =
        (impact rules unit power).shield - (impact rules unit power).absorbed := by
      rw [Bag.int, hshield, if_pos hsome]
      rfl
    rw [Int64.lt_iff_toInt_lt, Int64.toInt_zero] at hsome
    rw [hread, hleft, soaked]
    omega
  · rw [if_neg hsome] at hshield
    rw [Int64.lt_iff_toInt_lt, Int64.toInt_zero] at hsome
    rw [not_le_zero_iff] at hpower
    rw [Bag.int_congr hshield, soaked]
    omega

section

variable (hfloor : rules.undyingFloor.toInt ≤ 1)

include hfloor

theorem toInt_impact_after_eq (unit : Bag) (hpower : ¬power ≤ 0) :
    (impact rules unit power).after.toInt =
      max (unit.hp.toInt - (power.toInt - soaked unit power.toInt)) (bottom rules unit) := by
  have hthrough := toInt_through rules unit hpower
  have hheld := impact_held_iff rules unit hpower
  rw [soaked, ← hthrough, bottom]
  by_cases hundying : unit.isActive Stat.undyingTurns = true
  · rw [if_pos hundying]
    cases hfloored : (impact rules unit power).held with
    | true =>
      have hbelow := (hheld.1 hfloored).2
      rw [impact_after, toInt_healthLeft, ← impact_held, hfloored, if_pos rfl]
      omega
    | false =>
      -- A floor of at most one holds whatever falls below it, so nothing did.
      have habove := not_and.1 (mt hheld.2 (ne_true_of_eq_false hfloored)) hundying
      rw [toInt_impact_after_of_not_held hpower hfloored]
      omega
  · have hfree : (impact rules unit power).held = false :=
      eq_false_of_ne_true fun hfloored => hundying (hheld.1 hfloored).1
    rw [if_neg hundying, toInt_impact_after_of_not_held hpower hfree]

theorem drains_struckBy (target : String) (unit : Bag) (hpower : ¬power ≤ 0) :
    Drains rules power.toInt unit (struckBy rules target unit power) := by
  refine ⟨?_, toInt_shield_struckBy rules target unit hpower,
    get?_struckBy_of_ne rules target unit power⟩
  rw [hp_struckBy]
  exact toInt_impact_after_eq hfloor unit hpower

/-- Damage that no heal follows drains its target, and no more comes of it but a mark. -/
theorem drains_damage (hplain : isReversed w Stat.reverseDamageTurns = false)
    (hunit : w.unit? target = some unit) (hidle : ¬unit.HealsOnHit) (hpower : 0 < power.toInt) :
    ∃ last, (damage rules w target power).outcome.world.unit? target = some last ∧
      Drains rules power.toInt unit last := by
  have hpower' : ¬power ≤ 0 := not_le_zero_iff.2 hpower
  rw [damage_of_not_reversed hplain]
  obtain ⟨last, hlast, hvars, hhp⟩ :=
    (lands_damagePlain rules hunit hpower' {}).unit?_world
  have hstruck := drains_struckBy hfloor target unit hpower'
  refine ⟨last, hlast, ?_, ?_, fun name hne hshield => ?_⟩
  · rw [hhp (mt (healsOnHit_struckBy ..).1 hidle)]
    exact hstruck.hp_eq
  · rw [Bag.int_congr (hvars Stat.shield (by decide))]
    exact hstruck.shield_eq
  · rw [hvars name hne]
    exact hstruck.kept name hne hshield

/-- A hit leaves where health stops as it was. -/
theorem Drains.bottom_eq {worth : Int} (h : Drains rules worth unit mid) :
    bottom rules mid = bottom rules unit := by
  have hundying : mid.isActive Stat.undyingTurns = unit.isActive Stat.undyingTurns :=
    Bag.isActive_congr (h.kept Stat.undyingTurns (by decide) (by decide))
  have hsoaked : soaked unit worth ≤ worth := Int.min_le_right _ _
  have hmid := h.hp_eq
  by_cases hactive : unit.isActive Stat.undyingTurns = true
  · rw [bottom, if_pos hactive] at hmid
    rw [bottom, bottom, hundying, if_pos hactive, if_pos hactive]
    omega
  · rw [bottom, bottom, hundying, if_neg hactive, if_neg hactive]

/-- What two hits drain, one after the other, is what they drain together. -/
theorem Drains.add {a b : Int} (h : Drains rules a unit mid) (k : Drains rules b mid last)
    (ha : 0 ≤ a) (hb : 0 ≤ b) : Drains rules (a + b) unit last := by
  have hsoaked : soaked unit (a + b) = soaked unit a + soaked mid b := by
    have hshield := h.shield_eq
    unfold soaked at hshield ⊢
    omega
  have hsoaked_le : soaked mid b ≤ b := Int.min_le_right _ _
  refine ⟨?_, ?_, fun name hhp hshield => ?_⟩
  · rw [k.hp_eq, h.hp_eq, h.bottom_eq hfloor, hsoaked]
    omega
  · rw [k.shield_eq, h.shield_eq, hsoaked]
    omega
  · exact (k.kept name hhp hshield).trans (h.kept name hhp hshield)

end

/-- Hits of the same worth drain the same. -/
theorem Drains.unique {worth : Int} {other : Bag} (h : Drains rules worth unit last)
    (k : Drains rules worth unit other) :
    last.hp = other.hp ∧ last.int Stat.shield = other.int Stat.shield :=
  ⟨Int64.toInt_inj.1 (h.hp_eq.trans k.hp_eq.symm),
    Int64.toInt_inj.1 (h.shield_eq.trans k.shield_eq.symm)⟩

theorem Drains.healsOnHit {worth : Int} (h : Drains rules worth unit last) :
    last.HealsOnHit ↔ unit.HealsOnHit := by
  have hturns := h.kept Stat.onDamageHealTurns (by decide) (by decide)
  have hheal := h.kept Stat.onDamageHeal (by decide) (by decide)
  rw [Bag.HealsOnHit, Bag.HealsOnHit, Bag.isActive_congr hturns, Bag.int_congr hheal]

/-- While the floor of the undying is at most one, two hits on a unit that does not heal on hits
leave it the health and the shield that one hit of their sum leaves it. -/
theorem damage_add (rules : Rules) (hfloor : rules.undyingFloor.toInt ≤ 1)
    (hplain : isReversed w Stat.reverseDamageTurns = false) (hunit : w.unit? target = some unit)
    (hidle : ¬unit.HealsOnHit) {a b : Int64} (ha : 0 < a.toInt) (hb : 0 < b.toInt)
    (hfits : a.toInt + b.toInt ≤ Int64.maxValue.toInt) :
    let first := (damage rules w target a).outcome.world
    ∃ twice once, (damage rules first target b).outcome.world.unit? target = some twice ∧
      (damage rules w target (a + b)).outcome.world.unit? target = some once ∧
      twice.hp = once.hp ∧ twice.int Stat.shield = once.int Stat.shield := by
  intro first
  have hsum : (a + b).toInt = a.toInt + b.toInt := by
    rw [Int64.toInt_maxValue] at hfits
    rw [Int64.toInt_add, Int.bmod_eq_of_le] <;> omega
  have hplain' : isReversed first Stat.reverseDamageTurns = false := by
    have hglobal : first.global = w.global := (Upkeep.damage_personal target rules a).global_eq w
    rw [isReversed, hglobal]
    exact hplain
  obtain ⟨mid, hmid, hfirst⟩ := drains_damage hfloor hplain hunit hidle ha
  obtain ⟨twice, htwice, hsecond⟩ :=
    drains_damage hfloor hplain' hmid (mt hfirst.healsOnHit.1 hidle) hb
  have hab : 0 < (a + b).toInt := by omega
  obtain ⟨once, honce, hboth⟩ := drains_damage hfloor hplain hunit hidle hab
  rw [hsum] at hboth
  have htogether := hfirst.add hfloor hsecond (Int.le_of_lt ha) (Int.le_of_lt hb)
  exact ⟨twice, once, htwice, honce, htogether.unique hboth⟩

/-- A hit whose first part breaks the shield and whose second part is stopped by the floor. -/
theorem damage_add_bob :
    let w := (Edit.set (.unit "bob") Stat.undyingTurns (.int 1)).apply arena
    ({} : Rules).undyingFloor.toInt ≤ 1 ∧ isReversed w Stat.reverseDamageTurns = false ∧
    ∃ unit, w.unit? "bob" = some unit ∧ ¬unit.HealsOnHit ∧
      (0 < (5 : Int64).toInt ∧ 0 < (20 : Int64).toInt ∧
        (5 : Int64).toInt + (20 : Int64).toInt ≤ Int64.maxValue.toInt) ∧
      let first := (damage {} w "bob" 5).outcome.world
      ∃ twice once, (damage {} first "bob" 20).outcome.world.unit? "bob" = some twice ∧
        (damage {} w "bob" (5 + 20)).outcome.world.unit? "bob" = some once ∧
        twice.hp = once.hp ∧ twice.int Stat.shield = once.int Stat.shield := by
  intro w
  obtain ⟨unit, hunit⟩ : ∃ unit, w.unit? "bob" = some unit :=
    Option.isSome_iff_exists.1 (by decide)
  have hfloor : ({} : Rules).undyingFloor.toInt ≤ 1 := by decide
  have hplain : isReversed w Stat.reverseDamageTurns = false := by decide
  have hidle : ∀ unit ∈ w.unit? "bob", ¬unit.HealsOnHit := by decide
  have ha : 0 < (5 : Int64).toInt := by decide
  have hb : 0 < (20 : Int64).toInt := by decide
  have hfits : (5 : Int64).toInt + (20 : Int64).toInt ≤ Int64.maxValue.toInt := by
    decide +kernel
  exact ⟨hfloor, hplain, unit, hunit, hidle unit hunit, ⟨ha, hb, hfits⟩,
    damage_add {} hfloor hplain hunit (hidle unit hunit) ha hb hfits⟩

end Skirmish.Combat
