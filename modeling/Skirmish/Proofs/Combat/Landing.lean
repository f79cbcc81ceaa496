import Skirmish.Proofs.Combat.Health
import Skirmish.Proofs.Course.Basic

/-!
# The moment after a hit

A hit changes health and shield and is recorded; only then come the heal of a unit that survives it
and its threshold (`Resolved.Lands`). Those two touch nothing but health and a mark
(`Resolved.Lands.unit?_world`), so what a hit did can be told from the moment right after it: shield
and health give up what the report says, and no more than the hit was worth
(`damage_conserves`).
-/

namespace Skirmish

/-- A unit that is healed whenever it survives a hit. -/
def Bag.HealsOnHit (unit : Bag) : Prop :=
  unit.isActive Stat.onDamageHealTurns = true ∧ 0 < unit.int Stat.onDamageHeal

instance (unit : Bag) : Decidable unit.HealsOnHit := inferInstanceAs (Decidable (_ ∧ _))

namespace Combat

variable {rules : Rules} {w : World} {target : String} {unit struck : Bag}
  {before after power : Int64}

/-- A hit lands on a unit with some health and leaves it `struck`: the damage that is reported is
recorded, and only then come the heal of a unit that survives and its threshold. -/
def Resolved.Lands (r : Resolved) (target : String) (before : Int64) (struck : Bag) : Prop :=
  ∃ (hurt : World) (flags : HitFlags) (fired : Bool),
    hurt.unit? target = some struck ∧
    r.report.flags = { flags with threshold := flags.threshold || fired } ∧
    r.outcome =
      ((Outcome.mk hurt [.damaged target r.report.amount flags]).andThen fun w =>
        healAfterHit w target struck.hp).andThen fun w =>
          (fireThreshold w target before struck.hp).1

theorem not_le_zero_iff : ¬power ≤ 0 ↔ 0 < power.toInt := by
  rw [Int64.le_iff_toInt_le, Int64.toInt_zero, Int.not_le]

/-- Damage that is not reversed is taken. -/
theorem damage_of_not_reversed (hplain : isReversed w Stat.reverseDamageTurns = false)
    (rules : Rules) (target : String) (power : Int64) :
    damage rules w target power = damagePlain rules w target power {} := by
  rw [damage, routeDamage, hplain, if_neg Bool.false_ne_true]

/-! ## What follows a hit -/

/-- The heal that follows a hit concerns health alone. -/
theorem unit?_healAfterHit (hunit : w.unit? target = some unit) (after : Int64) :
    ∃ last, (healAfterHit w target after).world.unit? target = some last ∧
      (∀ name, name ≠ Stat.hp → last.get? name = unit.get? name) ∧
      (¬unit.HealsOnHit → last.hp = unit.hp) := by
  by_cases hheals : 0 < after ∧ unit.HealsOnHit
  · have hhealed : healAfterHit w target after =
        (healPlain w target (unit.int Stat.onDamageHeal) {}).outcome := by
      rw [healAfterHit, hunit]
      exact if_pos hheals
    rw [hhealed, outcome_healPlain hunit]
    cases healedTo? unit (unit.int Stat.onDamageHeal) with
    | none => exact ⟨unit, hunit, fun _ _ => rfl, fun hidle => absurd hheals.2 hidle⟩
    | some restored =>
      refine ⟨_, World.unit?_updateUnit_self hunit _, fun name hname => ?_,
        fun hidle => absurd hheals.2 hidle⟩
      rw [Place.get?_keep_of_ne _ _ hname]
      exact (Bag.get?_set ..).trans (if_neg hname)
  · have hnothing : healAfterHit w target after = ⟨w, []⟩ := by
      rw [healAfterHit, hunit]
      exact if_neg hheals
    rw [hnothing]
    exact ⟨unit, hunit, fun _ _ => rfl, fun _ => rfl⟩

/-- The threshold of a unit leaves a mark and no more. -/
theorem unit?_fireThreshold (hunit : w.unit? target = some unit) (before after : Int64) :
    ∃ last, (fireThreshold w target before after).1.world.unit? target = some last ∧
      (∀ name, name ≠ Stat.hp → last.get? name = unit.get? name) ∧ last.hp = unit.hp := by
  rw [fireThreshold, hunit, Option.bind_some]
  cases triggered? unit before after with
  | none => exact ⟨unit, hunit, fun _ _ => rfl, rfl⟩
  | some skill =>
    refine ⟨_, World.unit?_updateUnit_self hunit _, fun name hname => ?_, ?_⟩
    · rw [Place.get?_keep_of_ne _ _ hname, Bag.get?_tag]
    · rw [Place.hp_keep]
      rfl

/-- After all that follows a hit, the unit is as the hit left it, but for its health if it heals. -/
theorem Resolved.Lands.unit?_world {r : Resolved} (h : r.Lands target before struck) :
    ∃ last, r.outcome.world.unit? target = some last ∧
      (∀ name, name ≠ Stat.hp → last.get? name = struck.get? name) ∧
      (¬struck.HealsOnHit → last.hp = struck.hp) := by
  obtain ⟨hurt, flags, fired, hstruck, -, houtcome⟩ := h
  obtain ⟨healed, hhealed, hvars, hhp⟩ := unit?_healAfterHit hstruck struck.hp
  obtain ⟨last, hlast, hvars', hhp'⟩ := unit?_fireThreshold hhealed before struck.hp
  rw [houtcome]
  exact ⟨last, hlast, fun name hname => (hvars' name hname).trans (hvars name hname),
    fun hidle => hhp'.trans (hhp hidle)⟩

/-! ## The hit -/

/-- The unit as a hit leaves it in the world. -/
def struckBy (rules : Rules) (target : String) (unit : Bag) (power : Int64) : Bag :=
  (Place.unit target).keep ((impact rules unit power).onBag unit)

@[simp] theorem hp_struckBy (rules : Rules) (target : String) (unit : Bag) (power : Int64) :
    (struckBy rules target unit power).hp = (impact rules unit power).after := by
  rw [struckBy, Place.hp_keep, Impact.hp_onBag]

theorem get?_struckBy_of_ne (rules : Rules) (target : String) (unit : Bag) (power : Int64)
    (name : String) (hhp : name ≠ Stat.hp) (hshield : name ≠ Stat.shield) :
    (struckBy rules target unit power).get? name = unit.get? name := by
  rw [struckBy, Place.get?_keep_of_ne _ _ hhp, Impact.get?_onBag_of_ne _ _ hhp hshield]

theorem get?_shield_struckBy (rules : Rules) (target : String) (unit : Bag) (power : Int64) :
    (struckBy rules target unit power).get? Stat.shield =
      if 0 < (impact rules unit power).absorbed then
        some (.int ((impact rules unit power).shield - (impact rules unit power).absorbed))
      else unit.get? Stat.shield := by
  have hne : Stat.shield ≠ Stat.hp := by decide
  rw [struckBy, Place.get?_keep_of_ne _ _ hne, Impact.onBag]
  split
  · rw [Bag.get?_set, if_pos rfl]
  · rw [Bag.get?_set, if_neg hne]

theorem healsOnHit_struckBy (rules : Rules) (target : String) (unit : Bag) (power : Int64) :
    (struckBy rules target unit power).HealsOnHit ↔ unit.HealsOnHit := by
  have hkept := get?_struckBy_of_ne rules target unit power
  have hturns := hkept Stat.onDamageHealTurns (by decide) (by decide)
  have hheal := hkept Stat.onDamageHeal (by decide) (by decide)
  rw [Bag.HealsOnHit, Bag.HealsOnHit, Bag.isActive_congr hturns, Bag.int_congr hheal]

/-- What is reported of a hit. -/
theorem report_damagePlain (rules : Rules) (hunit : w.unit? target = some unit)
    (hpower : ¬power ≤ 0) (flags : HitFlags) :
    let i := impact rules unit power
    ∃ fired, (damagePlain rules w target power flags).report =
      { target, amount := i.before - i.after, absorbed := i.absorbed
        flags := { i.flags flags with threshold := (i.flags flags).threshold || fired } } := by
  simp only [damagePlain, hunit, if_neg hpower]
  exact ⟨_, rfl⟩

theorem absorbed_damagePlain (rules : Rules) (hunit : w.unit? target = some unit)
    (hpower : ¬power ≤ 0) (flags : HitFlags) :
    (damagePlain rules w target power flags).report.absorbed =
      (impact rules unit power).absorbed := by
  obtain ⟨fired, hreport⟩ := report_damagePlain rules hunit hpower flags
  rw [hreport]

theorem toInt_amount_damagePlain (rules : Rules) (hunit : w.unit? target = some unit)
    (hpower : ¬power ≤ 0) (flags : HitFlags) :
    (damagePlain rules w target power flags).report.amount.toInt =
      unit.hp.toInt - (impact rules unit power).after.toInt := by
  obtain ⟨fired, hreport⟩ := report_damagePlain rules hunit hpower flags
  rw [hreport]
  exact toInt_dealt rules unit hpower

theorem lands_damagePlain (rules : Rules) (hunit : w.unit? target = some unit)
    (hpower : ¬power ≤ 0) (flags : HitFlags) :
    (damagePlain rules w target power flags).Lands target unit.hp
      (struckBy rules target unit power) := by
  obtain ⟨fired, hreport⟩ := report_damagePlain rules hunit hpower flags
  refine ⟨w.updateUnit target (impact rules unit power).onBag,
    (impact rules unit power).flags flags, fired, World.unit?_updateUnit_self hunit _, ?_, ?_⟩
  · rw [hreport]
  · rw [outcome_damagePlain hunit hpower, hreport, hp_struckBy, Impact.strike, Impact.run_edits]

/-! ## What a hit is worth -/

theorem toInt_absorbed (rules : Rules) (unit : Bag) (power : Int64) :
    (impact rules unit power).absorbed.toInt =
      min (max (unit.int Stat.shield).toInt 0) power.toInt := by
  simp only [impact, Saturating.toInt_min, Saturating.toInt_max, Int64.toInt_zero]

/-- What a hit leaves of a shield that absorbed some of it. -/
theorem toInt_shield_sub_absorbed (rules : Rules) (unit : Bag) (hpower : ¬power ≤ 0) :
    ((impact rules unit power).shield - (impact rules unit power).absorbed).toInt =
      max (unit.int Stat.shield).toInt 0 - (impact rules unit power).absorbed.toInt := by
  have hhigh := (unit.int Stat.shield).toInt_lt
  have habsorbed := toInt_absorbed rules unit power
  have hshield : (impact rules unit power).shield.toInt = max (unit.int Stat.shield).toInt 0 := by
    simp only [impact, Saturating.toInt_max, Int64.toInt_zero]
  rw [not_le_zero_iff] at hpower
  rw [Saturating.toInt_sub_of_fits (by omega) (by omega), hshield]

/-- Right after a hit that was worth so much, what shield and health gave up adds up to it, unless
the floor of the undying held or nothing is left. -/
structure Conserves (unit struck : Bag) (worth : Int) (r : Report) : Prop where
  absorbed_eq : r.absorbed.toInt = min (max (unit.int Stat.shield).toInt 0) worth
  amount_nonneg : 0 ≤ r.amount.toInt
  amount_le_hp : r.amount.toInt ≤ unit.hp.toInt
  amount_le : r.amount.toInt ≤ worth - r.absorbed.toInt
  hp_eq : struck.hp.toInt = unit.hp.toInt - r.amount.toInt
  shield_of_absorbed : 0 < r.absorbed → ∃ left, struck.get? Stat.shield = some (.int left) ∧
    left.toInt = max (unit.int Stat.shield).toInt 0 - r.absorbed.toInt
  shield_of_not : ¬0 < r.absorbed → struck.get? Stat.shield = unit.get? Stat.shield
  kept : ∀ name, name ≠ Stat.hp → name ≠ Stat.shield → struck.get? name = unit.get? name
  absorbed_iff : r.flags.absorbed = true ↔ 0 < r.absorbed
  lethal_iff : r.flags.lethal = true ↔ 0 < unit.hp ∧ struck.hp = 0
  short : r.amount.toInt < worth - r.absorbed.toInt → r.flags.undying = true ∨ struck.hp = 0

/-- The floor holds an undying unit whose health would fall below it. -/
theorem impact_held_iff (rules : Rules) (unit : Bag) (hpower : ¬power ≤ 0) :
    (impact rules unit power).held = true ↔ unit.isActive Stat.undyingTurns = true ∧
      max (-9223372036854775808) (unit.hp.toInt - ((impact rules unit power).through power).toInt) <
        min 1 (min rules.undyingFloor.toInt unit.hp.toInt) := by
  rw [impact_held, healthLeft_held_iff, toInt_sub_hp (through_nonneg rules unit hpower)]

/-- A hit that the floor does not stop takes all that the shield lets through, or all there is. -/
theorem toInt_impact_after_of_not_held (hpower : ¬power ≤ 0)
    (h : (impact rules unit power).held = false) :
    (impact rules unit power).after.toInt =
      max (unit.hp.toInt - ((impact rules unit power).through power).toInt) 0 := by
  have hthrough := through_nonneg rules unit hpower
  rw [impact_after, toInt_healthLeft, ← impact_held, h, if_neg Bool.false_ne_true,
    toInt_sub_hp hthrough]
  omega

/-- Nothing takes more from health than the shield lets through. -/
theorem sub_through_le_impact_after (rules : Rules) (unit : Bag) (hpower : ¬power ≤ 0) :
    unit.hp.toInt - ((impact rules unit power).through power).toInt ≤
      (impact rules unit power).after.toInt := by
  cases hheld : (impact rules unit power).held with
  | false =>
    have hafter := toInt_impact_after_of_not_held hpower hheld
    omega
  | true =>
    have hbelow := ((impact_held_iff rules unit hpower).1 hheld).2
    rw [impact_after, toInt_healthLeft, ← impact_held, hheld, if_pos rfl]
    omega

theorem conserves_damagePlain (rules : Rules) (hunit : w.unit? target = some unit)
    (hhp : 0 ≤ unit.hp.toInt) (hpower : ¬power ≤ 0) :
    Conserves unit (struckBy rules target unit power) power.toInt
      (damagePlain rules w target power {}).report := by
  obtain ⟨fired, hreport⟩ := report_damagePlain rules hunit hpower {}
  have hamount := toInt_amount_damagePlain rules hunit hpower {}
  have habsorbed := absorbed_damagePlain rules hunit hpower {}
  have hsoaked := toInt_absorbed rules unit power
  have hthrough := toInt_through rules unit hpower
  have hnonneg := impact_after_nonneg rules unit power
  have hle := impact_after_le rules unit hpower
  have htaken := sub_through_le_impact_after rules unit hpower
  have hshield := get?_shield_struckBy rules target unit power
  rw [← habsorbed] at hsoaked hshield
  refine
    { absorbed_eq := hsoaked
      amount_nonneg := by omega
      amount_le_hp := by omega
      amount_le := by omega
      hp_eq := ?hp
      shield_of_absorbed := fun hsome => ⟨_, hshield.trans (if_pos hsome), ?shield⟩
      shield_of_not := fun hnone => hshield.trans (if_neg hnone)
      kept := get?_struckBy_of_ne rules target unit power
      absorbed_iff := ?absorbed
      lethal_iff := ?lethal
      short := fun hshort => ?short }
  case hp =>
    rw [hp_struckBy]
    omega
  case shield =>
    rw [habsorbed]
    exact toInt_shield_sub_absorbed rules unit hpower
  case absorbed =>
    rw [hreport]
    simp [Impact.flags]
  case lethal =>
    rw [hreport, hp_struckBy]
    show (false || (decide (0 < unit.hp) && (impact rules unit power).after == 0)) = true ↔ _
    rw [Bool.false_or, Bool.and_eq_true, decide_eq_true_eq, beq_iff_eq]
  case short =>
    cases hheld : (impact rules unit power).held with
    | true =>
      rw [hreport]
      exact .inl (by simp [Impact.flags, hheld])
    | false =>
      have hafter := toInt_impact_after_of_not_held hpower hheld
      refine .inr (Int64.toInt_inj.1 ?_)
      rw [hp_struckBy, Int64.toInt_zero]
      omega

/-- Damage is conserved: right after a hit, shield and health have given up what the report says.
What follows the hit changes the shield no more, and health only if the unit heals on hits. -/
theorem damage_conserves (rules : Rules) (hplain : isReversed w Stat.reverseDamageTurns = false)
    (hunit : w.unit? target = some unit) (hhp : 0 ≤ unit.hp.toInt) (hpower : 0 < power.toInt) :
    let r := damage rules w target power
    ∃ struck last, r.Lands target unit.hp struck ∧ Conserves unit struck power.toInt r.report ∧
      r.outcome.world.unit? target = some last ∧
      last.get? Stat.shield = struck.get? Stat.shield ∧
      (¬unit.HealsOnHit → last.hp = struck.hp) := by
  have hpower' : ¬power ≤ 0 := not_le_zero_iff.2 hpower
  rw [damage_of_not_reversed hplain]
  have hlands := lands_damagePlain rules hunit hpower' {}
  obtain ⟨last, hlast, hvars, hsame⟩ := hlands.unit?_world
  exact ⟨_, last, hlands, conserves_damagePlain rules hunit hhp hpower', hlast,
    hvars Stat.shield (by decide), fun hidle => hsame (mt (healsOnHit_struckBy ..).1 hidle)⟩

/-- A hit that breaks a shield and is stopped by the floor of an undying unit, which then heals. -/
theorem damage_conserves_bob :
    let rules : Rules := { undyingFloor := 3 }
    let w := Edit.run [.set (.unit "bob") Stat.undyingTurns (.int 2),
      .set (.unit "bob") Stat.onDamageHealTurns (.int 1),
      .set (.unit "bob") Stat.onDamageHeal (.int 4)] arena
    isReversed w Stat.reverseDamageTurns = false ∧
    ∃ unit, w.unit? "bob" = some unit ∧ 0 ≤ unit.hp.toInt ∧ 0 < (40 : Int64).toInt ∧
      (damage rules w "bob" 40).report =
        { target := "bob", amount := 9, absorbed := 3
          flags := { absorbed := true, undying := true } } ∧
      let r := damage rules w "bob" 40
      ∃ struck last, r.Lands "bob" unit.hp struck ∧
        Conserves unit struck (40 : Int64).toInt r.report ∧
        r.outcome.world.unit? "bob" = some last ∧
        last.get? Stat.shield = struck.get? Stat.shield ∧
        (¬unit.HealsOnHit → last.hp = struck.hp) := by
  intro rules w
  obtain ⟨unit, hunit⟩ : ∃ unit, w.unit? "bob" = some unit :=
    Option.isSome_iff_exists.1 (by decide)
  have hplain : isReversed w Stat.reverseDamageTurns = false := by decide
  have hhp : ∀ unit ∈ w.unit? "bob", 0 ≤ unit.hp.toInt := by decide
  have hpower : 0 < (40 : Int64).toInt := by decide
  exact ⟨hplain, unit, hunit, hhp unit hunit, hpower, by decide +kernel,
    damage_conserves rules hplain hunit (hhp unit hunit) hpower⟩

end Combat

end Skirmish
