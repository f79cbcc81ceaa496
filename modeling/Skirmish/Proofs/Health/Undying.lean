import Skirmish.Proofs.Health.Ledger

/-!
# The undying

A unit whose undying turns are running survives all combat if the floor of the rules is at least one
(`Action.undying_applyAll`). A hit that would have killed it leaves the floor, or what there was if
that is less (`Combat.damagePlain_of_undying`), is marked so and is never lethal; a heal that may
follow the hit only adds to that.
-/

namespace Skirmish

variable {rules : Rules} {id : String} {names : List String} {unit last : Bag}

/-- An undying unit that is alive. -/
structure Bag.Undying (unit : Bag) : Prop where
  active : unit.isActive Stat.undyingTurns = true
  one_le_hp : 1 ≤ unit.hp.toInt

instance (unit : Bag) : Decidable unit.Undying :=
  decidable_of_iff (unit.isActive Stat.undyingTurns = true ∧ 1 ≤ unit.hp.toInt)
    ⟨fun h => ⟨h.1, h.2⟩, fun h => ⟨h.active, h.one_le_hp⟩⟩

namespace Moment

theorem undying (hfloor : 1 ≤ rules.undyingFloor.toInt) (hhp : Stat.hp ∈ names)
    (hturns : Stat.undyingTurns ∈ names) {events : List TraceEvent}
    (h : Moment (Spares id names) rules id unit events last) (hunit : unit.Undying) :
    last.Undying := by
  have hkept : last.get? Stat.undyingTurns = unit.get? Stat.undyingTurns :=
    h.get?_eq hturns (by decide) (by decide)
  refine ⟨(Bag.isActive_congr hkept).trans hunit.active, ?_⟩
  have halive := hunit.one_le_hp
  rcases h.hp_cases hhp with hsame | ⟨amount, after, hheal, rfl⟩ | ⟨amount, hamount, hhit⟩
  · rw [hsame]
    exact halive
  · exact Int.le_trans halive (Combat.le_of_healedTo? hheal)
  · rw [hhit]
    exact Combat.one_le_impact_after hfloor halive hunit.active hamount

/-- Damage to an undying unit is not lethal, and where it is marked it leaves the floor. -/
theorem damaged_of_undying (hfloor : 1 ≤ rules.undyingFloor.toInt) {amount : Int64}
    {flags : HitFlags} (h : Moment (Spares id names) rules id unit [.damaged id amount flags] last)
    (hunit : unit.Undying) :
    flags.lethal = false ∧ (flags.undying = true → last.hp = min rules.undyingFloor unit.hp) := by
  cases h with
  | elsewhere h => exact absurd rfl h
  | @hit power flags h hflags =>
    -- Neither flag is set before the hit, so each tells about this hit alone.
    obtain ⟨hundying, hlethal⟩ := hflags
    have hafter := Combat.one_le_impact_after hfloor hunit.one_le_hp hunit.active h
    have hne : (Combat.impact rules unit power).after ≠ 0 := by
      intro hzero
      rw [hzero, Int64.toInt_zero] at hafter
      omega
    refine ⟨?_, fun hheld => ?_⟩
    · simp [Combat.Impact.flags, hlethal, hne]
    · have hheld : (Combat.impact rules unit power).held = true := by
        simpa [Combat.Impact.flags, hundying] using hheld
      rw [Place.hp_keep, Combat.Impact.hp_onBag]
      exact Combat.impact_after_of_held hfloor hunit.one_le_hp hheld

end Moment

/-- The outcome of a hit that the floor held: the unit is left with some health and its damage is
marked; only then come the heal and the threshold that follow every hit. -/
def Combat.HeldAt (left : Int64) (id : String) (unit : Bag) (o : Outcome) : Prop :=
  ∃ (hurt : Outcome) (struck : Bag) (flags : HitFlags),
    hurt.world.unit? id = some struck ∧ struck.hp = left ∧
    hurt.trace = [.damaged id (unit.hp - left) flags] ∧ flags.undying = true ∧
    o = (hurt.andThen fun w => healAfterHit w id left).andThen fun w =>
      (fireThreshold w id unit.hp left).1

/-- A hit that would kill an undying unit leaves it at the floor, or at what there was if that is
less. -/
theorem Combat.damagePlain_of_undying (hfloor : 1 ≤ rules.undyingFloor.toInt) {w : World}
    (hunit : w.unit? id = some unit) (hundying : unit.Undying) {power : Int64}
    (hkill : WouldKill unit power) (flags : HitFlags) :
    HeldAt (min rules.undyingFloor unit.hp) id unit
      (damagePlain rules w id power flags).outcome := by
  obtain ⟨hactive, halive⟩ := hundying
  have hpower : ¬power ≤ 0 := by
    rw [Int64.le_iff_toInt_le, Int64.toInt_zero]
    rw [WouldKill] at hkill
    omega
  have hheld := (held_iff_wouldKill hfloor halive hactive hpower).2 hkill
  have hafter := impact_after_of_held hfloor halive hheld
  refine ⟨(impact rules unit power).strike id flags w,
    (Place.unit id).keep ((impact rules unit power).onBag unit),
    (impact rules unit power).flags flags, ?_, ?_, ?_, ?_, ?_⟩
  · rw [Impact.strike, Impact.run_edits]
    exact World.unit?_updateUnit_self hunit _
  · rw [Place.hp_keep, Impact.hp_onBag, hafter]
  · rw [Impact.strike, impact_before, hafter]
  · simp [Impact.flags, hheld]
  · rw [outcome_damagePlain hunit hpower, hafter]

/-- In combat an undying unit stays alive, and no damage to it is lethal; the marked damage leaves
the floor, or what there was if that is less, and so does every single hit that would kill it. -/
theorem Action.undying_applyAll (rules : Rules) (hfloor : 1 ≤ rules.undyingFloor.toInt)
    {w : World} {unit : Bag} (hunit : w.unit? id = some unit) (hundying : unit.Undying)
    {actions : List Action} (h : ∀ a ∈ actions, a.isCombat = true) :
    (∃ last, (applyAll rules actions w).world.unit? id = some last ∧ 1 ≤ last.hp.toInt) ∧
    (∀ before amount flags after,
      (applyAll rules actions w).trace = before ++ .damaged id amount flags :: after →
      let health := unit.hp.toInt - damageOf id before + healingOf id before
      flags.lethal = false ∧
        (flags.undying = true →
          health - amount.toInt = min rules.undyingFloor.toInt health)) ∧
    ∀ v target struck power flags, v.unit? target = some struck → struck.Undying →
      Combat.WouldKill struck power →
      Combat.HeldAt (min rules.undyingFloor struck.hp) target struck
        (Combat.damagePlain rules v target power flags).outcome := by
  have hnames : ∀ name ∈ [Stat.hp, Stat.undyingTurns], name ∉ Combat.counters := by decide
  have hhp : Stat.hp ∈ [Stat.hp, Stat.undyingTurns] := by decide
  have hturns : Stat.undyingTurns ∈ [Stat.hp, Stat.undyingTurns] := by decide
  obtain ⟨last, hlast, hcourse⟩ := applyAll_follows_of_isCombat rules hnames h w unit hunit
  refine ⟨⟨last, hlast, ?_⟩, ?_, ?_⟩
  · exact (hcourse.invariant (Moment.undying hfloor hhp hturns) hundying).one_le_hp
  · intro before amount flags after htrace health
    obtain ⟨mid, next, hbefore, hdamaged, -⟩ := hcourse.split htrace
    have hmid : mid.Undying := hbefore.invariant (Moment.undying hfloor hhp hturns) hundying
    have hhealth : mid.hp.toInt = health := hbefore.hp_eq hhp
    have hnext := hdamaged.hp_eq hhp
    obtain ⟨hlethal, hfloored⟩ := hdamaged.damaged_of_undying hfloor hmid
    refine ⟨hlethal, fun hheld => ?_⟩
    rw [hfloored hheld, Saturating.toInt_min, hhealth, damageOf_singleton,
      healingOf_singleton] at hnext
    simp only [TraceEvent.taken, TraceEvent.given, if_true] at hnext
    omega
  · intro v target struck power flags hstruck hlives hkill
    exact Combat.damagePlain_of_undying hfloor hstruck hlives hkill flags

/-- An undying unit under a floor of three, hit twice with a heal between. -/
theorem Action.undying_applyAll_bob :
    let rules : Rules := { undyingFloor := 3 }
    let w := (Edit.set (.unit "bob") Stat.undyingTurns (.int 2)).apply arena
    let actions : List Action := [.damage "bob" 40, .heal "bob" 1, .strike .magic "ann" "bob" 9 0.0]
    1 ≤ rules.undyingFloor.toInt ∧
    ∃ unit, w.unit? "bob" = some unit ∧ unit.Undying ∧ (∀ a ∈ actions, a.isCombat = true) ∧
      (∃ last, (applyAll rules actions w).world.unit? "bob" = some last ∧ 1 ≤ last.hp.toInt) ∧
      Combat.WouldKill unit 40 ∧
      Combat.HeldAt (min rules.undyingFloor unit.hp) "bob" unit
        (Combat.damagePlain rules w "bob" 40 {}).outcome := by
  intro rules w actions
  have hfloor : 1 ≤ rules.undyingFloor.toInt := by decide
  obtain ⟨unit, hunit⟩ : ∃ unit, w.unit? "bob" = some unit :=
    Option.isSome_iff_exists.1 (by decide)
  have hbob : ∀ unit ∈ w.unit? "bob", unit.Undying ∧ Combat.WouldKill unit 40 := by decide
  obtain ⟨hundying, hkill⟩ := hbob unit hunit
  have hcombat : ∀ a ∈ actions, a.isCombat = true := by decide
  obtain ⟨halive, -, hheld⟩ := undying_applyAll rules hfloor hunit hundying hcombat
  exact ⟨hfloor, unit, hunit, hundying, hcombat, halive, hkill,
    hheld w "bob" unit 40 {} hunit hundying hkill⟩

end Skirmish
