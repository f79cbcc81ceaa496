import Skirmish.Proofs.Combat.Health
import Skirmish.Proofs.Course.Action

/-!
# The bounds of health

While there is only combat, health stays between zero and the greatest health, or what there was if
that is more, and the dead stay dead (`Action.hp_applyAll_bounds`). Hits keep the lower bound and
heals the upper one; neither helps the dead.
-/

namespace Skirmish

variable {rules : Rules} {id : String} {names : List String} {unit last : Bag}
  {events : List TraceEvent}

/-- The health of a unit is between zero and a bound that covers its greatest health. -/
structure Bag.Bounded (bound : Int) (unit : Bag) : Prop where
  limited : unit.contains Stat.maxHp = true
  maxHp_le : unit.maxHp.toInt ≤ bound
  hp_nonneg : 0 ≤ unit.hp.toInt
  hp_le : unit.hp.toInt ≤ bound

namespace Moment

theorem bounded (hhp : Stat.hp ∈ names) (hmaxHp : Stat.maxHp ∈ names) {bound : Int}
    (h : Moment (Spares id names) rules id unit events last) (hunit : unit.Bounded bound) :
    last.Bounded bound := by
  obtain ⟨hlimited, hmax, hnonneg, hle⟩ := hunit
  have hkept : last.get? Stat.maxHp = unit.get? Stat.maxHp :=
    h.get?_eq hmaxHp (by decide) (by decide)
  have hlast : 0 ≤ last.hp.toInt ∧ last.hp.toInt ≤ bound := by
    rcases h.hp_cases hhp with hsame | ⟨amount, after, hheal, rfl⟩ | ⟨amount, hamount, hhit⟩
    · rw [hsame]
      exact ⟨hnonneg, hle⟩
    · have hlow := Combat.le_of_healedTo? hheal
      have hhigh := Combat.healedTo?_le hheal hlimited
      omega
    · rw [hhit]
      have hlow := Combat.impact_after_nonneg rules unit amount
      have hhigh := Combat.impact_after_le rules unit hamount
      omega
  refine ⟨(Bag.contains_congr hkept).trans hlimited, ?_, hlast.1, hlast.2⟩
  rw [Bag.maxHp, Bag.int_congr hkept]
  exact hmax

theorem dead (hhp : Stat.hp ∈ names) (h : Moment (Spares id names) rules id unit events last)
    (hunit : unit.hp.toInt = 0) : last.hp.toInt = 0 := by
  -- Heals are for the living, and a hit finds nothing left to take.
  rcases h.hp_cases hhp with hsame | ⟨amount, after, hheal, rfl⟩ | ⟨amount, hamount, hhit⟩
  · rw [hsame, hunit]
  · have halive := (Combat.eq_of_healedTo? hheal).2.1
    omega
  · rw [hhit]
    have hlow := Combat.impact_after_nonneg rules unit amount
    have hhigh := Combat.impact_after_le rules unit hamount
    omega

end Moment

/-- At every point of a list of combat actions, the health of a unit with a greatest health is
between zero and the larger of that and what it had; once it is zero it is so at the end. -/
theorem Action.hp_applyAll_bounds (rules : Rules) {w : World} {unit : Bag}
    (hunit : w.unit? id = some unit) (hlimited : unit.contains Stat.maxHp = true)
    (hhp : 0 ≤ unit.hp.toInt) {before after : List Action}
    (h : ∀ a ∈ before ++ after, a.isCombat = true) :
    ∃ mid last, (applyAll rules before w).world.unit? id = some mid ∧
      (applyAll rules (before ++ after) w).world.unit? id = some last ∧
      (0 ≤ mid.hp.toInt ∧ mid.hp.toInt ≤ max unit.hp.toInt unit.maxHp.toInt) ∧
      (mid.hp.toInt = 0 → last.hp.toInt = 0) := by
  have hnames : ∀ name ∈ [Stat.hp, Stat.maxHp], name ∉ Combat.counters := by decide
  have hbefore : ∀ a ∈ before, a.isCombat = true :=
    fun a ha => h a (List.mem_append_left after ha)
  have hafter : ∀ a ∈ after, a.isCombat = true :=
    fun a ha => h a (List.mem_append_right before ha)
  obtain ⟨mid, hmid, hcourse⟩ := applyAll_follows_of_isCombat rules hnames hbefore w unit hunit
  obtain ⟨last, hlast, hrest⟩ := applyAll_follows_of_isCombat rules hnames hafter _ mid hmid
  have hbounded : mid.Bounded (max unit.hp.toInt unit.maxHp.toInt) :=
    hcourse.invariant (Moment.bounded (by decide) (by decide))
      ⟨hlimited, Int.le_max_right _ _, hhp, Int.le_max_left _ _⟩
  have hwhole : (applyAll rules (before ++ after) w).world.unit? id = some last := by
    rw [applyAll, Outcome.fold_append]
    exact hlast
  exact ⟨mid, last, hmid, hwhole, ⟨hbounded.hp_nonneg, hbounded.hp_le⟩,
    hrest.invariant (Moment.dead (by decide))⟩

/-- A unit that is healed beyond its greatest health and then struck down. -/
theorem Action.hp_applyAll_bounds_bob :
    let w := (Edit.set (.unit "bob") Stat.maxHp (.int 20)).apply arena
    let before : List Action := [.heal "bob" 30]
    let after : List Action := [.strike .physical "ann" "bob" 40 0.0, .damage "bob" 100]
    ∃ unit, w.unit? "bob" = some unit ∧ unit.contains Stat.maxHp = true ∧ 0 ≤ unit.hp.toInt ∧
      (∀ a ∈ before ++ after, a.isCombat = true) ∧
      ∃ mid last, (applyAll {} before w).world.unit? "bob" = some mid ∧
        (applyAll {} (before ++ after) w).world.unit? "bob" = some last ∧
        (0 ≤ mid.hp.toInt ∧ mid.hp.toInt ≤ max unit.hp.toInt unit.maxHp.toInt) ∧
        (mid.hp.toInt = 0 → last.hp.toInt = 0) := by
  intro w before after
  obtain ⟨unit, hunit⟩ : ∃ unit, w.unit? "bob" = some unit :=
    Option.isSome_iff_exists.1 (by decide)
  have hstats : ∀ unit ∈ w.unit? "bob", unit.contains Stat.maxHp = true ∧ 0 ≤ unit.hp.toInt := by
    decide
  obtain ⟨hlimited, hhp⟩ := hstats unit hunit
  have hcombat : ∀ a ∈ before ++ after, a.isCombat = true := by decide
  exact ⟨unit, hunit, hlimited, hhp, hcombat,
    hp_applyAll_bounds {} hunit hlimited hhp hcombat⟩

end Skirmish
