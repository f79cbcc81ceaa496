import Skirmish.Proofs.Combat.Chain
import Skirmish.Proofs.Combat.Landing

/-!
# How hits end

While damage is not reversed, damage and attacks end in one of two ways (`Resolves`): the hit is
missed, and evasions and counters are counted at most, or it lands. So the report and the record
agree, what a shield absorbs is never negative, and the amount is negative only if a hit lands on a
unit whose health is below zero: the zero at which health stops is above what such a unit has
(`amount_neg_iff`).
-/

namespace Skirmish

/-- Edits leave what a variable reads as that is not among theirs. -/
theorem Edit.int_run_of_ne {es : List Edit} {p : Place} {name : String}
    (h : ∀ e ∈ es, .var p name ≠ e.location) {w : World} {b : Bag} (hb : w.bag? p = some b) :
    ∃ last, (run es w).bag? p = some last ∧ last.int name = b.int name := by
  induction es generalizing w b with
  | nil => exact ⟨b, hb, rfl⟩
  | cons e es ih =>
    have hne := h e List.mem_cons_self
    have hrest : ∀ f ∈ es, .var p name ≠ f.location := fun f hf => h f (List.mem_cons_of_mem e hf)
    have hedited := World.bag?_update w e.onBag e.place p
    by_cases hplace : p = e.place
    · subst hplace
      rw [if_pos rfl, hb, Option.map_some] at hedited
      obtain ⟨last, hlast, hint⟩ := ih hrest hedited
      refine ⟨last, hlast, ?_⟩
      rw [hint, Place.int_keep, Bag.int_congr (get?_onBag_of_ne hne b)]
    · rw [if_neg hplace, hb] at hedited
      exact ih hrest hedited

namespace Combat

variable {rules : Rules} {w : World} {target : String} {unit struck : Bag} {es : List Edit}
  {r : Resolved}

/-! ## Counting -/

theorem Counting.nil : Counting [] [] :=
  ⟨fun _ he => absurd he List.not_mem_nil, fun _ he => absurd he List.not_mem_nil⟩

theorem Counting.append {fs : List Edit} (h : Counting es []) (k : Counting fs []) :
    Counting (es ++ fs) [] :=
  ⟨fun e he => (List.mem_append.1 he).elim (h.edits e) (k.edits e), k.trace⟩

/-- Counting concerns units, and their counters at that. -/
theorem Counting.location_ne {trace : List TraceEvent} (h : Counting es trace) {p : Place}
    {name : String} (hother : (∀ id, p ≠ .unit id) ∨ name ∉ counters) :
    ∀ e ∈ es, .var p name ≠ e.location := by
  intro e he heq
  obtain ⟨id, counter, hcounter, hlocation⟩ := h.edits e he
  obtain ⟨hp, hname⟩ := Location.var.inj (heq.trans hlocation)
  rcases hother with hplace | hfresh
  · exact hplace id hp
  · exact hfresh (hname ▸ hcounter)

theorem Counting.isReversed_run (h : Counting es []) (w : World) (toggle : String) :
    isReversed (Edit.run es w) toggle = isReversed w toggle := by
  have hne : ∀ e ∈ es, .var .global toggle ≠ e.location :=
    h.location_ne (.inl fun _ heq => Place.noConfusion heq)
  obtain ⟨last, hlast, hint⟩ := Edit.int_run_of_ne hne (w := w) (b := w.global) rfl
  have hglobal : (Edit.run es w).global = last := Option.some.inj hlast
  rw [isReversed, isReversed, Bag.isActive, Bag.isActive, hglobal, hint]

theorem Counting.hp_run {trace : List TraceEvent} (h : Counting es trace)
    (hunit : w.unit? target = some unit) :
    ∃ last, (Edit.run es w).unit? target = some last ∧ last.hp = unit.hp := by
  have hne : ∀ e ∈ es, .var (.unit target) Stat.hp ≠ e.location :=
    h.location_ne (.inr (by decide))
  exact Edit.int_run_of_ne hne hunit

/-- Who is there after counting was there before, with the same health. -/
theorem Counting.hp_of_run (h : Counting es []) (hunit : (Edit.run es w).unit? target = some unit) :
    ∃ first, w.unit? target = some first ∧ first.hp = unit.hp := by
  cases hfirst : w.unit? target with
  | none =>
    rw [(Edit.sameFrame_run es w).unit?_of_none hfirst] at hunit
    cases hunit
  | some first =>
    obtain ⟨last, hlast, hhp⟩ := h.hp_run hfirst
    cases hunit.symm.trans hlast
    exact ⟨first, rfl, hhp.symm⟩

/-! ## Misses and hits -/

/-- A hit is missed, or it lands on its target after no more than counting. -/
inductive Resolves (rules : Rules) (w : World) (target : String) : Resolved → Prop where
  | missed {r : Resolved} {es : List Edit} (h : Counting es r.outcome.trace)
      (hworld : r.outcome.world = Edit.run es w) (hamount : r.report.amount = 0)
      (habsorbed : r.report.absorbed = 0) : Resolves rules w target r
  | landed {es : List Edit} {unit : Bag} {power : Int64} {flags : HitFlags} (h : Counting es [])
      (hunit : (Edit.run es w).unit? target = some unit) (hpower : ¬power ≤ 0) :
      Resolves rules w target (damagePlain rules (Edit.run es w) target power flags)

theorem resolves_unchanged (rules : Rules) (target : String) (h : Counting es [])
    (flags : HitFlags) :
    Resolves rules w target (.unchanged (Edit.run es w) target flags) :=
  .missed h rfl rfl rfl

theorem resolves_routeDamage (rules : Rules) (target : String)
    (hplain : isReversed w Stat.reverseDamageTurns = false) (h : Counting es []) (power : Int64)
    (flags : HitFlags) :
    Resolves rules w target (routeDamage rules (Edit.run es w) target power flags) := by
  rw [routeDamage, h.isReversed_run, hplain, if_neg Bool.false_ne_true]
  cases hunit : (Edit.run es w).unit? target with
  | none =>
    rw [damagePlain, hunit]
    exact resolves_unchanged rules target h flags
  | some unit =>
    by_cases hpower : power ≤ 0
    · simp only [damagePlain, hunit, if_pos hpower]
      exact resolves_unchanged rules target h flags
    · exact .landed h hunit hpower

theorem resolves_damage (hplain : isReversed w Stat.reverseDamageTurns = false) (power : Int64) :
    Resolves rules w target (damage rules w target power) :=
  resolves_routeDamage rules target hplain .nil power {}

theorem resolves_land (hplain : isReversed w Stat.reverseDamageTurns = false) (h : Counting es [])
    (attacker : String) (a : Attack) :
    Resolves rules w target (land rules (Edit.run es w) attacker target a) := by
  rw [land]
  split
  · dsimp only
    split
    · have hspent := h.append (counting_spend attacker)
      have hrouted := resolves_routeDamage rules target hplain hspent
      rw [Edit.run_append] at hrouted
      exact hrouted _ _
    · exact resolves_routeDamage rules target hplain h _ _
  · exact resolves_unchanged rules target h {}

theorem resolves_attack (hplain : isReversed w Stat.reverseDamageTurns = false) (attacker : String)
    (a : Attack) : Resolves rules w target (attack rules w attacker target a) := by
  cases hunit : w.unit? target with
  | none =>
    rw [attack, hunit]
    exact resolves_unchanged rules target .nil {}
  | some unit =>
    rw [attack, hunit]
    dsimp only
    split
    · exact resolves_damage hplain a.power
    split
    · exact resolves_unchanged rules target .nil _
    split
    · exact resolves_unchanged rules target .nil {}
    have hcounting := counting_evasion rules attacker target unit
      (evasionOf rules unit (evasionSeed w target unit))
    rw [checkEvasion_eq hunit]
    dsimp only
    split
    · exact .missed hcounting rfl rfl rfl
    · next hhit =>
      rw [evasionTrace, if_neg hhit] at hcounting ⊢
      exact resolves_land hplain hcounting attacker a

/-! ## Amounts -/

/-- The heal that follows a hit is recorded as a plain heal. -/
theorem eq_of_mem_healAfterHit {w : World} {after : Int64} {e : TraceEvent}
    (h : e ∈ (healAfterHit w target after).trace) : ∃ amount, e = .healed target amount {} := by
  rw [healAfterHit] at h
  split at h
  · exact absurd h List.not_mem_nil
  · next unit hunit =>
    dsimp only at h
    split at h
    · rw [outcome_healPlain hunit] at h
      split at h
      · exact absurd h List.not_mem_nil
      · exact ⟨_, List.mem_singleton.1 h⟩
    · exact absurd h List.not_mem_nil

theorem eq_of_mem_fireThreshold {w : World} {before after : Int64} {e : TraceEvent}
    (h : e ∈ (fireThreshold w target before after).1.trace) :
    ∃ skill, e = .thresholdTriggered target skill := by
  rw [fireThreshold] at h
  split at h
  · exact absurd h List.not_mem_nil
  · exact ⟨_, List.mem_singleton.1 h⟩

/-- A hit that lands is recorded once, with the amount that is reported. -/
theorem Resolved.Lands.damaged_mem {before : Int64} (h : r.Lands target before struck) :
    (∃ flags, .damaged target r.report.amount flags ∈ r.outcome.trace) ∧
    ∀ id amount flags, .damaged id amount flags ∈ r.outcome.trace →
      id = target ∧ amount = r.report.amount := by
  obtain ⟨hurt, hit, fired, -, -, houtcome⟩ := h
  have htrace : ∀ e, e ∈ r.outcome.trace ↔ e = .damaged target r.report.amount hit ∨
      e ∈ (healAfterHit hurt target struck.hp).trace ∨
      e ∈ (fireThreshold (healAfterHit hurt target struck.hp).world target before
        struck.hp).1.trace := by
    intro e
    simp only [houtcome, Outcome.andThen, List.mem_append, List.mem_singleton, or_assoc]
  refine ⟨⟨hit, (htrace _).2 (.inl rfl)⟩, fun id amount flags hmem => ?_⟩
  rcases (htrace _).1 hmem with hfirst | hheal | hthreshold
  · cases hfirst
    exact ⟨rfl, rfl⟩
  · obtain ⟨_, heq⟩ := eq_of_mem_healAfterHit hheal
    cases heq
  · obtain ⟨_, heq⟩ := eq_of_mem_fireThreshold hthreshold
    cases heq

/-- Damage that is dealt to a unit, or an attack on it. -/
def IsHit (rules : Rules) (w : World) (target : String) (r : Resolved) : Prop :=
  (∃ power, r = damage rules w target power) ∨ ∃ attacker a, r = attack rules w attacker target a

theorem IsHit.resolves (hplain : isReversed w Stat.reverseDamageTurns = false)
    (h : IsHit rules w target r) : Resolves rules w target r := by
  rcases h with ⟨power, rfl⟩ | ⟨attacker, a, rfl⟩
  · exact resolves_damage hplain power
  · exact resolves_attack hplain attacker a

/-- How a hit ends for a unit with some health: it is spared, or the hit takes the amount that is
reported. That never raises health, unless it was below zero: such a unit ends up at zero. -/
def Suffers (target : String) (hp : Int64) (r : Resolved) : Prop :=
  (r.report.amount = 0 ∧ ∃ last, r.outcome.world.unit? target = some last ∧ last.hp = hp) ∨
    ∃ struck, r.Lands target hp struck ∧ struck.hp.toInt = hp.toInt - r.report.amount.toInt ∧
      (0 ≤ hp.toInt → struck.hp.toInt ≤ hp.toInt) ∧ (hp.toInt < 0 → struck.hp = 0)

/-- A hit that lands: what is left of health, and what is reported of it. -/
theorem amounts_damagePlain (rules : Rules) {power : Int64} (hunit : w.unit? target = some unit)
    (hpower : ¬power ≤ 0) (flags : HitFlags) :
    let r := damagePlain rules w target power flags
    0 ≤ r.report.absorbed.toInt ∧ (r.report.amount.toInt < 0 ↔ unit.hp.toInt < 0) ∧
      Suffers target unit.hp r := by
  intro r
  have hlands : r.Lands target unit.hp (struckBy rules target unit power) :=
    lands_damagePlain rules hunit hpower flags
  have habsorbed : r.report.absorbed = (impact rules unit power).absorbed :=
    absorbed_damagePlain rules hunit hpower flags
  have hamount : r.report.amount.toInt = unit.hp.toInt - (impact rules unit power).after.toInt :=
    toInt_amount_damagePlain rules hunit hpower flags
  have hnonneg := impact_after_nonneg rules unit power
  have hle := impact_after_le rules unit hpower
  have hsoaked := toInt_absorbed rules unit power
  rw [not_le_zero_iff] at hpower
  refine ⟨?_, ?_, .inr ⟨_, hlands, ?_, fun hhp => ?_, fun hhp => Int64.toInt_inj.1 ?_⟩⟩
  · rw [habsorbed, hsoaked]
    omega
  · omega
  · rw [hp_struckBy]
    omega
  · rw [hp_struckBy]
    omega
  · rw [hp_struckBy, Int64.toInt_zero]
    omega

/-- While damage is not reversed, no hit absorbs a negative amount, and what is recorded of it is
what is reported. The amount is negative exactly if the hit lands on a unit whose health is below
zero: that unit is raised to zero, and every other one keeps its health or loses some. -/
theorem amount_neg_iff (rules : Rules) (hplain : isReversed w Stat.reverseDamageTurns = false)
    (h : IsHit rules w target r) :
    0 ≤ r.report.absorbed.toInt ∧
    (∀ id amount flags, .damaged id amount flags ∈ r.outcome.trace →
      id = target ∧ amount = r.report.amount) ∧
    (r.report.amount.toInt < 0 ↔ ∃ unit, w.unit? target = some unit ∧ unit.hp.toInt < 0 ∧
      ∃ flags, .damaged target r.report.amount flags ∈ r.outcome.trace) ∧
    ∀ unit, w.unit? target = some unit → Suffers target unit.hp r := by
  cases h.resolves hplain with
  | missed hcounting hworld hamount habsorbed =>
    have hnone : ∀ id amount flags, .damaged id amount flags ∉ r.outcome.trace := by
      intro id amount flags hmem
      obtain ⟨attacker, defender, hevaded⟩ := hcounting.trace _ hmem
      exact TraceEvent.noConfusion hevaded
    refine ⟨Int.le_of_eq (by rw [habsorbed, Int64.toInt_zero]),
      fun id amount flags hmem => absurd hmem (hnone id amount flags), ?_, fun unit hunit => ?_⟩
    · rw [hamount, Int64.toInt_zero]
      refine iff_of_false (Int.lt_irrefl 0) ?_
      rintro ⟨-, -, -, flags, hmem⟩
      rw [← hamount] at hmem
      exact hnone _ _ _ hmem
    · rw [Suffers, hworld]
      exact .inl ⟨hamount, hcounting.hp_run hunit⟩
  | @landed es struck power flags hcounting hstruck hpower =>
    obtain ⟨first, hfirst, hhp⟩ := hcounting.hp_of_run hstruck
    obtain ⟨habsorbed, hneg, hsuffers⟩ := amounts_damagePlain rules hstruck hpower flags
    obtain ⟨hmem, honly⟩ := (lands_damagePlain rules hstruck hpower flags).damaged_mem
    rw [← hhp] at hneg hsuffers
    refine ⟨habsorbed, honly, hneg.trans ⟨fun hbelow => ⟨first, hfirst, hbelow, hmem⟩, ?_⟩, ?_⟩
    · rintro ⟨unit, hunit, hbelow, -⟩
      cases hfirst.symm.trans hunit
      exact hbelow
    · intro unit hunit
      cases hfirst.symm.trans hunit
      exact hsuffers

/-- An attack that a shield softens, on a unit whose health is not below zero. -/
theorem amount_neg_iff_bob :
    let w := (Edit.set (.unit "bob") Stat.evadeCharges (.int 0)).apply arena
    let r := attack {} w "ann" "bob" ⟨.physical, 2, 0.0⟩
    isReversed w Stat.reverseDamageTurns = false ∧ IsHit {} w "bob" r ∧
      0 ≤ r.report.absorbed.toInt ∧ ¬r.report.amount.toInt < 0 := by
  intro w r
  have hplain : isReversed w Stat.reverseDamageTurns = false := by decide
  have hhit : IsHit {} w "bob" r := .inr ⟨"ann", _, rfl⟩
  have hhp : ∀ unit ∈ w.unit? "bob", ¬unit.hp.toInt < 0 := by decide
  obtain ⟨habsorbed, -, hneg, -⟩ := amount_neg_iff {} hplain hhit
  refine ⟨hplain, hhit, habsorbed, fun hamount => ?_⟩
  obtain ⟨unit, hunit, hbelow, -⟩ := hneg.1 hamount
  exact hhp unit hunit hbelow

/-- A unit whose health is below zero is raised to zero by a hit, and the amount is negative. -/
theorem damage_raises_below_zero :
    let w := (Edit.set (.unit "cid") Stat.hp (.int (-5))).apply arena
    let r := damage {} w "cid" 1
    isReversed w Stat.reverseDamageTurns = false ∧ r.report.amount = -5 ∧
      r.outcome.trace = [.damaged "cid" (-5) {}] ∧
      (w.unit? "cid").map Bag.hp = some (-5) ∧
      (r.outcome.world.unit? "cid").map Bag.hp = some 0 := by
  decide +kernel

end Combat

end Skirmish
