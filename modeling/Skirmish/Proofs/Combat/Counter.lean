import Skirmish.Proofs.Combat.Resolving
import Skirmish.Proofs.Combat.Strike
import Skirmish.Proofs.Combat.Victims

/-!
# A pending counter is spent once

Who has evaded has a multiplier pending, and the first of its strikes that lands is told as a
counter and takes it away (`Strike.resolve_of_lands`). Strikes that do not land leave it as it is
(`Strike.resolve_of_not_lands`), and once it is gone none of the strikes that follow is a counter.
-/

namespace Skirmish

namespace Combat

/-- Whether a hit is a counter, told alike by its report and by what is recorded of it. -/
structure Resolved.Counters (r : Resolved) (counter : Bool) : Prop where
  report : r.report.flags.counter = counter
  damaged : ∀ {id amount flags}, .damaged id amount flags ∈ r.outcome.trace →
    flags.counter = counter
  healed : ∀ {id amount flags}, .healed id amount flags ∈ r.outcome.trace →
    flags.counter = true → counter = true

variable {rules : Rules} {w : World} {target : String}

/-! ## Hits -/

theorem counters_unchanged (w : World) (target : String) (flags : HitFlags) :
    (Resolved.unchanged w target flags).Counters flags.counter :=
  ⟨rfl, fun hmem => absurd hmem List.not_mem_nil, fun hmem => absurd hmem List.not_mem_nil⟩

theorem counters_healPlain (w : World) (target : String) (amount : Int64) (flags : HitFlags) :
    (healPlain w target amount flags).Counters flags.counter := by
  rw [healPlain]
  split
  · exact counters_unchanged w target flags
  · dsimp only
    split
    · exact counters_unchanged w target flags
    split
    · exact counters_unchanged w target { flags with blocked := true }
    · refine ⟨rfl, fun hmem => TraceEvent.noConfusion (List.mem_singleton.1 hmem), fun hmem => ?_⟩
      cases List.mem_singleton.1 hmem
      exact fun hcounter => hcounter

/-- Neither the heal nor the threshold that follow a hit are told as a counter. -/
theorem Resolved.Lands.counters {r : Resolved} {before : Int64} {struck : Bag}
    (h : r.Lands target before struck) : r.Counters r.report.flags.counter := by
  obtain ⟨hurt, hit, fired, -, hflags, houtcome⟩ := h
  have htrace : ∀ e, e ∈ r.outcome.trace → e = .damaged target r.report.amount hit ∨
      (∃ amount, e = .healed target amount {}) ∨ ∃ skill, e = .thresholdTriggered target skill := by
    intro e he
    simp only [houtcome, Outcome.andThen, List.mem_append, List.mem_singleton, or_assoc] at he
    exact he.imp_right (Or.imp eq_of_mem_healAfterHit eq_of_mem_fireThreshold)
  refine ⟨rfl, fun hmem => ?_, fun hmem hcounter => ?_⟩
  · rcases htrace _ hmem with hfirst | ⟨_, hheal⟩ | ⟨_, hthreshold⟩
    · cases hfirst
      rw [hflags]
    · cases hheal
    · cases hthreshold
  · rcases htrace _ hmem with hfirst | ⟨_, hheal⟩ | ⟨_, hthreshold⟩
    · cases hfirst
    · cases hheal
      cases hcounter
    · cases hthreshold

theorem counters_damagePlain (rules : Rules) (w : World) (target : String) (amount : Int64)
    (flags : HitFlags) : (damagePlain rules w target amount flags).Counters flags.counter := by
  cases hunit : w.unit? target with
  | none =>
    rw [damagePlain, hunit]
    exact counters_unchanged w target flags
  | some unit =>
    by_cases hamount : amount ≤ 0
    · simp only [damagePlain, hunit, if_pos hamount]
      exact counters_unchanged w target flags
    · have hcounters := (lands_damagePlain rules hunit hamount flags).counters
      obtain ⟨fired, hreport⟩ := report_damagePlain rules hunit hamount flags
      rw [hreport] at hcounters
      exact hcounters

theorem counters_routeDamage (rules : Rules) (w : World) (target : String) (amount : Int64)
    (flags : HitFlags) : (routeDamage rules w target amount flags).Counters flags.counter := by
  rw [routeDamage]
  split
  · exact counters_healPlain w target amount { flags with reversed := true }
  · exact counters_damagePlain rules w target amount flags

/-- What can be evaded is a counter exactly if the attacker has a multiplier pending. -/
theorem counter_mitigate_eq {a : Attack} (hkind : a.kind ≠ .true) (rules : Rules)
    (source struck : Bag) :
    (mitigate rules source struck a).2.counter =
      decide (0.0 < source.float Stat.counterMultiplier) := by
  rw [mitigate, if_neg hkind]

/-- A unit whose pending multiplier is gone. -/
def relieved (id : String) (unit : Bag) : Bag :=
  (Place.unit id).keep (unit.unset Stat.counterMultiplier)

theorem get?_relieved (id : String) (unit : Bag) :
    (relieved id unit).get? Stat.counterMultiplier = none := by
  rw [relieved, Place.get?_keep_of_ne _ _ (by decide), Bag.get?_unset, if_pos rfl]

theorem not_pending_relieved (id : String) (unit : Bag) :
    ¬ 0.0 < (relieved id unit).float Stat.counterMultiplier := by
  rw [Bag.float, get?_relieved]
  decide +kernel

/-- An attack on another unit that lands takes a pending multiplier away, and nothing else. -/
theorem counters_land {attacker defender : String} {source struck : Bag} {a : Attack}
    (hkind : a.kind ≠ .true) (hsource : w.unit? attacker = some source)
    (hstruck : w.unit? defender = some struck) (hother : attacker ≠ defender) (rules : Rules) :
    (land rules w attacker defender a).Counters
      (decide (0.0 < source.float Stat.counterMultiplier)) ∧
    (land rules w attacker defender a).outcome.world.unit? attacker =
      some (if 0.0 < source.float Stat.counterMultiplier then relieved attacker source
        else source) := by
  have hflag := counter_mitigate_eq hkind rules source struck
  let damaged := fun w => routeDamage rules w defender (mitigate rules source struck a).1
    (mitigate rules source struck a).2
  have hcounters : ∀ w, (damaged w).Counters
      (decide (0.0 < source.float Stat.counterMultiplier)) := by
    intro w
    rw [← hflag]
    exact counters_routeDamage ..
  have hkept : ∀ w, (damaged w).outcome.world.unit? attacker = w.unit? attacker :=
    fun w => (Upkeep.routeDamage_personal defender rules _ _).unit?_of_ne w hother
  have hland : land rules w attacker defender a =
      damaged (if (mitigate rules source struck a).2.counter then
        w.updateUnit attacker (·.unset Stat.counterMultiplier) else w) := by
    rw [land, hsource, hstruck]
  rw [hland, hflag]
  refine ⟨hcounters _, (hkept _).trans ?_⟩
  by_cases hpending : 0.0 < source.float Stat.counterMultiplier
  · rw [if_pos (decide_eq_true hpending), if_pos hpending]
    exact World.unit?_updateUnit_self hsource _
  · rw [if_neg (ne_true_of_eq_false (decide_eq_false hpending)), if_neg hpending]
    exact hsource

end Combat

namespace Strike

/-- A strike lands: its target is there and within reach, and does not evade. -/
def lands (rules : Rules) (s : Strike) (w : World) : Bool :=
  (w.unit? s.target).any fun unit => !unit.isUntargetable &&
    !(Combat.checkEvasion rules w s.attacker s.target).2.evaded

/-- How many of some strikes land. -/
def landed (rules : Rules) : List Strike → World → Nat
  | [], _ => 0
  | s :: rest, w => (s.lands rules w).toNat + landed rules rest (s.resolve rules w).outcome.world

variable {rules : Rules} {s : Strike} {w : World} {attacker : String} {source unit : Bag}

theorem lands_eq (hunit : w.unit? s.target = some unit) (rules : Rules) :
    s.lands rules w = (!unit.isUntargetable &&
      !(Combat.evasionOf rules unit (Combat.evasionSeed w s.target unit)).evaded) := by
  rw [lands, hunit, Option.any_some, Combat.checkEvasion_eq hunit]

/-- What a unit deals out to others that does not land is no counter and leaves the unit as it is. -/
theorem resolve_of_not_lands (hsource : w.unit? s.attacker = some source)
    (hother : s.target ≠ s.attacker) (h : s.lands rules w = false) :
    (s.resolve rules w).Counters false ∧
      (s.resolve rules w).outcome.world.unit? s.attacker = some source := by
  cases hunit : w.unit? s.target with
  | none =>
    have hnothing : s.resolve rules w = .unchanged w s.target {} := by
      rw [resolve, Combat.attack, hunit]
    rw [hnothing]
    exact ⟨Combat.counters_unchanged w s.target {}, hsource⟩
  | some unit =>
    have hpresent : w.hasUnit s.attacker = true := Option.isSome_of_eq_some hsource
    rw [resolve_eq hunit hpresent]
    by_cases haway : unit.isUntargetable = true
    · rw [if_pos haway]
      exact ⟨Combat.counters_unchanged w s.target { blocked := true }, hsource⟩
    · rw [lands_eq hunit, Bool.eq_false_iff.2 haway, Bool.not_false, Bool.true_and,
        Bool.not_eq_false'] at h
      rw [if_neg haway, if_pos h]
      refine ⟨⟨rfl, fun hmem => ?_, fun hmem => ?_⟩, ?_⟩
      · rw [Combat.evasionTrace, if_pos h] at hmem
        exact TraceEvent.noConfusion (List.mem_singleton.1 hmem)
      · rw [Combat.evasionTrace, if_pos h] at hmem
        exact TraceEvent.noConfusion (List.mem_singleton.1 hmem)
      · have hchecked := Combat.checkEvasion_personal rules s.attacker s.target unit
          (Combat.evasionOf rules unit (Combat.evasionSeed w s.target unit))
        exact (hchecked.unit?_of_ne w hother.symm).trans hsource

/-- A strike on another unit that lands is a counter if a multiplier is pending, and takes it away. -/
theorem resolve_of_lands (hsource : w.unit? s.attacker = some source)
    (hother : s.target ≠ s.attacker) (h : s.lands rules w = true) :
    (s.resolve rules w).Counters (decide (0.0 < source.float Stat.counterMultiplier)) ∧
      (s.resolve rules w).outcome.world.unit? s.attacker =
        some (if 0.0 < source.float Stat.counterMultiplier then Combat.relieved s.attacker source
          else source) := by
  cases hunit : w.unit? s.target with
  | none =>
    rw [lands, hunit] at h
    cases h
  | some unit =>
    have hpresent : w.hasUnit s.attacker = true := Option.isSome_of_eq_some hsource
    rw [lands_eq hunit, Bool.and_eq_true, Bool.not_eq_true', Bool.not_eq_true'] at h
    obtain ⟨htargetable, hhit⟩ := h
    rw [resolve_eq hunit hpresent, if_neg (Bool.eq_false_iff.1 htargetable),
      if_neg (Bool.eq_false_iff.1 hhit), Combat.evasionTrace, if_neg (Bool.eq_false_iff.1 hhit),
      Outcome.silent_andThen]
    have hchecked := Combat.checkEvasion_personal rules s.attacker s.target unit
      (Combat.evasionOf rules unit (Combat.evasionSeed w s.target unit))
    have hsource' := (hchecked.unit?_of_ne w hother.symm).trans hsource
    obtain ⟨struck, hstruck⟩ : ∃ struck,
        (Edit.run (Combat.evasionEdits rules s.target unit
          (Combat.evasionOf rules unit (Combat.evasionSeed w s.target unit))) w).unit? s.target =
        some struck := by
      refine Option.isSome_iff_exists.1 ?_
      exact ((Edit.sameFrame_run _ w).hasUnit s.target).symm.trans (Option.isSome_of_eq_some hunit)
    exact Combat.counters_land s.kind_attack_ne_true hsource' hstruck hother.symm rules

/-- What a unit without a pending multiplier deals out to others is no counter. -/
theorem resolve_of_not_pending (hsource : w.unit? s.attacker = some source)
    (hother : s.target ≠ s.attacker) (hnone : ¬ 0.0 < source.float Stat.counterMultiplier)
    (rules : Rules) :
    (s.resolve rules w).Counters false ∧
      (s.resolve rules w).outcome.world.unit? s.attacker = some source := by
  cases hlands : s.lands rules w with
  | false => exact resolve_of_not_lands hsource hother hlands
  | true =>
    have hlanded := resolve_of_lands hsource hother hlands
    rwa [if_neg hnone, decide_eq_false hnone] at hlanded

/-! ## Many strikes -/

/-- The counter that a unit has pending. -/
def pending? (w : World) (id : String) : Option Value :=
  (w.unit? id).bind (·.get? Stat.counterMultiplier)

section

variable {strikes : List Strike}
  (haimed : ∀ s ∈ strikes, s.attacker = attacker ∧ s.target ≠ attacker)

include haimed

/-- A unit without a pending counter strikes without one, and stays as it is. -/
theorem run_of_not_pending (hunit : w.unit? attacker = some unit)
    (hnone : ¬ 0.0 < unit.float Stat.counterMultiplier) (rules : Rules) :
    (run rules strikes w).world.unit? attacker = some unit ∧
      (reports rules strikes w).countP (·.flags.counter) = 0 := by
  induction strikes generalizing w with
  | nil => exact ⟨hunit, rfl⟩
  | cons s rest ih =>
    obtain ⟨rfl, hother⟩ := haimed s List.mem_cons_self
    obtain ⟨hcounters, hstays⟩ := resolve_of_not_pending hunit hother hnone rules
    obtain ⟨hunit', hcount⟩ := ih (fun s' hs' => haimed s' (List.mem_cons_of_mem s hs')) hstays
    refine ⟨hunit', ?_⟩
    rw [reports, List.countP_cons, hcounters.report, if_neg Bool.false_ne_true, hcount]

/-- A unit with a pending counter keeps it until a strike lands; that one is told as a counter. -/
theorem run_of_pending (hunit : w.unit? attacker = some unit)
    (hpending : 0.0 < unit.float Stat.counterMultiplier) (rules : Rules) :
    (run rules strikes w).world.unit? attacker =
        some (if landed rules strikes w = 0 then unit else Combat.relieved attacker unit) ∧
      (reports rules strikes w).countP (·.flags.counter) = min 1 (landed rules strikes w) := by
  induction strikes generalizing w with
  | nil => exact ⟨hunit, rfl⟩
  | cons s rest ih =>
    obtain ⟨rfl, hother⟩ := haimed s List.mem_cons_self
    have haimed' : ∀ s' ∈ rest, s'.attacker = s.attacker ∧ s'.target ≠ s.attacker :=
      fun s' hs' => haimed s' (List.mem_cons_of_mem s hs')
    rw [run_cons, reports, List.countP_cons, landed]
    cases hlands : s.lands rules w with
    | false =>
      obtain ⟨hcounters, hstays⟩ := resolve_of_not_lands hunit hother hlands
      obtain ⟨hunit', hcount⟩ := ih haimed' hstays
      rw [hcounters.report, if_neg Bool.false_ne_true, Bool.toNat_false, Nat.zero_add]
      exact ⟨hunit', hcount⟩
    | true =>
      -- From here on nothing is pending any more, whether the later strikes land or not.
      obtain ⟨hcounters, hspent⟩ := resolve_of_lands hunit hother hlands
      rw [if_pos hpending] at hspent
      rw [decide_eq_true hpending] at hcounters
      obtain ⟨hunit', hcount⟩ := run_of_not_pending haimed' hspent
        (Combat.not_pending_relieved s.attacker unit) rules
      rw [hcounters.report, if_pos rfl, hcount, Bool.toNat_true, if_neg (by omega)]
      exact ⟨hunit', by omega⟩

/-- A pending counter is spent once: the first strike on another unit that lands is told as a
counter and takes the multiplier away. The strikes before it leave the multiplier as it is, and none
of those that follow is told as a counter. -/
theorem counter_spent_once (hunit : w.unit? attacker = some unit)
    (hpending : 0.0 < unit.float Stat.counterMultiplier) (rules : Rules) :
    (∀ before s after, strikes = before ++ s :: after →
      let v := (run rules before w).world
      let r := s.resolve rules v
      let first := s.lands rules v && landed rules before w == 0
      r.Counters first ∧
      pending? v attacker = (if landed rules before w = 0 then pending? w attacker else none) ∧
      pending? r.outcome.world attacker = if first then none else pending? v attacker) ∧
    (reports rules strikes w).countP (·.flags.counter) = min 1 (landed rules strikes w) := by
  refine ⟨fun before s after hsplit => ?_, (run_of_pending haimed hunit hpending rules).2⟩
  intro v r first
  obtain ⟨hattacker, hother⟩ : s.attacker = attacker ∧ s.target ≠ attacker :=
    haimed s (hsplit ▸ List.mem_append_right before List.mem_cons_self)
  subst hattacker
  have haimed' : ∀ s' ∈ before, s'.attacker = s.attacker ∧ s'.target ≠ s.attacker :=
    fun s' hs' => haimed s' (hsplit ▸ List.mem_append_left _ hs')
  have hv : v.unit? s.attacker =
      some (if landed rules before w = 0 then unit else Combat.relieved s.attacker unit) :=
    (run_of_pending haimed' hunit hpending rules).1
  have hread : ∀ {u : World} {bag : Bag}, u.unit? s.attacker = some bag →
      pending? u s.attacker = bag.get? Stat.counterMultiplier := by
    intro u bag hu
    rw [pending?, hu, Option.bind_some]
  by_cases hnone : landed rules before w = 0
  · rw [if_pos hnone] at hv ⊢
    have hfirst : first = s.lands rules v := by
      simp only [first, hnone, beq_self_eq_true, Bool.and_true]
    rw [hfirst, hread hv, hread hunit]
    cases hlands : s.lands rules v with
    | false =>
      obtain ⟨hcounters, hstays⟩ := resolve_of_not_lands hv hother hlands
      exact ⟨hcounters, rfl, hread hstays⟩
    | true =>
      obtain ⟨hcounters, hspent⟩ := resolve_of_lands hv hother hlands
      rw [if_pos hpending] at hspent
      rw [decide_eq_true hpending] at hcounters
      exact ⟨hcounters, rfl, (hread hspent).trans (Combat.get?_relieved ..)⟩
  · rw [if_neg hnone] at hv ⊢
    have hfirst : first = false := by
      simp only [first, beq_eq_false_iff_ne.2 hnone, Bool.and_false]
    obtain ⟨hcounters, hstays⟩ := resolve_of_not_pending hv hother
      (Combat.not_pending_relieved s.attacker unit) rules
    rw [hfirst, hread hv, Combat.get?_relieved]
    exact ⟨hcounters, rfl, (hread hstays).trans (Combat.get?_relieved ..)⟩

end

/-- The first strike is evaded, the second is told as a counter, and the third lands without. -/
theorem counter_spent_once_ann :
    let w := (Edit.set (.unit "ann") Stat.counterMultiplier (.float 1.5)).apply arena
    let evaded : Strike := { school := .physical, attacker := "ann", target := "bob", power := 4 }
    let countered : Strike := { evaded with school := .magic }
    let plain : Strike := { evaded with target := "cid" }
    let strikes := [evaded, countered, plain]
    (∀ s ∈ strikes, s.attacker = "ann" ∧ s.target ≠ "ann") ∧
    ∃ unit, w.unit? "ann" = some unit ∧ 0.0 < unit.float Stat.counterMultiplier ∧
      (reports {} strikes w).map (·.flags.counter) = [false, true, false] ∧
      (let v := (run {} [evaded] w).world
        let r := countered.resolve {} v
        let first := countered.lands {} v && landed {} [evaded] w == 0
        r.Counters first ∧
        pending? v "ann" = (if landed {} [evaded] w = 0 then pending? w "ann" else none) ∧
        pending? r.outcome.world "ann" = if first then none else pending? v "ann") ∧
      (reports {} strikes w).countP (·.flags.counter) = min 1 (landed {} strikes w) := by
  intro w evaded countered plain strikes
  obtain ⟨unit, hunit⟩ : ∃ unit, w.unit? "ann" = some unit :=
    Option.isSome_iff_exists.1 (by decide)
  have haimed : ∀ s ∈ strikes, s.attacker = "ann" ∧ s.target ≠ "ann" := by decide
  have hpending : ∀ unit ∈ w.unit? "ann", 0.0 < unit.float Stat.counterMultiplier := by
    decide +kernel
  obtain ⟨hsplit, hcount⟩ := counter_spent_once haimed hunit (hpending unit hunit) {}
  exact ⟨haimed, unit, hunit, hpending unit hunit, by decide +kernel,
    hsplit [evaded] countered [plain] rfl, hcount⟩

end Strike

end Skirmish
