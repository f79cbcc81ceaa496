import Skirmish.Proofs.Upkeep.Statuses

/-!
# Damage over time

An affliction is a status that does damage as it counts down, the last time before it goes. On a
unit that nothing protects from it, and whose health nothing else in upkeep changes (`Exposed`), a
whole upkeep does just that: as long as turns are left it takes the amount from health and one turn
from the affliction (`has_unitUpkeep_bears`), and if health is gone the unit is gone
(`bears_run`).
-/

namespace Skirmish.Upkeep

/-- An affliction as a status; how much it does ends with it. -/
def ofAffliction (a : Affliction) : Stat.TimedStatus :=
  { counter := a.turns, tag := a.tag, companion? := some a.amount }

/-- What would keep the damage of an affliction from a unit, heal it, or add to it. -/
def interferers (a : Affliction) : List String :=
  [Stat.shield, Stat.undyingTurns, Stat.onDamageHealTurns] ++
    (afflictions.filter (· ≠ a)).map Affliction.turns

/-- In upkeep, nothing but one affliction has to do with the health of a unit. -/
structure Exposed (a : Affliction) (unit : Bag) : Prop where
  idle : ∀ name ∈ interferers a, (unit.int name).toInt ≤ 0
  no_regen : unit.int Stat.hpRegen = 0
  no_change : ∀ name, unit.get? (Stat.perTurn ++ name) = none

/-- An exposed unit with some health, and an affliction with some turns left. -/
structure Bears (a : Affliction) (first : Bag) (hp : Int) (left : Nat) (unit : Bag) : Prop
    extends Exposed a unit where
  hp_eq : unit.hp.toInt = hp
  lasts : Lasts (ofAffliction a) first left unit

variable {a : Affliction} {id : String} {first unit last : Bag} {hp : Int} {left : Nat} {w : World}

theorem perTurn_append_ne {plain : String} (h : afterPrefix? Stat.perTurn plain = none)
    (name : String) : Stat.perTurn ++ name ≠ plain :=
  changeOf_succ_ne h 0 name

theorem Exposed.isActive_eq_false (h : Exposed a unit) {name : String}
    (hname : name ∈ interferers a) : unit.isActive name = false := by
  have hidle := h.idle name hname
  rw [Bag.isActive, decide_eq_false_iff_not, Int64.lt_iff_toInt_lt, Int64.toInt_zero]
  omega

theorem Exposed.changes_eq_nil (h : Exposed a unit) : changes unit = [] := by
  refine List.eq_nil_iff_forall_not_mem.2 fun change hchange => ?_
  have hsome := get?_of_mem_changes hchange
  rw [h.no_change] at hsome
  cases hsome

/-! ## What does not concern the affliction -/

/-- Plain variables other than the rate of regeneration may change. -/
theorem Exposed.of_touched (h : Exposed a unit) {touched : List String}
    (hplain : ∀ name ∈ touched, afterPrefix? Stat.perTurn name = none)
    (hregen : Stat.hpRegen ∉ touched)
    (hsame : ∀ name, name ∉ touched → last.get? name = unit.get? name)
    (hidle : ∀ name ∈ interferers a, (last.int name).toInt ≤ 0) : Exposed a last := by
  refine ⟨hidle, ?_, fun name => ?_⟩
  · rw [Bag.int_congr (hsame _ hregen)]
    exact h.no_regen
  · have hspared : Stat.perTurn ++ name ∉ touched := fun hmem =>
      perTurn_append_ne (hplain _ hmem) name rfl
    rw [hsame _ hspared]
    exact h.no_change name

/-- Plain variables may change that have nothing to do with the affliction. -/
theorem Bears.of_touched (h : Bears a first hp left unit) {touched : List String}
    (hplain : ∀ name ∈ touched, afterPrefix? Stat.perTurn name = none)
    (hother : ∀ name ∈ Stat.hpRegen :: (ofAffliction a).vars, name ∉ touched)
    (hsame : ∀ name, name ∉ touched → last.get? name = unit.get? name)
    (htag : last.hasTag a.tag = unit.hasTag a.tag) (hhp : last.hp = unit.hp)
    (hidle : ∀ name ∈ interferers a, (last.int name).toInt ≤ 0) : Bears a first hp left last := by
  have hregen : Stat.hpRegen ∉ touched := hother Stat.hpRegen List.mem_cons_self
  refine ⟨h.toExposed.of_touched hplain hregen hsame hidle, hhp ▸ h.hp_eq,
    h.lasts.congr (fun name hname => ?_) htag⟩
  exact hsame name (hother name (List.mem_cons_of_mem _ hname))

theorem Bears.keep (ha : a ∈ afflictions) (h : Bears a first hp left unit) (id : String) :
    Bears a first hp left ((Place.unit id).keep unit) := by
  have hother : ∀ a ∈ afflictions, ∀ name ∈ Stat.hpRegen :: (ofAffliction a).vars,
      name ∉ [Stat.hp] := by decide
  refine h.of_touched (by decide) (hother a ha) (fun name hname => ?_) (Place.hasTag_keep ..)
    (Place.hp_keep ..) fun name hname => ?_
  · exact Place.get?_keep_of_ne _ _ fun heq => hname (List.mem_singleton.2 heq)
  · rw [Place.int_keep]
    exact h.idle name hname

/-- A counter that does not run is not set going by counting down. -/
theorem idle_tickStatus {name : String} (h : (unit.int name).toInt ≤ 0) (id : String)
    (status : Stat.TimedStatus) : ((tickStatus id status unit).1.int name).toInt ≤ 0 := by
  rcases tickStatus_cases id status unit with ⟨-, heq⟩ | ⟨hruns, heq⟩ | ⟨-, ended, _, hended, heq⟩
  · rw [heq]
    exact h
  · have hne : name ≠ status.counter := by
      rintro rfl
      omega
    rw [heq, Bag.int_set, if_neg hne]
    exact h
  · rw [heq, Bag.int, hended.get?_eq]
    split
    · exact Int.le_refl 0
    · exact h

theorem idle_tickStatuses {name : String} (h : (unit.int name).toInt ≤ 0) (id : String)
    (statuses : List Stat.TimedStatus) :
    ((tickStatuses id statuses unit).1.int name).toInt ≤ 0 := by
  induction statuses generalizing unit with
  | nil => exact h
  | cons status statuses ih => exact ih (idle_tickStatus h id status)

theorem Bears.tickStatuses (ha : a ∈ afflictions) (h : Bears a first hp left unit) (id : String) :
    Bears a first hp left (tickStatuses id Stat.timedStatuses unit).1 := by
  let touched := Stat.timedStatuses.flatMap Stat.TimedStatus.vars
  have hplain : ∀ name ∈ touched, afterPrefix? Stat.perTurn name = none := by decide
  have hother : ∀ a ∈ afflictions, ∀ name ∈ Stat.hpRegen :: (ofAffliction a).vars,
      name ∉ touched := by decide
  have htag : ∀ a ∈ afflictions, ∀ status ∈ Stat.timedStatuses, a.tag ≠ status.tag := by decide
  have hsame : ∀ name, name ∉ touched →
      (Upkeep.tickStatuses id Stat.timedStatuses unit).1.get? name = unit.get? name := by
    intro name hname
    refine get?_tickStatuses (fun status hstatus hvar => hname ?_) id unit
    exact List.mem_flatMap.2 ⟨status, hstatus, hvar⟩
  refine h.of_touched hplain (hother a ha) hsame (hasTag_tickStatuses (htag a ha) id unit) ?_
    fun name hname => idle_tickStatuses (h.idle name hname) id Stat.timedStatuses
  exact Bag.int_congr (hsame Stat.hp (by decide))

theorem regen_of_zero {rateName : String} (h : unit.int rateName = 0) (id vital maxName : String) :
    regen id vital maxName rateName unit = (unit, []) := by
  unfold regen
  simp only [h, true_or, if_true]

/-- Only magic can regenerate. -/
theorem Bears.regenerate (ha : a ∈ afflictions) (h : Bears a first hp left unit) (id : String) :
    Bears a first hp left (regenerate id unit).1 := by
  have hother : ∀ a ∈ afflictions, (∀ name ∈ Stat.hpRegen :: (ofAffliction a).vars,
      name ∉ [Stat.mp]) ∧ Stat.mp ∉ interferers a := by decide
  let raised := (regen id Stat.mp Stat.maxMp Stat.mpRegen unit).1
  have hsame : ∀ name, name ∉ [Stat.mp] → raised.get? name = unit.get? name := fun name hname =>
    get?_regen (fun heq => hname (List.mem_singleton.2 heq)) id Stat.maxMp Stat.mpRegen unit
  have hraised : Bears a first hp left raised := by
    refine h.of_touched (by decide) (hother a ha).1 hsame (hasTag_regen ..) ?_ fun name hname => ?_
    · exact Bag.int_congr (hsame Stat.hp (by decide))
    · have hne : name ∉ [Stat.mp] := fun hmem =>
        (hother a ha).2 (List.mem_singleton.1 hmem ▸ hname)
      rw [Bag.int_congr (hsame name hne)]
      exact h.idle name hname
  rw [regenerate_eq, regen_of_zero hraised.no_regen]
  exact hraised

theorem Bears.applyChanges (h : Bears a first hp left unit) (rules : Rules) :
    Bears a first hp left (applyChanges rules unit) := by
  rw [Upkeep.applyChanges, h.changes_eq_nil]
  exact h

/-! ## Damage -/

/-- A unit after a hit that nothing softened, and that nothing but a threshold follows. -/
structure Struck (unit : Bag) (loss : Int) (last : Bag) : Prop where
  hp_eq : last.hp.toInt = max (unit.hp.toInt - loss) 0
  get?_eq : ∀ name, name ≠ Stat.hp → last.get? name = unit.get? name
  hasTag_eq : ∀ tag, afterPrefix? Stat.thresholdFiredFamily tag = none →
    last.hasTag tag = unit.hasTag tag

/-- The hit itself. -/
theorem struck_onBag (hexposed : Exposed a unit) (rules : Rules) {amount : Int64}
    (hamount : ¬amount ≤ 0) (id : String) :
    Struck unit amount.toInt
      ((Place.unit id).keep ((Combat.impact rules unit amount).onBag unit)) := by
  have hshield : (unit.int Stat.shield).toInt ≤ 0 := hexposed.idle Stat.shield (by simp [interferers])
  have hundying : unit.isActive Stat.undyingTurns = false :=
    hexposed.isActive_eq_false (by simp [interferers])
  have habsorbed : ¬0 < (Combat.impact rules unit amount).absorbed := by
    rw [Int64.le_iff_toInt_le, Int64.toInt_zero] at hamount
    simp only [Combat.impact, Int64.lt_iff_toInt_lt, Saturating.toInt_min, Saturating.toInt_max,
      Int64.toInt_zero]
    omega
  refine ⟨?_, fun name hname => ?_, fun tag _ => ?_⟩
  · rw [Place.hp_keep, Combat.Impact.hp_onBag]
    exact Combat.toInt_impact_after_of_bare rules hshield hundying hamount
  · rw [Place.get?_keep_of_ne _ _ hname, Combat.Impact.onBag, if_neg habsorbed, Bag.get?_set,
      if_neg hname]
  · rw [Place.hasTag_keep, Combat.Impact.hasTag_onBag]

/-- A threshold may be marked after the hit. -/
theorem Struck.tag {loss : Int} (h : Struck unit loss last) (skill id : String) :
    Struck unit loss ((Place.unit id).keep (last.tag (Stat.thresholdFired skill))) := by
  refine ⟨?_, fun name hname => ?_, fun tag htag => ?_⟩
  · rw [Place.hp_keep]
    exact h.hp_eq
  · rw [Place.get?_keep_of_ne _ _ hname, Bag.get?_tag]
    exact h.get?_eq name hname
  · have hmark : tag ≠ Stat.thresholdFired skill := (thresholdFired_ne_tag htag).symm
    rw [Place.hasTag_keep, Bag.hasTag_tag, beq_false_of_ne hmark, Bool.false_or]
    exact h.hasTag_eq tag htag

theorem struck_damage (hunit : w.unit? id = some unit) (hexposed : Exposed a unit)
    (hplain : Combat.isReversed w Stat.reverseDamageTurns = false) (hhp : 0 < unit.hp.toInt)
    (rules : Rules) {amount : Int64} (hamount : 0 ≤ amount.toInt) :
    (Combat.damage rules w id amount).outcome.world.Has id (Struck unit amount.toInt) := by
  rw [Combat.damage, Combat.routeDamage, hplain, if_neg Bool.false_ne_true]
  by_cases hnone : amount ≤ 0
  · rw [Combat.outcome_damagePlain_of_nonpos hnone]
    rw [Int64.le_iff_toInt_le, Int64.toInt_zero] at hnone
    exact ⟨unit, hunit, by omega, fun _ _ => rfl, fun _ _ => rfl⟩
  · let i := Combat.impact rules unit amount
    let hit := w.updateUnit id i.onBag
    let struck := (Place.unit id).keep (i.onBag unit)
    have hstruck : Struck unit amount.toInt struck := struck_onBag hexposed rules hnone id
    have hhit : hit.unit? id = some struck := World.unit?_updateUnit_self hunit i.onBag
    have hheal : Combat.healAfterHit hit id i.after = ⟨hit, []⟩ := by
      have hidle : struck.isActive Stat.onDamageHealTurns = false := by
        rw [Bag.isActive_congr (hstruck.get?_eq _ (by decide))]
        exact hexposed.isActive_eq_false (by simp [interferers])
      rw [Combat.healAfterHit, hhit]
      simp only [hidle, Bool.false_eq_true, false_and, and_false, if_false]
    rw [Combat.outcome_damagePlain hunit hnone, Combat.Impact.strike, Combat.Impact.run_edits]
    show (Combat.fireThreshold (Combat.healAfterHit hit id i.after).world id unit.hp
      i.after).1.world.Has id (Struck unit amount.toInt)
    rw [hheal, Combat.fireThreshold, hhit, Option.bind_some]
    cases Combat.triggered? struck unit.hp i.after with
    | none => exact ⟨struck, hhit, hstruck⟩
    | some skill => exact ⟨_, World.unit?_updateUnit_self hhit _, hstruck.tag skill id⟩

/-! ## Suffering -/

theorem suffer_of_idle (hunit : w.unit? id = some unit) (hidle : (unit.int a.turns).toInt ≤ 0)
    (rules : Rules) : suffer rules id a w = ⟨w, []⟩ := by
  have hover : unit.int a.turns ≤ 0 := Int64.le_iff_toInt_le.2 hidle
  simp only [suffer, hunit, if_pos hover]

/-- The other afflictions of the unit do nothing. -/
theorem suffer_other {b : Affliction} (hb : b ∈ afflictions) (hne : b ≠ a) (rules : Rules)
    (h : w.Has id (Bears a first hp left)) : suffer rules id b w = ⟨w, []⟩ := by
  obtain ⟨unit, hunit, hbears⟩ := h
  refine suffer_of_idle hunit (hbears.idle b.turns ?_) rules
  exact List.mem_append_right _ (List.mem_map_of_mem (List.mem_filter.2 ⟨hb, decide_eq_true hne⟩))

theorem has_fold_suffer_others (rules : Rules) {list : List Affliction}
    (hlist : list ⊆ afflictions) (hmem : a ∉ list) (h : w.Has id (Bears a first hp left)) :
    (Passage.fold (suffer rules id) list w).world.Has id (Bears a first hp left) := by
  induction list generalizing w with
  | nil => exact h
  | cons b list ih =>
    obtain ⟨hb, hrest⟩ := List.cons_subset.1 hlist
    have hne : b ≠ a := fun heq => hmem (heq ▸ List.mem_cons_self)
    rw [Passage.fold, Passage.world_andThen, suffer_other hb hne rules h]
    exact ih hrest (fun hlater => hmem (List.mem_cons_of_mem b hlater)) h

/-- Doing its damage, an affliction counts down as a status does. -/
theorem countDown_eq_tickStatus {left : Int64} (hturns : unit.int a.turns = left)
    (hleft : 0 < left.toInt) (id : String) :
    a.countDown left unit = (tickStatus id (ofAffliction a) unit).1 := by
  have hover : ¬left ≤ 0 := by
    rw [Int64.le_iff_toInt_le, Int64.toInt_zero]
    omega
  unfold Affliction.countDown tickStatus ofAffliction
  simp only [hturns, if_neg hover]
  split <;> rfl

theorem Bears.struck (ha : a ∈ afflictions) (h : Bears a first hp left unit) {loss : Int}
    (hstruck : Struck unit loss last) : Bears a first (max (hp - loss) 0) left last := by
  have hnames : ∀ a ∈ afflictions, Stat.hp ∉ interferers a ∧ Stat.hp ∉ (ofAffliction a).vars ∧
      afterPrefix? Stat.thresholdFiredFamily a.tag = none := by decide
  obtain ⟨hidle, hvars, htag⟩ := hnames a ha
  have hplain : ∀ name ∈ [Stat.hp], afterPrefix? Stat.perTurn name = none := by decide
  have hsame : ∀ name, name ∉ [Stat.hp] → last.get? name = unit.get? name := fun name hname =>
    hstruck.get?_eq name fun heq => hname (List.mem_singleton.2 heq)
  refine ⟨h.toExposed.of_touched hplain (by decide) hsame fun name hname => ?_,
    h.hp_eq ▸ hstruck.hp_eq, h.lasts.congr (fun name hname => ?_) (hstruck.hasTag_eq a.tag htag)⟩
  · rw [Bag.int_congr (hstruck.get?_eq name fun heq => hidle (heq ▸ hname))]
    exact h.idle name hname
  · exact hstruck.get?_eq name fun heq => hvars (heq ▸ hname)

theorem Bears.countDown (ha : a ∈ afflictions) (h : Bears a first hp left unit) (hleft : 0 < left)
    {turns : Int64} (hturns : turns.toInt = left) :
    Bears a first hp (left - 1) (a.countDown turns unit) := by
  have hvars : ∀ a ∈ afflictions, (ofAffliction a).vars.Nodup ∧
      Stat.hp ∉ (ofAffliction a).vars ∧ Stat.hpRegen ∉ (ofAffliction a).vars ∧
      ∀ name ∈ (ofAffliction a).vars, afterPrefix? Stat.perTurn name = none := by decide
  obtain ⟨hown, hhp, hregen, hplain⟩ := hvars a ha
  have hcounter : unit.int a.turns = turns :=
    Int64.toInt_inj.1 (h.lasts.toInt_counter.trans hturns.symm)
  rw [countDown_eq_tickStatus hcounter (by omega) ""]
  have hexposed : Exposed a (tickStatus "" (ofAffliction a) unit).1 :=
    h.toExposed.of_touched hplain hregen (fun name hname => get?_tickStatus hname "" unit)
      fun name hname => idle_tickStatus (h.idle name hname) "" (ofAffliction a)
  refine ⟨hexposed, ?_, lasts_tickStatus hown h.lasts ""⟩
  rw [Bag.hp, Bag.int_congr (get?_tickStatus hhp "" unit)]
  exact h.hp_eq

/-- What an affliction takes from health, which is nothing when it is over. -/
def bite (a : Affliction) (first : Bag) (left : Nat) : Int :=
  if 0 < left then (first.int a.amount).toInt else 0

section

variable (ha : a ∈ afflictions) (hamount : 0 ≤ (first.int a.amount).toInt) (hhp : 0 < hp)
  (rules : Rules)

include ha hamount hhp

theorem has_suffer_bears (hplain : Combat.isReversed w Stat.reverseDamageTurns = false)
    (h : w.Has id (Bears a first hp left)) :
    (suffer rules id a w).world.Has id
      (Bears a first (max (hp - bite a first left) 0) (left - 1)) := by
  obtain ⟨unit, hunit, hbears⟩ := h
  have hturns : (unit.int a.turns).toInt = left := hbears.lasts.toInt_counter
  by_cases hleft : 0 < left
  · have hsame : unit.int a.amount = first.int a.amount :=
      Bag.int_congr ((hbears.lasts.running hleft).2.2 a.amount rfl)
    have hpos : 0 < unit.hp.toInt := hbears.hp_eq ▸ hhp
    have hruns : ¬unit.int a.turns ≤ 0 := by
      rw [Int64.le_iff_toInt_le, Int64.toInt_zero]
      omega
    have hdamaged := struck_damage hunit hbears.toExposed hplain hpos rules hamount
    obtain ⟨hurt, hhurt, hstruck⟩ := hdamaged
    have hcounted := (hbears.struck ha hstruck).countDown ha hleft hturns
    simp only [suffer, hunit, if_neg hruns, hsame]
    rw [bite, if_pos hleft]
    exact ⟨_, World.unit?_updateUnit_self hhurt _, hcounted.keep ha id⟩
  · have hover : left = 0 := by omega
    subst hover
    have hsame : max (hp - bite a first 0) 0 = hp := by
      rw [bite, if_neg hleft]
      omega
    rw [suffer_of_idle hunit (by omega), hsame]
    exact ⟨unit, hunit, hbears⟩

theorem has_fold_suffer_bears {list : List Affliction} (hnodup : list.Nodup)
    (hlist : list ⊆ afflictions) (hmem : a ∈ list)
    (hplain : Combat.isReversed w Stat.reverseDamageTurns = false)
    (h : w.Has id (Bears a first hp left)) :
    (Passage.fold (suffer rules id) list w).world.Has id
      (Bears a first (max (hp - bite a first left) 0) (left - 1)) := by
  induction list with
  | nil => exact absurd hmem List.not_mem_nil
  | cons b list ih =>
    obtain ⟨hfresh, hnodup⟩ := List.nodup_cons.1 hnodup
    obtain ⟨hb, hrest⟩ := List.cons_subset.1 hlist
    rw [Passage.fold, Passage.world_andThen]
    by_cases hsame : b = a
    · subst hsame
      exact has_fold_suffer_others rules hrest hfresh
        (has_suffer_bears hb hamount hhp rules hplain h)
    · rw [suffer_other hb hsame rules h]
      exact ih hnodup hrest ((List.mem_cons.1 hmem).resolve_left (Ne.symm hsame))

/-- Upkeep of a unit that bears an affliction is nothing but what the affliction does. -/
theorem has_unitUpkeep_bears (hplain : Combat.isReversed w Stat.reverseDamageTurns = false)
    (h : w.Has id (Bears a first hp left)) :
    (unitUpkeep rules id w).world.Has id
      (Bears a first (max (hp - bite a first left) 0) (left - 1)) := by
  have hglobal : ∀ (step : Bag → Bag × List Entry) (w : World),
      Combat.isReversed w Stat.reverseDamageTurns = false →
      Combat.isReversed (onUnit id step w).world Stat.reverseDamageTurns = false := by
    intro step w hw
    rw [Combat.isReversed, (onUnit_personal id step).global_eq]
    exact hw
  have hticked := has_onUnit h fun unit hbears => (hbears.tickStatuses ha id).keep ha id
  rw [unitUpkeep, Passage.world_andThen]
  obtain ⟨ticked, hunit, hbears⟩ := hticked
  have halive : ticked.isAlive = true := by
    have hhp' := hbears.hp_eq
    rw [Bag.isAlive, decide_eq_true_eq, Int64.lt_iff_toInt_lt, Int64.toInt_zero]
    omega
  rw [hunit, Option.map_some, Option.getD_some, if_pos halive]
  have hregenerated := has_onUnit ⟨ticked, hunit, hbears⟩ fun unit hbears =>
    (hbears.regenerate ha id).keep ha id
  have hchanged : (onUnit id (fun unit => (applyChanges rules unit, []))
      (onUnit id (regenerate id) _).world).world.Has id (Bears a first hp left) :=
    has_onUnit hregenerated fun unit hbears => (hbears.applyChanges rules).keep ha id
  rw [live, Passage.world_andThen, Passage.world_andThen]
  refine has_fold_suffer_bears ha hamount hhp rules (by decide) (List.Subset.refl _) ha ?_ hchanged
  exact hglobal _ _ (hglobal _ _ (hglobal _ w hplain))

/-- The end of a turn takes the bite from health; without any left, the unit is gone. -/
theorem bears_run (hplain : Combat.isReversed w Stat.reverseDamageTurns = false)
    (h : w.Has id (Bears a first hp left)) :
    (bite a first left < hp →
      (run rules w).world.Has id (Bears a first (hp - bite a first left) (left - 1))) ∧
    (hp ≤ bite a first left → (run rules w).world.unit? id = none) := by
  obtain ⟨last, hlast, hbears⟩ := has_unitUpkeep_bears ha hamount hhp rules hplain h
  have hhp' := hbears.hp_eq
  have halive : last.isAlive = decide (0 < last.hp.toInt) := by
    rw [Bag.isAlive, decide_eq_decide, Int64.lt_iff_toInt_lt, Int64.toInt_zero]
  constructor
  · intro hsurvives
    have hleft : max (hp - bite a first left) 0 = hp - bite a first left := by omega
    refine ⟨last, ?_, hleft ▸ hbears⟩
    rw [unit?_run, hlast, Option.filter_some, halive, decide_eq_true (by omega), if_pos rfl]
  · intro hdies
    rw [unit?_run, hlast, Option.filter_some, halive, decide_eq_false (by omega),
      if_neg Bool.false_ne_true]

end

/-- Damage is not reversed by the end of a turn. -/
theorem isReversed_run (rules : Rules) (h : Combat.isReversed w Stat.reverseDamageTurns = false) :
    Combat.isReversed (run rules w).world Stat.reverseDamageTurns = false := by
  simp only [Combat.isReversed, Bag.isActive, decide_eq_false_iff_not, Int64.lt_iff_toInt_lt,
    Int64.toInt_zero, Int.not_lt] at h ⊢
  rw [global_run rules "" w]
  exact idle_tickStatuses h "" _

end Skirmish.Upkeep
