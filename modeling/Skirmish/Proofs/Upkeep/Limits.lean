import Skirmish.Proofs.Combat.Health
import Skirmish.Proofs.Course.Combat
import Skirmish.Proofs.Upkeep.Survivors

/-!
# The limits of health and magic in upkeep

Three steps of upkeep write health: regeneration, the changes per turn, and damage over time, which
heals while damage is reversed. Each stops at the greatest health, or at what there was if that is
more. As long as no change per turn is for the limits themselves, not even through changes of
changes, health and magic stay within what the limits of a unit allow at the beginning
(`withinAt_run`).
-/

namespace Skirmish

namespace Stat

/-- A vital variable, and the one that holds its greatest value. -/
structure Vital where
  name : String
  maxName : String
  deriving DecidableEq

def vitals : List Vital := [⟨hp, maxHp⟩, ⟨mp, maxMp⟩]

/-- The variables that limit the vital ones. -/
def limits : List String := [maxHp, maxMp, capOf hp, capOf mp]

/-- The change per turn of a variable, the change of this change, and so on. -/
def changeOf : Nat → String → String
  | 0, name => name
  | depth + 1, name => perTurn ++ changeOf depth name

/-- Neither a limit nor a change per turn. -/
def IsPlain (name : String) : Prop :=
  Upkeep.afterPrefix? perTurn name = none ∧ name ∉ limits

instance (name : String) : Decidable (IsPlain name) := inferInstanceAs (Decidable (_ ∧ _))

theorem changeOf_ne {name plain : String} (h : IsPlain plain) (hname : name ∈ limits)
    (depth : Nat) : changeOf depth name ≠ plain := by
  rintro rfl
  cases depth with
  | zero => exact h.2 hname
  | succ depth =>
    have hnone := h.1
    rw [changeOf, Upkeep.afterPrefix?_append] at hnone
    cases hnone

theorem isPlain_vital : ∀ v ∈ vitals, IsPlain v.name := by decide

theorem maxName_mem_limits : ∀ v ∈ vitals, v.maxName ∈ limits := by decide

theorem capOf_mem_limits : ∀ v ∈ vitals, capOf v.name ∈ limits := by decide

theorem eq_of_name_eq : ∀ u ∈ vitals, ∀ v ∈ vitals, u.name = v.name → u = v := by decide

end Stat

/-- The vital variables of a unit have greatest values and no other limits, and no change per turn
is for these. -/
structure Bag.Limited (unit : Bag) : Prop where
  contains_max : ∀ v ∈ Stat.vitals, unit.contains v.maxName = true
  no_cap : ∀ v ∈ Stat.vitals, unit.contains (Stat.capOf v.name) = false
  no_change : ∀ name ∈ Stat.limits, ∀ depth, unit.contains (Stat.changeOf (depth + 1) name) = false

/-- It is enough that the changes per turn are for plain variables. -/
theorem Bag.limited_of_changes {unit : Bag}
    (hmax : ∀ v ∈ Stat.vitals, unit.contains v.maxName = true)
    (hcap : ∀ v ∈ Stat.vitals, unit.contains (Stat.capOf v.name) = false)
    (hplain : ∀ change ∈ Upkeep.changes unit, Stat.IsPlain change.1) : unit.Limited := by
  refine ⟨hmax, hcap, fun name hname depth => ?_⟩
  rw [← Bool.not_eq_true, contains_eq_isSome, Option.isSome_iff_exists]
  rintro ⟨value, hvalue⟩
  have hne : Stat.changeOf depth name ≠ "" := Stat.changeOf_ne (by decide) hname depth
  have hchange := hplain _ (Upkeep.mem_changes_of_get? hvalue hne)
  exact Stat.changeOf_ne hchange hname depth rfl

namespace Upkeep

/-- What a vital variable may come to. -/
def ceiling (first : Bag) (v : Stat.Vital) : Int :=
  max (max (first.int v.name).toInt (first.int v.maxName).toInt) 0

/-- A unit has the limits that it had first, and its vital variables are within what those allow. -/
structure Within (first unit : Bag) : Prop where
  kept : ∀ name ∈ Stat.limits, ∀ depth,
    unit.get? (Stat.changeOf depth name) = first.get? (Stat.changeOf depth name)
  vital_le : ∀ v ∈ Stat.vitals, (unit.int v.name).toInt ≤ ceiling first v

variable {first unit last : Bag} {id : String} {w : World}

namespace Within

theorem refl (first : Bag) : Within first first := by
  refine ⟨fun _ _ _ => rfl, fun v _ => ?_⟩
  rw [ceiling]
  omega

theorem int_max (h : Within first unit) {v : Stat.Vital} (hv : v ∈ Stat.vitals) :
    unit.int v.maxName = first.int v.maxName :=
  Bag.int_congr (h.kept v.maxName (Stat.maxName_mem_limits v hv) 0)

theorem contains_max (h : Within first unit) (hfirst : first.Limited) {v : Stat.Vital}
    (hv : v ∈ Stat.vitals) : unit.contains v.maxName = true :=
  (Bag.contains_congr (h.kept v.maxName (Stat.maxName_mem_limits v hv) 0)).trans
    (hfirst.contains_max v hv)

theorem get?_cap (h : Within first unit) (hfirst : first.Limited) {v : Stat.Vital}
    (hv : v ∈ Stat.vitals) : unit.get? (Stat.capOf v.name) = none := by
  have hnone := hfirst.no_cap v hv
  rw [Bag.contains_eq_isSome, Option.isSome_eq_false_iff, Option.isNone_iff_eq_none] at hnone
  exact (h.kept _ (Stat.capOf_mem_limits v hv) 0).trans hnone

theorem get?_change (h : Within first unit) (hfirst : first.Limited) {name : String}
    (hname : name ∈ Stat.limits) (depth : Nat) :
    unit.get? (Stat.perTurn ++ Stat.changeOf depth name) = none := by
  have hnone := hfirst.no_change name hname depth
  rw [Bag.contains_eq_isSome, Option.isSome_eq_false_iff, Option.isNone_iff_eq_none] at hnone
  exact (h.kept name hname (depth + 1)).trans hnone

theorem hp_le (h : Within first unit) :
    unit.hp.toInt ≤ max (max first.hp.toInt first.maxHp.toInt) 0 :=
  h.vital_le ⟨Stat.hp, Stat.maxHp⟩ (by decide)

/-- Plain variables that are not vital may change. -/
theorem of_touched (h : Within first unit) {touched : List String}
    (hplain : ∀ name ∈ touched, Stat.IsPlain name) (hvital : ∀ v ∈ Stat.vitals, v.name ∉ touched)
    (hsame : ∀ name, name ∉ touched → last.get? name = unit.get? name) : Within first last := by
  refine ⟨fun name hname depth => ?_, fun v hv => ?_⟩
  · have hspared : Stat.changeOf depth name ∉ touched := fun hmem =>
      Stat.changeOf_ne (hplain _ hmem) hname depth rfl
    rw [hsame _ hspared]
    exact h.kept name hname depth
  · rw [Bag.int_congr (hsame _ (hvital v hv))]
    exact h.vital_le v hv

theorem keep (h : Within first unit) (id : String) : Within first ((Place.unit id).keep unit) := by
  refine ⟨fun name hname depth => ?_, fun v hv => ?_⟩
  · have hne : Stat.changeOf depth name ≠ Stat.hp := Stat.changeOf_ne (by decide) hname depth
    rw [Place.get?_keep_of_ne _ _ hne]
    exact h.kept name hname depth
  · rw [Place.int_keep]
    exact h.vital_le v hv

end Within

/-! ## Counting down -/

theorem within_tickStatuses (h : Within first unit) (id : String) :
    Within first (tickStatuses id Stat.timedStatuses unit).1 := by
  have hplain : ∀ name ∈ Stat.timedStatuses.flatMap Stat.TimedStatus.vars, Stat.IsPlain name := by
    decide
  refine h.of_touched hplain (by decide) fun name hname => ?_
  refine get?_tickStatuses (fun status hstatus hvar => hname ?_) id unit
  exact List.mem_flatMap.2 ⟨status, hstatus, hvar⟩

theorem within_countDown (h : Within first unit) {a : Affliction} (ha : a ∈ afflictions)
    (left : Int64) : Within first (a.countDown left unit) := by
  have hplain : ∀ a ∈ afflictions, ∀ name ∈ [a.turns, a.amount], Stat.IsPlain name := by decide
  have hvital : ∀ a ∈ afflictions, ∀ v ∈ Stat.vitals, v.name ∉ [a.turns, a.amount] := by decide
  refine h.of_touched (hplain a ha) (hvital a ha) fun name hname => ?_
  simp only [List.mem_cons, List.not_mem_nil, or_false, not_or] at hname
  exact get?_countDown hname.1 hname.2 left unit

/-! ## Regeneration -/

theorem within_regen (hfirst : first.Limited) (h : Within first unit) {v : Stat.Vital}
    (hv : v ∈ Stat.vitals) (id rateName : String) :
    Within first (regen id v.name v.maxName rateName unit).1 := by
  refine ⟨fun name hname depth => ?_, fun u hu => ?_⟩
  · rw [get?_regen (Stat.changeOf_ne (Stat.isPlain_vital v hv) hname depth)]
    exact h.kept name hname depth
  · by_cases huv : u.name = v.name
    · obtain rfl := Stat.eq_of_name_eq u hu v hv huv
      have hle := toInt_regen_le (h.contains_max hfirst hu) id u.name rateName
      have hceiling := h.vital_le u hu
      rw [h.int_max hu] at hle
      rw [ceiling] at hceiling ⊢
      omega
    · rw [Bag.int_congr (get?_regen huv id v.maxName rateName unit)]
      exact h.vital_le u hu

theorem within_regenerate (hfirst : first.Limited) (h : Within first unit) (id : String) :
    Within first (regenerate id unit).1 := by
  rw [regenerate_eq]
  have hmp : ⟨Stat.mp, Stat.maxMp⟩ ∈ Stat.vitals := by decide
  have hhp : ⟨Stat.hp, Stat.maxHp⟩ ∈ Stat.vitals := by decide
  exact within_regen hfirst (within_regen hfirst h hmp id Stat.mpRegen) hhp id Stat.hpRegen

/-! ## Changes per turn -/

theorem toInt_capVital_le {maxName : String} (h : unit.contains maxName = true) (name : String)
    (next : Int64) : (capVital unit name maxName next).toInt ≤
      max (max (unit.int name).toInt (unit.int maxName).toInt) 0 := by
  rw [Bag.contains_eq_isSome] at h
  obtain ⟨cap, hcap⟩ := Option.isSome_iff_exists.1 h
  have hint : unit.int maxName = cap.asInt := by
    rw [Bag.int, hcap]
    rfl
  have hzero : (0 : Int64).toInt = 0 := rfl
  simp only [capVital, hcap, hint, Saturating.toInt_min, Saturating.toInt_max, hzero]
  omega

/-- Without another cap, a vital variable is kept below its greatest value. -/
theorem clampChange_vital (rules : Rules) {v : Stat.Vital} (hv : v ∈ Stat.vitals)
    (hcap : unit.get? (Stat.capOf v.name) = none) (value : Value) :
    clampChange rules unit v.name value = .int (capVital unit v.name v.maxName value.asInt) := by
  have hmp : Stat.mp ≠ Stat.hp := by decide
  rw [clampChange, hcap]
  simp only [Stat.vitals, List.mem_cons, List.not_mem_nil, or_false] at hv
  rcases hv with rfl | rfl
  · rfl
  · exact (if_neg hmp).trans (if_pos rfl)

theorem within_applyChange (hfirst : first.Limited) (h : Within first unit) (rules : Rules)
    {change : String × Value}
    (hchange : ∀ name ∈ Stat.limits, ∀ depth, Stat.changeOf depth name ≠ change.1) :
    Within first (applyChange rules unit change) := by
  refine ⟨fun name hname depth => ?_, fun v hv => ?_⟩
  · rw [get?_applyChange (hchange name hname depth)]
    exact h.kept name hname depth
  · by_cases hvital : v.name = change.1
    · have hceiling := h.vital_le v hv
      let raised := ((unit.get? v.name).getD (.int 0)).add change.2
      have hset : (applyChange rules unit change).int v.name =
          capVital unit v.name v.maxName raised.asInt := by
        rw [applyChange, ← hvital, Bag.int_set, if_pos rfl,
          clampChange_vital rules hv (h.get?_cap hfirst hv)]
        rfl
      have hle := toInt_capVital_le (h.contains_max hfirst hv) v.name raised.asInt
      rw [h.int_max hv] at hle
      rw [hset]
      rw [ceiling] at hceiling ⊢
      omega
    · rw [Bag.int_congr (get?_applyChange hvital rules unit)]
      exact h.vital_le v hv

theorem within_applyChanges (hfirst : first.Limited) (h : Within first unit) (rules : Rules) :
    Within first (applyChanges rules unit) := by
  -- Which variables change is settled before the first of them does.
  have hchanges : ∀ change ∈ changes unit, ∀ name ∈ Stat.limits, ∀ depth,
      Stat.changeOf depth name ≠ change.1 := by
    intro change hchange name hname depth heq
    have hsome := get?_of_mem_changes hchange
    rw [← heq, h.get?_change hfirst hname depth] at hsome
    cases hsome
  rw [applyChanges]
  generalize changes unit = list at hchanges
  induction list generalizing unit with
  | nil => exact h
  | cons change list ih =>
    have hone := within_applyChange hfirst h rules (hchanges change List.mem_cons_self)
    exact ih hone fun c hc => hchanges c (List.mem_cons_of_mem change hc)

theorem within_change (hfirst : first.Limited) {rules : Rules} {change : Bag → Bag}
    (hchange : Change rules id change) (h : Within first unit) : Within first (change unit) := by
  cases hchange with
  | tick => exact within_tickStatuses h id
  | regenerate => exact within_regenerate hfirst h id
  | perTurn => exact within_applyChanges hfirst h rules
  | countDown ha left => exact within_countDown h ha left

/-! ## Damage over time -/

theorem within_moment (hfirst : first.Limited) {rules : Rules} {events : List TraceEvent}
    (hmoment : ∀ names, Moment (Spares id names) rules id unit events last)
    (h : Within first unit) : Within first last := by
  have hplain : Stat.IsPlain Stat.hp ∧ Stat.IsPlain Stat.shield := by decide
  have hshield : ∀ v ∈ Stat.vitals, v.name ≠ Stat.shield := by decide
  have hvital : ⟨Stat.hp, Stat.maxHp⟩ ∈ Stat.vitals := by decide
  have hkept : ∀ name, name ≠ Stat.hp → name ≠ Stat.shield → last.get? name = unit.get? name :=
    fun name => (hmoment [name]).get?_eq List.mem_cons_self
  have hhp : last.hp.toInt ≤ max (max first.hp.toInt first.maxHp.toInt) 0 := by
    have hceiling := h.hp_le
    have hmax : unit.maxHp = first.maxHp := h.int_max hvital
    rcases (hmoment [Stat.hp]).hp_cases List.mem_cons_self with
      hsame | ⟨amount, after, hheal, rfl⟩ | ⟨amount, hamount, hhit⟩
    · rw [hsame]
      exact hceiling
    · have hhigh := Combat.healedTo?_le hheal (h.contains_max hfirst hvital)
      rw [hmax] at hhigh
      omega
    · have hhigh := Combat.impact_after_le rules unit hamount
      rw [hhit]
      omega
  refine ⟨fun name hname depth => ?_, fun v hv => ?_⟩
  · rw [hkept _ (Stat.changeOf_ne hplain.1 hname depth) (Stat.changeOf_ne hplain.2 hname depth)]
    exact h.kept name hname depth
  · by_cases hvhp : v.name = Stat.hp
    · rw [Stat.eq_of_name_eq v hv _ hvital hvhp]
      exact hhp
    · rw [Bag.int_congr (hkept v.name hvhp (hshield v hv))]
      exact h.vital_le v hv

/-- A unit is within its limits, if it is there. -/
def WithinAt (first : Bag) (id : String) (w : World) : Prop :=
  ∀ unit, w.unit? id = some unit → Within first unit

theorem withinAt_damage (hfirst : first.Limited) (h : WithinAt first id w) (rules : Rules)
    (amount : Int64) : WithinAt first id (Combat.damage rules w id amount).outcome.world := by
  intro last hlast
  cases hw : w.unit? id with
  | none =>
    have hnone := ((damage_personal id rules amount).sameFrame w).unit?_of_none hw
    exact absurd (hlast.symm.trans hnone) (Option.some_ne_none last)
  | some unit =>
    have hfollows : Follows (fun _ => False) rules id w _ := Combat.damage_follows w id amount
    obtain ⟨last', hlast', hcourse⟩ := hfollows unit hw
    cases hlast.symm.trans hlast'
    refine hcourse.invariant (fun hmoment hunit => ?_) (h unit hw)
    exact within_moment hfirst (fun names => hmoment.mono fun _ => False.elim) hunit

/-! ## The end of a turn -/

theorem withinAt_update {change : Bag → Bag}
    (hchange : ∀ unit, Within first unit → Within first (change unit)) (h : WithinAt first id w) :
    WithinAt first id (w.updateUnit id change) := by
  cases hw : w.unit? id with
  | none =>
    rw [World.updateUnit_of_none hw]
    exact h
  | some unit =>
    intro last hlast
    rw [World.unit?_updateUnit_self hw] at hlast
    cases hlast
    exact (hchange unit (h unit hw)).keep id

theorem chains_withinAt (first : Bag) (id : String) :
    Chains fun w p => WithinAt first id w → WithinAt first id p.world := by
  exact ⟨fun _ h => h, fun next hp hnext h => hnext (hp h)⟩

variable (hfirst : first.Limited) (rules : Rules)

include hfirst

theorem withinAt_unitUpkeep (h : WithinAt first id w) :
    WithinAt first id (unitUpkeep rules id w).world := by
  refine (chains_withinAt first id).unitUpkeep (fun hchange _ _ w hw => ?_) (fun _ _ hw => hw)
    (fun amount w hw => withinAt_damage hfirst hw rules amount) w h
  exact withinAt_update (fun unit hunit => within_change hfirst hchange hunit) hw

theorem withinAt_run (h : WithinAt first id w) : WithinAt first id (run rules w).world := by
  intro last hlast
  rw [unit?_run] at hlast
  exact withinAt_unitUpkeep hfirst rules h last (Option.filter_eq_some_iff.1 hlast).1

end Upkeep

end Skirmish
