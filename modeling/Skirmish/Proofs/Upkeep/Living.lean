import Skirmish.Proofs.Threshold.Upkeep
import Skirmish.Proofs.Upkeep.Limits

/-!
# What living leaves alone

A unit that is alive regenerates, changes by its changes per turn and suffers damage over time. All
this is about its vital variables, its shield, what it suffers from, and the variables that changes
per turn are for. Every other variable stays as long as no change per turn is for it, not even
through changes of changes, and so does every tag that marks neither a threshold nor an affliction
(`has_live`).
-/

namespace Skirmish

/-- A unit is there, and it is such. -/
def World.Has (w : World) (id : String) (holds : Bag → Prop) : Prop :=
  ∃ unit, w.unit? id = some unit ∧ holds unit

namespace Upkeep

/-- What upkeep changes of a living unit under names of its own. -/
def livingVars : List String :=
  [Stat.hp, Stat.mp, Stat.shield] ++ afflictions.flatMap fun a => [a.turns, a.amount]

/-- A tag that is neither that of an affliction nor the mark of a threshold. -/
def IsLasting (tag : String) : Prop :=
  tag ∉ afflictions.map Affliction.tag ∧ afterPrefix? Stat.thresholdFiredFamily tag = none

instance (tag : String) : Decidable (IsLasting tag) := inferInstanceAs (Decidable (_ ∧ _))

/-- No change per turn is for these variables, nor for such a change. -/
def Steady (names : List String) (unit : Bag) : Prop :=
  ∀ name ∈ names, ∀ depth, unit.get? (Stat.changeOf (depth + 1) name) = none

/-- These variables, the changes per turn for them, and a tag are what they were first. -/
structure Kept (names : List String) (tag : String) (first unit : Bag) : Prop where
  get?_eq : ∀ name ∈ names, ∀ depth,
    unit.get? (Stat.changeOf depth name) = first.get? (Stat.changeOf depth name)
  hasTag_eq : unit.hasTag tag = first.hasTag tag

variable {id tag : String} {names : List String} {first unit last : Bag} {w : World}

theorem changeOf_succ_ne {plain : String} (h : afterPrefix? Stat.perTurn plain = none)
    (depth : Nat) (name : String) : Stat.changeOf (depth + 1) name ≠ plain := by
  rintro rfl
  rw [Stat.changeOf, afterPrefix?_append] at h
  cases h

/-- It is enough that the changes per turn are for plain variables other than these. -/
theorem steady_of_changes (hnames : "" ∉ names)
    (h : ∀ change ∈ changes unit, afterPrefix? Stat.perTurn change.1 = none ∧ change.1 ∉ names) :
    Steady names unit := by
  intro name hname depth
  rw [← Option.not_isSome_iff_eq_none, Option.isSome_iff_exists]
  rintro ⟨value, hvalue⟩
  have hne : Stat.changeOf depth name ≠ "" := by
    cases depth with
    | zero => exact fun heq => hnames (heq ▸ hname)
    | succ depth => exact changeOf_succ_ne (by decide) depth name
  obtain ⟨hplain, hother⟩ := h _ (mem_changes_of_get? hvalue hne)
  cases depth with
  | zero => exact hother hname
  | succ depth => exact changeOf_succ_ne hplain depth name rfl

namespace Kept

theorem refl (names : List String) (tag : String) (first : Bag) : Kept names tag first first :=
  ⟨fun _ _ _ => rfl, rfl⟩

/-- Other variables may change, unless they are changes per turn themselves. -/
theorem of_touched (h : Kept names tag first unit) {touched : List String}
    (hplain : ∀ name ∈ touched, afterPrefix? Stat.perTurn name = none)
    (hother : ∀ name ∈ names, name ∉ touched)
    (hsame : ∀ name, name ∉ touched → last.get? name = unit.get? name)
    (htag : last.hasTag tag = unit.hasTag tag) : Kept names tag first last := by
  refine ⟨fun name hname depth => ?_, htag.trans h.hasTag_eq⟩
  have hspared : Stat.changeOf depth name ∉ touched := by
    intro hmem
    cases depth with
    | zero => exact hother name hname hmem
    | succ depth => exact changeOf_succ_ne (hplain _ hmem) depth name rfl
  rw [hsame _ hspared]
  exact h.get?_eq name hname depth

/-- Whatever changes vital variables, the shield and afflictions only. -/
theorem of_living (h : Kept names tag first unit) (hnames : ∀ name ∈ names, name ∉ livingVars)
    (hsame : ∀ name, name ∉ livingVars → last.get? name = unit.get? name)
    (htag : last.hasTag tag = unit.hasTag tag) : Kept names tag first last := by
  have hplain : ∀ name ∈ livingVars, afterPrefix? Stat.perTurn name = none := by decide
  exact h.of_touched hplain hnames hsame htag

theorem keep (h : Kept names tag first unit) (hnames : ∀ name ∈ names, name ∉ livingVars)
    (id : String) : Kept names tag first ((Place.unit id).keep unit) := by
  have hhp : Stat.hp ∈ livingVars := by decide
  refine h.of_living hnames (fun name hname => ?_) (Place.hasTag_keep ..)
  exact Place.get?_keep_of_ne _ _ fun heq => hname (heq ▸ hhp)

theorem applyChanges (h : Kept names tag first unit) (hsteady : Steady names first)
    (rules : Rules) : Kept names tag first (applyChanges rules unit) := by
  refine ⟨fun name hname depth => ?_, ?_⟩
  · have hnone : unit.get? (Stat.perTurn ++ Stat.changeOf depth name) = none :=
      (h.get?_eq name hname (depth + 1)).trans (hsteady name hname depth)
    rw [get?_applyChanges hnone]
    exact h.get?_eq name hname depth
  · rw [hasTag_applyChanges]
    exact h.hasTag_eq

end Kept

/-! ## The steps of a living unit -/

theorem has_onUnit {P Q : Bag → Prop} {step : Bag → Bag × List Entry} (h : w.Has id P)
    (hstep : ∀ unit, P unit → Q ((Place.unit id).keep (step unit).1)) :
    (onUnit id step w).world.Has id Q := by
  obtain ⟨unit, hunit, hP⟩ := h
  refine ⟨_, ?_, hstep unit hP⟩
  rw [onUnit_of_some hunit]
  exact World.unit?_updateUnit_self hunit _

theorem hasTag_moment {rules : Rules} {events : List TraceEvent} (htag : IsLasting tag)
    (h : Moment (fun _ => False) rules id unit events last) :
    last.hasTag tag = unit.hasTag tag := by
  cases h with
  | edit place h => exact h.elim
  | elsewhere h => rfl
  | heal flags h => rw [Place.hasTag_keep, Bag.hasTag_set]
  | hit h hflags => rw [Place.hasTag_keep, Combat.Impact.hasTag_onBag]
  | @trigger before after skill h =>
    have hmark : tag ≠ Stat.thresholdFired skill := (thresholdFired_ne_tag htag.2).symm
    rw [Place.hasTag_keep, Bag.hasTag_tag, beq_false_of_ne hmark, Bool.false_or]

section

variable (hnames : ∀ name ∈ names, name ∉ livingVars) (htag : IsLasting tag) (rules : Rules)

include hnames htag

theorem has_damage (h : w.Has id (Kept names tag first)) (amount : Int64) :
    (Combat.damage rules w id amount).outcome.world.Has id (Kept names tag first) := by
  obtain ⟨unit, hunit, hkept⟩ := h
  have hfollows : Follows (fun _ => False) rules id w _ := Combat.damage_follows w id amount
  obtain ⟨last, hlast, hcourse⟩ := hfollows unit hunit
  refine ⟨last, hlast, hcourse.invariant (fun {unit events last} hmoment hkept => ?_) hkept⟩
  have hvital : Stat.hp ∈ livingVars ∧ Stat.shield ∈ livingVars := by decide
  refine hkept.of_living hnames (fun name hname => ?_) (hasTag_moment htag hmoment)
  have hspares : Moment (Spares id [name]) rules id unit events last :=
    hmoment.mono fun _ => False.elim
  exact hspares.get?_eq List.mem_cons_self (fun heq => hname (heq ▸ hvital.1))
    fun heq => hname (heq ▸ hvital.2)

theorem has_suffer {a : Affliction} (ha : a ∈ afflictions) (h : w.Has id (Kept names tag first)) :
    (suffer rules id a w).world.Has id (Kept names tag first) := by
  obtain ⟨unit, hunit, hkept⟩ := h
  simp only [suffer, hunit]
  split
  · exact ⟨unit, hunit, hkept⟩
  · have hdamaged := has_damage hnames htag rules ⟨unit, hunit, hkept⟩ (unit.int a.amount)
    obtain ⟨hurt, hhurt, hkept'⟩ := hdamaged
    have hvars : ∀ a ∈ afflictions, a.turns ∈ livingVars ∧ a.amount ∈ livingVars := by decide
    have hcounted : Kept names tag first (a.countDown (unit.int a.turns) hurt) := by
      refine hkept'.of_living hnames (fun name hname => ?_) ?_
      · have hturns : name ≠ a.turns := fun heq => hname (heq ▸ (hvars a ha).1)
        have hamount : name ≠ a.amount := fun heq => hname (heq ▸ (hvars a ha).2)
        exact get?_countDown hturns hamount _ hurt
      · have hne : tag ≠ a.tag := fun heq => htag.1 (heq ▸ List.mem_map_of_mem ha)
        exact hasTag_countDown hne _ hurt
    exact ⟨_, World.unit?_updateUnit_self hhurt _, hcounted.keep hnames id⟩

/-- Being alive keeps the variables and tags that it has nothing to do with. -/
theorem has_live (hsteady : Steady names first) (h : w.Has id (Kept names tag first)) :
    (live rules id w).world.Has id (Kept names tag first) := by
  have hvital : Stat.mp ∈ livingVars ∧ Stat.hp ∈ livingVars := by decide
  have hregenerated : (onUnit id (regenerate id) w).world.Has id (Kept names tag first) := by
    refine has_onUnit h fun unit hkept => ?_
    have hregen : Kept names tag first (regenerate id unit).1 := by
      refine hkept.of_living hnames (fun name hname => ?_) (hasTag_regenerate id unit)
      have hmp : name ≠ Stat.mp := fun heq => hname (heq ▸ hvital.1)
      have hhp : name ≠ Stat.hp := fun heq => hname (heq ▸ hvital.2)
      exact get?_regenerate hmp hhp id unit
    exact hregen.keep hnames id
  have hchanged : (onUnit id (fun unit => (applyChanges rules unit, []))
      (onUnit id (regenerate id) w).world).world.Has id (Kept names tag first) :=
    has_onUnit hregenerated fun unit hkept => (hkept.applyChanges hsteady rules).keep hnames id
  have hsuffered : ∀ list, list ⊆ afflictions → ∀ w : World, w.Has id (Kept names tag first) →
      (Passage.fold (suffer rules id) list w).world.Has id (Kept names tag first) := by
    intro list
    induction list with
    | nil => exact fun _ _ h => h
    | cons a list ih =>
      intro hlist w h
      obtain ⟨ha, hrest⟩ := List.cons_subset.1 hlist
      exact ih hrest _ (has_suffer hnames htag rules ha h)
  rw [live, Passage.world_andThen, Passage.world_andThen]
  exact hsuffered afflictions (List.Subset.refl _) _ hchanged

end

end Upkeep

end Skirmish
