import Mathlib.Tactic.Choose
import Skirmish.Proofs.Combat.Hit
import Skirmish.Proofs.Course.Basic
import Skirmish.Proofs.Upkeep.Passage

/-!
# Steps about one unit

A step is personal to a unit if it changes no other place and looks at that unit and the battle as a
whole only: in worlds that agree on these two, whatever else they hold, it does and tells the same
(`Personal`). The upkeep of a unit is personal to it, damage over time included
(`unitUpkeep_personal`).

Steps personal to different units do not see each other. After a pass over many units each of them
is what its own step alone makes of it (`unit?_fold`), in whatever order they come.
-/

namespace Skirmish.Upkeep

/-- A step that is about one unit. -/
structure Personal (id : String) (step : World → Passage) : Prop where
  sameFrame : ∀ w : World, w.SameFrame (step w).world
  others : ∀ (w : World) (p : Place), p ≠ .unit id → (step w).world.bag? p = w.bag? p
  own : ∀ v w : World, v.global = w.global → v.unit? id = w.unit? id →
    (step v).world.unit? id = (step w).world.unit? id ∧ (step v).entries = (step w).entries

namespace Personal

variable {id : String} {f g : World → Passage}

theorem global_eq (h : Personal id f) (w : World) : (f w).world.global = w.global := by
  have hbag := h.others w .global (by simp)
  exact Option.some.inj hbag

theorem unit?_of_ne (h : Personal id f) (w : World) {other : String} (hne : other ≠ id) :
    (f w).world.unit? other = w.unit? other :=
  h.others w (.unit other) fun hplace => hne (Place.unit.inj hplace)

theorem tell (entries : List Entry) : Personal id fun w => ⟨w, entries⟩ :=
  ⟨fun w => .refl w, fun _ _ _ => rfl, fun _ _ _ hunit => ⟨hunit, rfl⟩⟩

theorem nothing : Personal id fun w => ⟨w, []⟩ := tell []

theorem update (change : Bag → Bag) (entries : List Entry) :
    Personal id fun w => ⟨w.updateUnit id change, entries⟩ := by
  refine ⟨fun w => World.sameFrame_update w change (.unit id), fun w p hp => ?_,
    fun v w _ hunit => ⟨?_, rfl⟩⟩
  · exact (World.bag?_update w change (.unit id) p).trans (if_neg hp)
  · have hget : ∀ u : World, (u.updateUnit id change).unit? id =
        (u.unit? id).map fun b => (Place.unit id).keep (change b) := by
      intro u
      exact (World.bag?_update u change (.unit id) (.unit id)).trans (if_pos rfl)
    rw [hget, hget, hunit]

/-- It is enough to be a personal step once the unit and the battle are given, and to do nothing
where the unit is missing. -/
theorem of_unit (hnone : ∀ w : World, w.unit? id = none → f w = ⟨w, []⟩)
    (hsome : ∀ global unit, ∃ g, Personal id g ∧
      ∀ w : World, w.global = global → w.unit? id = some unit → f w = g w) : Personal id f := by
  -- On every single world the step is the same as some personal one.
  have hlike : ∀ w : World, ∃ g, Personal id g ∧
      ∀ v : World, v.global = w.global → v.unit? id = w.unit? id → f v = g v := by
    intro w
    cases hw : w.unit? id with
    | none => exact ⟨_, nothing, fun v _ hv => hnone v hv⟩
    | some unit => exact hsome w.global unit
  refine ⟨fun w => ?_, fun w p hp => ?_, fun v w hglobal hunit => ?_⟩
  · obtain ⟨g, hg, hfg⟩ := hlike w
    rw [hfg w rfl rfl]
    exact hg.sameFrame w
  · obtain ⟨g, hg, hfg⟩ := hlike w
    rw [hfg w rfl rfl]
    exact hg.others w p hp
  · obtain ⟨g, hg, hfg⟩ := hlike w
    rw [hfg v hglobal hunit, hfg w rfl rfl]
    exact hg.own v w hglobal hunit

/-- On the worlds of some kind a step is a personal one if it is once the unit and the battle are
given. -/
theorem exists_of_unit {kind : World → Prop}
    (hnone : ∀ w, kind w → w.unit? id = none → f w = ⟨w, []⟩)
    (hsome : ∀ global unit, ∃ g, Personal id g ∧
      ∀ w, kind w → w.global = global → w.unit? id = some unit → f w = g w) :
    ∃ g, Personal id g ∧ ∀ w, kind w → f w = g w := by
  choose g hg hfg using hsome
  let step (w : World) : Passage := (w.unit? id).elim ⟨w, []⟩ fun unit => g w.global unit w
  have hmissing : ∀ w, w.unit? id = none → step w = ⟨w, []⟩ := by
    intro w hw
    simp only [step, hw, Option.elim_none]
  have hstep : ∀ w unit, w.unit? id = some unit → step w = g w.global unit w := by
    intro w unit hw
    simp only [step, hw, Option.elim_some]
  refine ⟨step, of_unit hmissing fun global unit => ?_, fun w hkind => ?_⟩
  · exact ⟨g global unit, hg global unit, fun w hglobal hw => hglobal ▸ hstep w unit hw⟩
  · cases hw : w.unit? id with
    | none => rw [hmissing w hw, hnone w hkind hw]
    | some unit => rw [hstep w unit hw, hfg w.global unit w hkind rfl hw]

theorem andThen (hf : Personal id f) (hg : Personal id g) :
    Personal id fun w => (f w).andThen g := by
  refine ⟨fun w => (hf.sameFrame w).trans (hg.sameFrame _), fun w p hp => ?_,
    fun v w hglobal hunit => ?_⟩
  · exact (hg.others _ p hp).trans (hf.others w p hp)
  · obtain ⟨hmid, hentries⟩ := hf.own v w hglobal hunit
    have hglobal' : (f v).world.global = (f w).world.global := by
      rw [hf.global_eq, hf.global_eq, hglobal]
    obtain ⟨hlast, hmore⟩ := hg.own _ _ hglobal' hmid
    refine ⟨hlast, ?_⟩
    show (f v).entries ++ (g (f v).world).entries = (f w).entries ++ (g (f w).world).entries
    rw [hentries, hmore]

theorem edits {es : List Edit} (h : ∀ e ∈ es, e.place = .unit id) (entries : List Entry) :
    Personal id fun w => ⟨Edit.run es w, entries⟩ := by
  induction es with
  | nil => exact tell entries
  | cons e es ih =>
    have hfirst : Personal id fun w => ⟨e.apply w, []⟩ := by
      simp only [Edit.apply, h e List.mem_cons_self]
      exact update e.onBag []
    exact hfirst.andThen (ih fun f hf => h f (List.mem_cons_of_mem e hf))

theorem fold {α : Type} {step : α → World → Passage} {l : List α}
    (h : ∀ a ∈ l, Personal id (step a)) : Personal id (Passage.fold step l) := by
  induction l with
  | nil => exact nothing
  | cons a l ih =>
    exact (h a List.mem_cons_self).andThen (ih fun b hb => h b (List.mem_cons_of_mem a hb))

end Personal

/-! ## Damage -/

variable (id : String) (rules : Rules)

theorem ofOutcome_andThen (o : Outcome) (next : World → Outcome) :
    Passage.ofOutcome (o.andThen next) =
      (Passage.ofOutcome o).andThen fun w => .ofOutcome (next w) := by
  rw [Passage.ofOutcome, Outcome.andThen, List.map_append]
  rfl

theorem healPlain_personal (amount : Int64) (flags : HitFlags) :
    Personal id fun w => .ofOutcome (Combat.healPlain w id amount flags).outcome := by
  refine .of_unit (fun w hw => ?_) fun global unit => ?_
  · rw [Combat.outcome_healPlain_of_none hw]
    rfl
  · cases hhealed : Combat.healedTo? unit amount with
    | none =>
      refine ⟨_, .nothing, fun w _ hw => ?_⟩
      rw [Combat.outcome_healPlain hw, hhealed]
      rfl
    | some after =>
      have hheal : Personal id fun w => ⟨w.updateUnit id (·.set Stat.hp (.int after)),
          [.recorded (.healed id (after - unit.hp) flags)]⟩ := .update _ _
      refine ⟨_, hheal, fun w _ hw => ?_⟩
      rw [Combat.outcome_healPlain hw, hhealed]
      rfl

theorem healAfterHit_personal (after : Int64) :
    Personal id fun w => .ofOutcome (Combat.healAfterHit w id after) := by
  refine .of_unit (fun w hw => ?_) fun global unit => ?_
  · rw [Combat.healAfterHit, hw]
    rfl
  · by_cases hheals : 0 < after ∧ unit.isActive Stat.onDamageHealTurns = true ∧
        0 < unit.int Stat.onDamageHeal
    · refine ⟨_, healPlain_personal id (unit.int Stat.onDamageHeal) {}, fun w _ hw => ?_⟩
      rw [Combat.healAfterHit, hw]
      exact congrArg Passage.ofOutcome (if_pos hheals)
    · refine ⟨_, .nothing, fun w _ hw => ?_⟩
      rw [Combat.healAfterHit, hw]
      exact congrArg Passage.ofOutcome (if_neg hheals)

theorem fireThreshold_personal (before after : Int64) :
    Personal id fun w => .ofOutcome (Combat.fireThreshold w id before after).1 := by
  refine .of_unit (fun w hw => ?_) fun global unit => ?_
  · rw [Combat.fireThreshold, hw]
    rfl
  · cases hskill : Combat.triggered? unit before after with
    | none =>
      refine ⟨_, .nothing, fun w _ hw => ?_⟩
      rw [Combat.fireThreshold, hw, Option.bind_some, hskill]
      rfl
    | some skill =>
      have hmark : Personal id fun w => ⟨w.updateUnit id (·.tag (Stat.thresholdFired skill)),
          [.recorded (.thresholdTriggered id skill)]⟩ := .update _ _
      refine ⟨_, hmark, fun w _ hw => ?_⟩
      rw [Combat.fireThreshold, hw, Option.bind_some, hskill]
      rfl

theorem damagePlain_personal (amount : Int64) (flags : HitFlags) :
    Personal id fun w => .ofOutcome (Combat.damagePlain rules w id amount flags).outcome := by
  refine .of_unit (fun w hw => ?_) fun global unit => ?_
  · rw [Combat.outcome_damagePlain_of_none hw]
    rfl
  · by_cases hamount : amount ≤ 0
    · refine ⟨_, .nothing, fun w _ _ => ?_⟩
      rw [Combat.outcome_damagePlain_of_nonpos hamount]
      rfl
    · let i := Combat.impact rules unit amount
      have hhit : Personal id fun w =>
          ⟨w.updateUnit id i.onBag, [.recorded (i.event id flags)]⟩ := .update _ _
      have hhealed := hhit.andThen (healAfterHit_personal id i.after)
      refine ⟨_, hhealed.andThen (fireThreshold_personal id unit.hp i.after), fun w _ hw => ?_⟩
      rw [Combat.outcome_damagePlain hw hamount, ofOutcome_andThen, ofOutcome_andThen,
        Combat.Impact.strike, Combat.Impact.run_edits]
      rfl

theorem routeDamage_personal (amount : Int64) (flags : HitFlags) :
    Personal id fun w => .ofOutcome (Combat.routeDamage rules w id amount flags).outcome := by
  -- Whether damage heals is for the battle as a whole to say.
  have hrouted : ∀ reversed, ∃ g, Personal id g ∧ ∀ w,
      Combat.isReversed w Stat.reverseDamageTurns = reversed →
        Passage.ofOutcome (Combat.routeDamage rules w id amount flags).outcome = g w := by
    intro reversed
    cases reversed with
    | true =>
      refine ⟨_, healPlain_personal id amount { flags with reversed := true }, fun w hw => ?_⟩
      rw [Combat.routeDamage, if_pos hw]
    | false =>
      refine ⟨_, damagePlain_personal id rules amount flags, fun w hw => ?_⟩
      rw [Combat.routeDamage, if_neg (Bool.eq_false_iff.1 hw)]
  refine .of_unit (fun w hw => ?_) fun global unit => ?_
  · rw [Combat.outcome_routeDamage_of_none hw]
    rfl
  · obtain ⟨g, hg, hgw⟩ := hrouted (global.isActive Stat.reverseDamageTurns)
    refine ⟨g, hg, fun w hglobal _ => hgw w ?_⟩
    rw [Combat.isReversed, hglobal]

theorem damage_personal (amount : Int64) :
    Personal id fun w => .ofOutcome (Combat.damage rules w id amount).outcome :=
  routeDamage_personal id rules amount {}

/-! ## Upkeep -/

theorem onUnit_personal (step : Bag → Bag × List Entry) : Personal id (onUnit id step) := by
  refine .of_unit (fun w hw => onUnit_of_none hw step) fun global unit => ?_
  exact ⟨_, .update (fun unit => (step unit).1) (step unit).2, fun w _ hw => onUnit_of_some hw step⟩

theorem suffer_personal (a : Affliction) : Personal id (suffer rules id a) := by
  refine .of_unit (fun w hw => ?_) fun global unit => ?_
  · rw [suffer, hw]
  · by_cases hleft : unit.int a.turns ≤ 0
    · refine ⟨_, .nothing, fun w _ hw => ?_⟩
      simp only [suffer, hw, if_pos hleft]
    · have htold : Personal id fun w =>
          ⟨w, [.note s!"{id} suffers {a.name} ({(unit.int a.turns).toInt} turns left)"]⟩ := .tell _
      have hcounted : Personal id fun w => ⟨w.updateUnit id (a.countDown (unit.int a.turns)),
          if 1 < unit.int a.turns then [] else [.note s!"{id}: {a.tag} expired"]⟩ := .update _ _
      refine ⟨_, (htold.andThen (damage_personal id rules (unit.int a.amount))).andThen hcounted,
        fun w _ hw => ?_⟩
      simp only [suffer, hw, if_neg hleft]

theorem live_personal : Personal id (live rules id) := by
  refine Personal.andThen (Personal.andThen ?_ ?_) ?_
  · exact onUnit_personal id (regenerate id)
  · exact onUnit_personal id fun unit => (applyChanges rules unit, [])
  · exact .fold fun a _ => suffer_personal id rules a

theorem unitUpkeep_personal : Personal id (unitUpkeep rules id) := by
  refine Personal.andThen (onUnit_personal id (tickStatuses id Stat.timedStatuses)) ?_
  refine .of_unit (fun w hw => ?_) fun global unit => ?_
  · rw [hw]
    rfl
  · by_cases halive : unit.isAlive = true
    · refine ⟨_, live_personal id rules, fun w _ hw => ?_⟩
      rw [hw, Option.map_some, Option.getD_some, if_pos halive]
    · refine ⟨_, .nothing, fun w _ hw => ?_⟩
      rw [hw, Option.map_some, Option.getD_some, if_neg halive]

/-! ## Passes over many units -/

section

variable {id} {step : String → World → Passage} (h : ∀ id, Personal id (step id))

include h

theorem sameFrame_fold (ids : List String) (w : World) :
    w.SameFrame (Passage.fold step ids w).world := by
  induction ids generalizing w with
  | nil => exact .refl w
  | cons other ids ih => exact ((h other).sameFrame w).trans (ih (step other w).world)

theorem bag?_fold (ids : List String) (w : World) {p : Place} (hp : ∀ id ∈ ids, p ≠ .unit id) :
    (Passage.fold step ids w).world.bag? p = w.bag? p := by
  induction ids generalizing w with
  | nil => rfl
  | cons other ids ih =>
    have hrest := ih (step other w).world fun id hid => hp id (List.mem_cons_of_mem other hid)
    rw [← (h other).others w p (hp other List.mem_cons_self)]
    exact hrest

/-- A pass makes of a unit what the unit's own step makes of it. -/
theorem unit?_fold {ids : List String} (hids : ids.Nodup) (hid : id ∈ ids) (w : World) :
    (Passage.fold step ids w).world.unit? id = (step id w).world.unit? id := by
  induction ids generalizing w with
  | nil => exact absurd hid List.not_mem_nil
  | cons other ids ih =>
    obtain ⟨hother, hrest⟩ := List.nodup_cons.1 hids
    have hcons : (Passage.fold step (other :: ids) w).world =
        (Passage.fold step ids (step other w).world).world := rfl
    rw [hcons]
    by_cases hsame : id = other
    · -- The units that follow leave this one alone.
      subst hsame
      refine bag?_fold h ids _ (p := .unit id) fun later hlater hplace => ?_
      exact hother (Place.unit.inj hplace ▸ hlater)
    · -- What came before is nothing to this one.
      rw [ih hrest ((List.mem_cons.1 hid).resolve_left hsame)]
      exact ((h id).own _ w ((h other).global_eq w) ((h other).unit?_of_ne w hsame)).1

/-- The order of a pass does not matter. -/
theorem world_fold_perm {ids jds : List String} (hids : ids.Nodup) (hperm : ids.Perm jds)
    (w : World) : (Passage.fold step ids w).world = (Passage.fold step jds w).world := by
  have hframe : (Passage.fold step ids w).world.SameFrame (Passage.fold step jds w).world :=
    (sameFrame_fold h ids w).symm.trans (sameFrame_fold h jds w)
  refine World.eq_of_bag? hframe fun p => ?_
  by_cases hp : ∃ id ∈ ids, p = .unit id
  · obtain ⟨id, hid, rfl⟩ := hp
    have hleft := unit?_fold h hids hid w
    have hright := unit?_fold h (hperm.nodup_iff.1 hids) (hperm.mem_iff.1 hid) w
    exact hleft.trans hright.symm
  · have hleft := bag?_fold h ids w fun id hid heq => hp ⟨id, hid, heq⟩
    have hright := bag?_fold h jds w fun id hid heq => hp ⟨id, hperm.mem_iff.2 hid, heq⟩
    exact hleft.trans hright.symm

end

end Skirmish.Upkeep
