import Skirmish.Action
import Skirmish.Proofs.Course.Basic

/-!
# Thresholds trigger once

A threshold that triggers is marked, and one that is marked does not trigger. So the triggers that
are recorded, counted on top of the mark before, never come to more than the mark after (`OneShot`).
Steps with this property may follow one another; hits, attacks and all actions have it, but for the
removal of the mark itself.

A unit that is not there counts as marked: nothing triggers for it any more.
-/

namespace Skirmish

/-- The threshold of a skill cannot trigger for a unit: it is marked, or the unit is gone. -/
def World.isSpent (w : World) (id skill : String) : Bool :=
  (w.unit? id).all (·.hasTag (Stat.thresholdFired skill))

/-- The triggers that an outcome records and the mark before it make no more than the mark after. -/
def OneShot (id skill : String) (w : World) (o : Outcome) : Prop :=
  o.trace.count (.thresholdTriggered id skill) + (w.isSpent id skill).toNat ≤
    (o.world.isSpent id skill).toNat

namespace OneShot

variable {id skill : String} {w : World}

/-! ## Steps that follow one another -/

/-- Where nothing triggers it is enough to keep the mark. -/
theorem of_not_mem {o : Outcome} (htrace : .thresholdTriggered id skill ∉ o.trace)
    (h : w.isSpent id skill = true → o.world.isSpent id skill = true) : OneShot id skill w o := by
  rw [OneShot, List.count_eq_zero.2 htrace, Nat.zero_add]
  cases hspent : w.isSpent id skill with
  | false => exact Nat.zero_le _
  | true => exact Nat.le_of_eq (congrArg Bool.toNat (h hspent)).symm

theorem nothing (w : World) : OneShot id skill w ⟨w, []⟩ := of_not_mem List.not_mem_nil fun h => h

theorem andThen {o : Outcome} (next : World → Outcome) (ho : OneShot id skill w o)
    (hnext : OneShot id skill o.world (next o.world)) : OneShot id skill w (o.andThen next) := by
  rw [OneShot] at ho hnext ⊢
  have hcount : (o.andThen next).trace.count (.thresholdTriggered id skill) =
      o.trace.count (.thresholdTriggered id skill) +
        (next o.world).trace.count (.thresholdTriggered id skill) :=
    List.count_append
  have hworld : (o.andThen next).world = (next o.world).world := rfl
  rw [hcount, hworld]
  omega

theorem chains : Outcome.Chains (OneShot id skill) :=
  ⟨nothing, fun next ho hnext => ho.andThen next hnext⟩

theorem fold {α : Type} {step : α → World → Outcome} {l : List α}
    (h : ∀ a ∈ l, ∀ w, OneShot id skill w (step a w)) (w : World) :
    OneShot id skill w (Outcome.fold step l w) :=
  chains.fold h w

/-! ## Changes of bags -/

theorem isSpent_update {p : Place} {f : Bag → Bag}
    (h : p = .unit id → ∀ b : Bag, b.hasTag (Stat.thresholdFired skill) = true →
      (f b).hasTag (Stat.thresholdFired skill) = true)
    (hspent : w.isSpent id skill = true) : (w.update f p).isSpent id skill = true := by
  rw [World.isSpent] at hspent ⊢
  by_cases hp : p = .unit id
  · subst hp
    cases hw : w.unit? id with
    | none =>
      rw [World.update, World.updateUnit_of_none hw, hw]
      rfl
    | some b =>
      rw [hw, Option.all_some] at hspent
      rw [World.update, World.unit?_updateUnit_self hw, Option.all_some, Place.hasTag_keep]
      exact h rfl b hspent
  · rw [World.unit?_update_of_ne hp]
    exact hspent

theorem update {p : Place} {f : Bag → Bag} {trace : List TraceEvent}
    (h : p = .unit id → ∀ b : Bag, b.hasTag (Stat.thresholdFired skill) = true →
      (f b).hasTag (Stat.thresholdFired skill) = true)
    (htrace : .thresholdTriggered id skill ∉ trace) (w : World) :
    OneShot id skill w ⟨w.update f p, trace⟩ :=
  of_not_mem htrace (isSpent_update h)

theorem edit {e : Edit} (h : e ≠ .untag (.unit id) (Stat.thresholdFired skill))
    {trace : List TraceEvent} (htrace : .thresholdTriggered id skill ∉ trace) (w : World) :
    OneShot id skill w ⟨e.apply w, trace⟩ := by
  refine update (fun hplace b hb => ?_) htrace w
  cases e with
  | set place name value => exact hb
  | unset place name => exact hb
  | tag place name =>
    rw [Edit.onBag, Bag.hasTag_tag, hb, Bool.or_true]
  | untag place name =>
    have hname : Stat.thresholdFired skill ≠ name := by
      rintro rfl
      exact h (congrArg (Edit.untag · _) hplace)
    rw [Edit.onBag, Bag.hasTag_untag, hb, Bool.and_true, bne_iff_ne]
    exact hname

theorem run {es : List Edit} (h : ∀ e ∈ es, e ≠ .untag (.unit id) (Stat.thresholdFired skill))
    {trace : List TraceEvent} (htrace : .thresholdTriggered id skill ∉ trace) (w : World) :
    OneShot id skill w ⟨Edit.run es w, trace⟩ := by
  induction es generalizing w with
  | nil => exact of_not_mem htrace fun h => h
  | cons e es ih =>
    have hfirst : OneShot id skill w ⟨e.apply w, []⟩ :=
      edit (h e List.mem_cons_self) List.not_mem_nil w
    exact hfirst.andThen (fun w => ⟨Edit.run es w, trace⟩)
      (ih (fun f hf => h f (List.mem_cons_of_mem e hf)) _)

end OneShot

/-! ## Hits and heals -/

namespace Combat

variable {id skill : String}

theorem hasTag_of_triggered? {unit : Bag} {before after : Int64} {skill : String}
    (h : triggered? unit before after = some skill) :
    unit.hasTag (Stat.thresholdFired skill) = false := by
  by_cases hidle : unit.text Stat.thresholdSkill = "" ∨
      unit.hasTag (Stat.thresholdFired (unit.text Stat.thresholdSkill)) = true
  · rw [triggered?, if_pos hidle] at h
    cases h
  · rw [triggered?, if_neg hidle] at h
    split at h
    · rw [← Option.some.inj h]
      exact Bool.eq_false_iff.2 (not_or.1 hidle).2
    · cases h

/-- A threshold triggers only where it is not marked, and is marked from then on. -/
theorem trigger_oneShot {w : World} {target fired : String} {unit : Bag} {before after : Int64}
    (hunit : w.unit? target = some unit) (h : triggered? unit before after = some fired) :
    OneShot id skill w ⟨w.updateUnit target (·.tag (Stat.thresholdFired fired)),
      [.thresholdTriggered target fired]⟩ := by
  by_cases hsame : target = id ∧ fired = skill
  · obtain ⟨rfl, rfl⟩ := hsame
    have hbefore : w.isSpent target fired = false := by
      rw [World.isSpent, hunit, Option.all_some]
      exact hasTag_of_triggered? h
    have hafter : (w.updateUnit target (·.tag (Stat.thresholdFired fired))).isSpent target fired
        = true := by
      rw [World.isSpent, World.unit?_updateUnit_self hunit, Option.all_some, Place.hasTag_keep,
        Bag.hasTag_tag, beq_self_eq_true, Bool.true_or]
    rw [OneShot, hbefore, hafter]
    simp
  · refine .edit (e := .tag (.unit target) (Stat.thresholdFired fired)) (by simp) ?_ w
    simpa [eq_comm] using hsame

theorem blow_oneShot {rules : Rules} {w : World} {o : Outcome} (h : Blow rules w o) :
    OneShot id skill w o := by
  cases h with
  | heal hw flags h => exact .edit (e := .set (.unit _) Stat.hp (.int _)) (by simp) (by simp) w
  | hit hw hamount hflags =>
    refine .update (p := .unit _) (fun _ b hb => ?_) (by simp [Impact.event]) w
    rw [Impact.hasTag_onBag, hb]
  | trigger hw h => exact trigger_oneShot hw h

theorem counting_oneShot {es : List Edit} {trace : List TraceEvent} (h : Counting es trace)
    (w : World) : OneShot id skill w ⟨Edit.run es w, trace⟩ := by
  refine .run (fun e he => ?_) (fun hmem => ?_) w
  · obtain ⟨owner, name, -, hlocation⟩ := h.edits e he
    rintro rfl
    cases hlocation
  · obtain ⟨attacker, defender, hevaded⟩ := h.trace _ hmem
    cases hevaded

theorem damage_oneShot (rules : Rules) (w : World) (target : String) (amount : Int64) :
    OneShot id skill w (damage rules w target amount).outcome :=
  OneShot.chains.damage blow_oneShot w target amount

theorem heal_oneShot (rules : Rules) (w : World) (target : String) (amount : Int64) :
    OneShot id skill w (heal rules w target amount).outcome :=
  OneShot.chains.heal blow_oneShot w target amount

theorem attack_oneShot (rules : Rules) (w : World) (attacker defender : String) (a : Attack) :
    OneShot id skill w (attack rules w attacker defender a).outcome :=
  OneShot.chains.attack blow_oneShot counting_oneShot w attacker defender a

end Combat

/-! ## Actions -/

namespace Action

variable {id skill : String}

theorem relocate_oneShot (w : World) (unit : String) (start goal : Coord) :
    OneShot id skill w (relocate w unit start goal) :=
  .edit (e := .set (.unit unit) Stat.position (.coord goal)) (by simp) (by simp) w

/-- Every action but the removal of the mark. -/
theorem apply_oneShot (rules : Rules) {a : Action}
    (h : a ≠ .removeTag (.unit id) (Stat.thresholdFired skill)) (w : World) :
    OneShot id skill w (a.apply rules w) := by
  cases a with
  | setVar place name value => exact .edit (e := .set place name value) (by simp) (by simp) w
  | addToVar account name delta =>
    exact .update (f := (·.addTo name delta)) (fun _ _ hb => hb) List.not_mem_nil w
  | removeVar place name => exact .edit (e := .unset place name) (by simp) (by simp) w
  | addTag place tag => exact .edit (e := .tag place tag) (by simp) (by simp) w
  | removeTag place tag =>
    refine .edit (e := .untag place tag) (fun he => h ?_) (by simp) w
    cases he
    rfl
  | damage target amount => exact Combat.damage_oneShot rules w target amount
  | heal target amount => exact Combat.heal_oneShot rules w target amount
  | strike school attacker target power ignoreRatio =>
    exact Combat.attack_oneShot rules w attacker target _
  | move unit goal =>
    rw [apply, moveTo]
    split
    · split
      · exact .nothing w
      · exact relocate_oneShot w unit _ goal
    · exact .nothing w
  | dash unit target maxSteps =>
    rw [apply, dashTowards]
    split
    · split
      · exact .nothing w
      · dsimp only
        split
        · exact .nothing w
        · exact relocate_oneShot w unit _ _
    · exact .nothing w
  | line l => exact .fold (fun victim _ w => Combat.attack_oneShot rules w l.attacker victim _) w

end Action

end Skirmish
