import Skirmish.Proofs.Threshold.OneShot
import Skirmish.Proofs.Upkeep.Passage

/-!
# Thresholds in upkeep

Upkeep hits units too, and it removes tags: those of statuses and afflictions that have run out,
none of which marks a threshold. So a whole upkeep triggers a threshold at most once, as an action
does.
-/

namespace Skirmish.Upkeep

variable {id skill : String}

/-! ## The tags that upkeep removes -/

theorem thresholdFired_ne_tag {tag : String}
    (h : afterPrefix? Stat.thresholdFiredFamily tag = none) : Stat.thresholdFired skill ≠ tag := by
  intro htag
  have hafter : afterPrefix? Stat.thresholdFiredFamily tag = some skill := by
    rw [← htag]
    exact afterPrefix?_append Stat.thresholdFiredFamily skill
  rw [h] at hafter
  cases hafter

theorem thresholdFired_ne_status :
    ∀ status ∈ Stat.timedStatuses, Stat.thresholdFired skill ≠ status.tag := by
  have hnone : ∀ status ∈ Stat.timedStatuses,
      afterPrefix? Stat.thresholdFiredFamily status.tag = none := by decide
  exact fun status hstatus => thresholdFired_ne_tag (hnone status hstatus)

theorem thresholdFired_ne_affliction :
    ∀ a ∈ afflictions, Stat.thresholdFired skill ≠ a.tag := by
  have hnone : ∀ a ∈ afflictions, afterPrefix? Stat.thresholdFiredFamily a.tag = none := by decide
  exact fun a ha => thresholdFired_ne_tag (hnone a ha)

theorem hasTag_change {rules : Rules} {owner : String} {change : Bag → Bag}
    (h : Change rules owner change) (unit : Bag) :
    (change unit).hasTag (Stat.thresholdFired skill) = unit.hasTag (Stat.thresholdFired skill) := by
  cases h with
  | tick => exact hasTag_tickStatuses thresholdFired_ne_status owner unit
  | regenerate => exact hasTag_regenerate owner unit
  | perTurn => exact hasTag_applyChanges rules unit
  | countDown ha left => exact hasTag_countDown (thresholdFired_ne_affliction _ ha) left unit

/-! ## Steps -/

theorem chains_oneShot (id skill : String) :
    Chains fun w p => OneShot id skill w p.outcome := by
  refine ⟨.nothing, fun {w p} next hp hnext => ?_⟩
  rw [Passage.outcome_andThen]
  exact hp.andThen (fun w => (next w).outcome) hnext

theorem not_mem_trace_of_told {owner : String} {entries : List Entry}
    (h : ∀ e ∈ entries, e.Told owner) (w : World) :
    .thresholdTriggered id skill ∉ (Passage.mk w entries).trace := by
  intro hmem
  obtain ⟨e, he, htrace⟩ := List.mem_filterMap.1 hmem
  cases h e he <;> cases htrace

theorem unitUpkeep_oneShot (rules : Rules) (owner : String) (w : World) :
    OneShot id skill w (unitUpkeep rules owner w).outcome := by
  refine (chains_oneShot id skill).unitUpkeep (fun {change} hchange {entries} htold w => ?_)
    (fun line w => ?_) (fun amount w => ?_) w
  · refine .update (p := .unit owner) (f := change) (fun _ b hb => ?_)
      (not_mem_trace_of_told htold _) w
    rw [hasTag_change hchange, hb]
  · refine .of_not_mem ?_ fun hspent => hspent
    simp [Passage.outcome, Passage.trace, Entry.note, Entry.trace?]
  · rw [Passage.outcome_ofOutcome]
    exact Combat.damage_oneShot rules w owner amount

theorem bury_oneShot (d : String × Coord) (w : World) :
    OneShot id skill w (bury d w).outcome := by
  refine .of_not_mem ?_ fun hspent => ?_
  · simp [Passage.outcome, Passage.trace, bury, Entry.note, Entry.trace?]
  · -- A unit that is removed counts as marked; the others are what they were.
    have hget : ((bury d w).outcome.world).unit? id = if id = d.1 then none else w.unit? id :=
      NameMap.get?_erase ..
    rw [World.isSpent, hget]
    split
    · rfl
    · exact hspent

theorem tickToggle_oneShot (toggle : String × String) (w : World) :
    OneShot id skill w (tickToggle toggle w).outcome := by
  have hglobal : ∀ f entries, .thresholdTriggered id skill ∉ (⟨w, entries⟩ : Passage).trace →
      OneShot id skill w (Passage.mk (w.updateGlobal f) entries).outcome := by
    intro f entries htrace
    exact .update (p := .global) (fun hplace => by cases hplace) htrace w
  rw [tickToggle]
  split
  · exact .nothing w
  · split
    · exact hglobal _ [] List.not_mem_nil
    · refine hglobal _ _ ?_
      simp [Passage.trace, Entry.note, Entry.trace?]

theorem beginTurn_oneShot (w : World) : OneShot id skill w (beginTurn w).outcome := by
  refine .of_not_mem ?_ fun hspent => hspent
  simp [Passage.outcome, Passage.trace, beginTurn, Entry.note, Entry.trace?]

theorem run_oneShot (rules : Rules) (w : World) : OneShot id skill w (run rules w).outcome := by
  have hchains := chains_oneShot id skill
  have huntil := hchains.untilTurn (unitUpkeep_oneShot rules) bury_oneShot tickToggle_oneShot w
  exact hchains.andThen beginTurn huntil (beginTurn_oneShot _)

end Skirmish.Upkeep
