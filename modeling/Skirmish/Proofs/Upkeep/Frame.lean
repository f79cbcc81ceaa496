import Skirmish.Proofs.Footprint.Combat
import Skirmish.Proofs.Upkeep.Passage

/-!
# The frame of upkeep

Upkeep changes bags, then removes the dead, and at last counts the turn. Up to the new turn it
leaves the clock, the seed, the counter of rolls and the size of the grid alone, and the units that
are left were there before and have health (`World.Thinned`).
-/

namespace Skirmish

/-- Worlds that differ in what their bags hold, and in that the second may lack units. -/
structure World.Thinned (v w : World) : Prop where
  turn : v.turn = w.turn
  seed : v.seed = w.seed
  rolls : v.rolls = w.rolls
  width : v.tiles.width = w.tiles.width
  height : v.tiles.height = w.tiles.height
  ids : w.units.names ⊆ v.units.names
  hasHealth : v.HasHealth → w.HasHealth

namespace World.Thinned

variable {u v w : World}

theorem refl (w : World) : w.Thinned w := ⟨rfl, rfl, rfl, rfl, rfl, List.Subset.refl _, id⟩

theorem trans (h : u.Thinned v) (k : v.Thinned w) : u.Thinned w :=
  ⟨h.turn.trans k.turn, h.seed.trans k.seed, h.rolls.trans k.rolls, h.width.trans k.width,
    h.height.trans k.height, List.Subset.trans k.ids h.ids, k.hasHealth ∘ h.hasHealth⟩

theorem of_sameFrame (h : v.SameFrame w) (hhealth : v.HasHealth → w.HasHealth) : v.Thinned w :=
  ⟨h.turn, h.seed, h.rolls, h.width, h.height, h.ids ▸ List.Subset.refl _, hhealth⟩

theorem update (w : World) (f : Bag → Bag) (p : Place) : w.Thinned (w.update f p) :=
  of_sameFrame (World.sameFrame_update w f p) fun h => h.update f p

theorem dropUnit (w : World) (id : String) : w.Thinned (w.dropUnit id) := by
  -- What is found afterwards was found before.
  have hget : ∀ name unit, (w.dropUnit id).unit? name = some unit → w.unit? name = some unit := by
    intro name unit h
    rw [World.unit?, World.dropUnit, NameMap.get?_erase] at h
    split at h
    · cases h
    · exact h
  refine ⟨rfl, rfl, rfl, rfl, rfl, fun name hname => ?_, fun h name unit hunit => ?_⟩
  · obtain ⟨unit, hunit⟩ := Option.isSome_iff_exists.1 (NameMap.mem_names_iff.1 hname)
    exact NameMap.mem_names_iff.2 (Option.isSome_of_eq_some (hget name unit hunit))
  · exact h name unit (hget name unit hunit)

end World.Thinned

namespace Upkeep

theorem chains_thinned : Chains fun w p => w.Thinned p.world :=
  ⟨.refl, fun _ hp hnext => hp.trans hnext⟩

theorem thinned_unitUpkeep (rules : Rules) (id : String) (w : World) :
    w.Thinned (unitUpkeep rules id w).world := by
  refine chains_thinned.unitUpkeep (fun {change} _ _ _ w => ?_) (fun _ w => .refl w)
    (fun amount w => ?_) w
  · exact .update w change (.unit id)
  · have hconfined : Confined _ _ fun w => (Combat.damage rules w id amount).outcome :=
      Combat.damage_confined rules amount
    exact .of_sameFrame (hconfined.sameFrame w) hconfined.hasHealth

theorem thinned_bury (d : String × Coord) (w : World) : w.Thinned (bury d w).world :=
  .dropUnit w d.1

theorem thinned_tickToggle (toggle : String × String) (w : World) :
    w.Thinned (tickToggle toggle w).world := by
  have hglobal : ∀ f, w.Thinned (w.updateGlobal f) := fun f => .update w f .global
  rw [tickToggle]
  split
  · exact .refl w
  · split
    · exact hglobal (·.set toggle.1 (.int (w.global.int toggle.1 - 1)))
    · exact hglobal fun g => (g.unset toggle.1).untag toggle.2

/-- Upkeep keeps the frame but for the dead, and then begins the next turn. -/
theorem thinned_run (rules : Rules) (w : World) :
    ∃ last, w.Thinned last ∧ (run rules w).world = { last with turn := last.turn + 1 } := by
  have huntil :=
    chains_thinned.untilTurn (thinned_unitUpkeep rules) thinned_bury thinned_tickToggle w
  exact ⟨_, huntil, rfl⟩

end Upkeep

end Skirmish
