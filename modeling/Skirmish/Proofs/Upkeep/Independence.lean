import Skirmish.Proofs.Upkeep.Survivors
import Skirmish.Turn

/-!
# Units in upkeep do not see each other

What the end of a turn makes of a unit, it makes of it in a world in which there is no other unit as
well, and the order in which units are tended to shows nowhere in the world
(`Turn.finish_unitwise`). Damage over time reads the global toggles, but those count down only after
all units have been tended to.
-/

namespace Skirmish

namespace World

/-- The world with all units removed but one. -/
def only (w : World) (id : String) : World := w.without (w.units.names.filter (· ≠ id))

theorem unit?_only (w : World) (id other : String) :
    (w.only id).unit? other = if other = id then w.unit? id else none := by
  rw [only, unit?_without]
  by_cases hother : other = id
  · simp [hother]
  · rw [if_neg hother]
    split
    · rfl
    · next hkept =>
      have hname : other ∉ w.units.names := fun hmem =>
        hkept (List.mem_filter.2 ⟨hmem, decide_eq_true hother⟩)
      rw [NameMap.mem_names_iff] at hname
      exact Option.not_isSome_iff_eq_none.1 hname

theorem global_only (w : World) (id : String) : (w.only id).global = w.global :=
  global_without w _

end World

namespace Upkeep

/-- Upkeep that tends to the units in a given order. -/
def runInOrder (rules : Rules) (ids : List String) (w : World) : Passage :=
  (((Passage.fold (unitUpkeep rules) ids w).andThen buryDead).andThen
    (Passage.fold tickToggle toggles)).andThen beginTurn

theorem run_eq_runInOrder (rules : Rules) (w : World) :
    run rules w = runInOrder rules w.units.names w := rfl

theorem unit?_run_only (rules : Rules) (w : World) (id : String) :
    (run rules (w.only id)).world.unit? id = (run rules w).world.unit? id := by
  have hunit : (w.only id).unit? id = w.unit? id := (w.unit?_only id id).trans (if_pos rfl)
  have hown := (unitUpkeep_personal id rules).own (w.only id) w (w.global_only id) hunit
  rw [unit?_run, unit?_run, hown.1]

theorem world_runInOrder (rules : Rules) (ids : List String) (w : World) :
    let tended := (Passage.fold (unitUpkeep rules) ids w).world
    (runInOrder rules ids w).world =
      (beginTurn (Passage.fold tickToggle toggles (buryDead tended).world).world).world := by
  rw [runInOrder, Passage.world_andThen, Passage.world_andThen, Passage.world_andThen]

theorem world_runInOrder_perm (rules : Rules) {ids : List String} {w : World}
    (h : ids.Perm w.units.names) : (runInOrder rules ids w).world = (run rules w).world := by
  have htended := world_fold_perm (unitUpkeep_personal · rules) w.units.nodup_names h.symm w
  rw [run_eq_runInOrder, world_runInOrder, world_runInOrder, htended]

end Upkeep

namespace Turn

/-- Whether a unit survives the end of a turn, and with which variables and tags, is the same
without all other units; hence the order in which units are tended to does not matter. -/
theorem finish_unitwise (rules : Rules) (w : World) :
    (∀ id, (finish rules (w.only id)).world.unit? id = (finish rules w).world.unit? id) ∧
    ∀ ids, ids.Perm w.units.names →
      (Upkeep.runInOrder rules ids w).world = (finish rules w).world :=
  ⟨fun id => Upkeep.unit?_run_only rules w id, fun _ h => Upkeep.world_runInOrder_perm rules h⟩

end Turn

end Skirmish
