import Skirmish.Proofs.Upkeep.Bag
import Skirmish.Proofs.Upkeep.Personal

/-!
# Who survives upkeep

Upkeep first tends to all units and then removes those without health. What becomes of a unit is
what its own upkeep makes of it, in the world as it was at the beginning, if that leaves it alive
(`unit?_run`). A unit that has no health to begin with is not tended to, so it is removed in any
case (`unit?_run_of_dead`).
-/

namespace Skirmish

namespace World

/-- The world without some units. -/
def without (w : World) (ids : List String) : World := ids.foldl dropUnit w

theorem unit?_without (w : World) (ids : List String) (id : String) :
    (w.without ids).unit? id = if id ∈ ids then none else w.unit? id := by
  induction ids generalizing w with
  | nil => simp [without]
  | cons other ids ih =>
    have hdrop : (w.dropUnit other).unit? id = if id = other then none else w.unit? id :=
      NameMap.get?_erase ..
    have hcons : w.without (other :: ids) = (w.dropUnit other).without ids := rfl
    rw [hcons, ih, hdrop]
    by_cases hid : id ∈ ids
    · rw [if_pos hid, if_pos (List.mem_cons_of_mem other hid)]
    · by_cases hother : id = other
      · simp [hother]
      · simp [hid, hother]

theorem names_without (w : World) (ids : List String) :
    (w.without ids).units.names = w.units.names.filter (· ∉ ids) := by
  induction ids generalizing w with
  | nil =>
    refine (List.filter_eq_self.2 fun id _ => ?_).symm
    simp
  | cons other ids ih =>
    have hdrop : (w.dropUnit other).units.names = w.units.names.filter (· != other) := by
      rw [NameMap.names, NameMap.names, dropUnit, NameMap.erase, List.filter_map]
      rfl
    have hcons : w.without (other :: ids) = (w.dropUnit other).without ids := rfl
    rw [hcons, ih, hdrop, List.filter_filter]
    refine List.filter_congr fun id _ => ?_
    by_cases hother : id = other <;> simp [hother]

theorem global_without (w : World) (ids : List String) : (w.without ids).global = w.global := by
  induction ids generalizing w with
  | nil => rfl
  | cons other ids ih => exact ih (w.dropUnit other)

end World

namespace Upkeep

/-! ## The dead -/

theorem world_fold_bury (list : List (String × Coord)) (w : World) :
    (Passage.fold bury list w).world = w.without (list.map Prod.fst) := by
  induction list generalizing w with
  | nil => rfl
  | cons d list ih => exact ih (w.dropUnit d.1)

theorem map_fst_dead (w : World) :
    (dead w).map Prod.fst = w.units.names.filter fun id => (w.unit? id).any (!·.isAlive) := by
  rw [dead, List.map_map]
  exact NameMap.map_fst_filter_entries w.units fun u => !u.2.isAlive

theorem mem_dead_iff {w : World} {id : String} {position : Coord} :
    (id, position) ∈ dead w ↔
      ∃ unit, w.unit? id = some unit ∧ unit.isAlive = false ∧ unit.position = position := by
  constructor
  · intro h
    obtain ⟨u, hu, hpair⟩ := List.mem_map.1 h
    obtain ⟨hmem, halive⟩ := List.mem_filter.1 hu
    cases hpair
    exact ⟨u.2, NameMap.get?_of_mem_entries hmem, by simpa using halive, rfl⟩
  · rintro ⟨unit, hunit, halive, rfl⟩
    refine List.mem_map.2 ⟨(id, unit), List.mem_filter.2 ⟨?_, by simp [halive]⟩, rfl⟩
    exact NameMap.mem_entries_of_get? hunit

theorem unit?_buryDead (w : World) (id : String) :
    (buryDead w).world.unit? id = (w.unit? id).filter Bag.isAlive := by
  rw [buryDead, world_fold_bury, World.unit?_without, map_fst_dead]
  cases hw : w.unit? id with
  | none => simp
  | some unit =>
    have hmem : id ∈ w.units.names := NameMap.mem_names_iff.2 (Option.isSome_of_eq_some hw)
    rw [Option.filter_some]
    cases halive : unit.isAlive <;> simp [List.mem_filter, hmem, hw, halive]

/-! ## The end of upkeep -/

theorem units_tickToggle (toggle : String × String) (w : World) :
    (tickToggle toggle w).world.units = w.units := by
  rw [tickToggle]
  split
  · rfl
  · split <;> rfl

theorem chains_units : Chains fun w p => p.world.units = w.units :=
  ⟨fun _ => rfl, fun _ hp hnext => hnext.trans hp⟩

/-- The world once all units have been tended to, before the dead are removed. -/
def tended (rules : Rules) (w : World) : World :=
  (Passage.fold (unitUpkeep rules) w.units.names w).world

theorem units_beginTurn (w : World) : (beginTurn w).world.units = w.units := rfl

theorem units_run (rules : Rules) (w : World) :
    (run rules w).world.units = (buryDead (tended rules w)).world.units := by
  have htoggles := chains_units.fold fun toggle (_ : toggle ∈ toggles) => units_tickToggle toggle
  rw [run, Passage.world_andThen, units_beginTurn, Passage.world_andThen, htoggles,
    Passage.world_andThen, tended]

/-! ## What becomes of a unit -/

theorem sameFrame_tended (rules : Rules) (w : World) : w.SameFrame (tended rules w) :=
  sameFrame_fold (unitUpkeep_personal · rules) w.units.names w

theorem unit?_tended (rules : Rules) (w : World) (id : String) :
    (tended rules w).unit? id = (unitUpkeep rules id w).world.unit? id := by
  by_cases hid : id ∈ w.units.names
  · exact unit?_fold (unitUpkeep_personal · rules) w.units.nodup_names hid w
  · have hnone : w.unit? id = none := by
      rw [NameMap.mem_names_iff] at hid
      exact Option.not_isSome_iff_eq_none.1 hid
    rw [(sameFrame_tended rules w).unit?_of_none hnone,
      ((unitUpkeep_personal id rules).sameFrame w).unit?_of_none hnone]

/-- A unit leaves upkeep as its own upkeep leaves it, if it is alive then. -/
theorem unit?_run (rules : Rules) (w : World) (id : String) :
    (run rules w).world.unit? id =
      ((unitUpkeep rules id w).world.unit? id).filter Bag.isAlive := by
  rw [World.unit?, units_run, ← World.unit?, unit?_buryDead, unit?_tended]

/-- A unit without health stays without, whatever its statuses, and is not tended to any further. -/
theorem unit?_unitUpkeep_of_dead (rules : Rules) {w : World} {id : String} {unit : Bag}
    (hunit : w.unit? id = some unit) (hdead : unit.isAlive = false) :
    ∃ last, (unitUpkeep rules id w).world.unit? id = some last ∧ last.isAlive = false := by
  have hstatus : ∀ status ∈ Stat.timedStatuses, Stat.hp ∉ status.vars := by decide
  let ticked := (tickStatuses id Stat.timedStatuses unit).1
  have hticked : (onUnit id (tickStatuses id Stat.timedStatuses) w).world.unit? id =
      some ((Place.unit id).keep ticked) := by
    rw [onUnit_of_some hunit]
    exact World.unit?_updateUnit_self hunit _
  have hhp : ((Place.unit id).keep ticked).isAlive = false := by
    have hsame : ticked.hp = unit.hp := Bag.int_congr (get?_tickStatuses hstatus id unit)
    rw [Bag.isAlive, Place.hp_keep, hsame]
    exact hdead
  refine ⟨_, ?_, hhp⟩
  rw [unitUpkeep]
  simp only [Passage.andThen, hticked, Option.map_some, Option.getD_some, hhp]
  exact hticked

theorem unit?_run_of_dead (rules : Rules) {w : World} {id : String} {unit : Bag}
    (hunit : w.unit? id = some unit) (hdead : unit.isAlive = false) :
    (run rules w).world.unit? id = none := by
  obtain ⟨last, hlast, hdead'⟩ := unit?_unitUpkeep_of_dead rules hunit hdead
  rw [unit?_run, hlast]
  simp [hdead']

end Upkeep

end Skirmish
