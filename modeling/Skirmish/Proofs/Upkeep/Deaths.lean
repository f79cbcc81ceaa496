import Skirmish.Proofs.Upkeep.Survivors
import Skirmish.Turn

/-!
# The deaths of a turn

The end of a turn announces deaths only where it removes the dead, so what its events tell of deaths
is the list of the units without health after all have been tended to (`Upkeep.deaths_run`). Hence
removals and announcements agree, however many units die at once (`Turn.deaths_finish`).
-/

namespace Skirmish

namespace Event

/-- The unit whose death an event announces, and its place. -/
def death? : Event → Option (String × Coord)
  | died id position => some (id, position)
  | batchApplied .. | advanced .. | statusExpired .. | damaged .. | healed .. | evaded ..
  | thresholdTriggered .. => none

def deaths (events : List Event) : List (String × Coord) := events.filterMap death?

end Event

namespace Upkeep

variable {id : String}

def Passage.deaths (p : Passage) : List (String × Coord) := Event.deaths p.events

namespace Passage

theorem deaths_eq_filterMap (p : Passage) :
    p.deaths = p.entries.filterMap fun e => e.event?.bind Event.death? :=
  List.filterMap_filterMap

theorem deaths_andThen (p : Passage) (next : World → Passage) :
    (p.andThen next).deaths = p.deaths ++ (next p.world).deaths := by
  simp only [deaths_eq_filterMap]
  exact List.filterMap_append

theorem deaths_ofOutcome (o : Outcome) : (ofOutcome o).deaths = [] := by
  rw [deaths_eq_filterMap, List.filterMap_eq_nil_iff]
  intro e he
  obtain ⟨recorded, -, rfl⟩ := List.mem_map.1 he
  cases recorded <;> rfl

theorem deaths_of_told {p : Passage} (h : ∀ e ∈ p.entries, e.Told id) : p.deaths = [] := by
  rw [deaths_eq_filterMap, List.filterMap_eq_nil_iff]
  intro e he
  cases h e he <;> rfl

end Passage

/-! ## Nobody dies while being tended to -/

theorem chains_deaths_eq_nil : Chains fun _ p => p.deaths = [] := by
  refine ⟨fun _ => rfl, fun {w p} next hp hnext => ?_⟩
  rw [Passage.deaths_andThen, hp, hnext, List.append_nil]

theorem deaths_unitUpkeep (rules : Rules) (id : String) (w : World) :
    (unitUpkeep rules id w).deaths = [] := by
  refine chains_deaths_eq_nil.unitUpkeep (fun {_} _ {_} htold w => ?_) (fun _ _ => rfl)
    (fun _ _ => Passage.deaths_ofOutcome _) w
  exact Passage.deaths_of_told htold

theorem deaths_tickToggle (toggle : String × String) (w : World) :
    (tickToggle toggle w).deaths = [] := by
  rw [tickToggle]
  split
  · rfl
  · split <;> rfl

/-! ## All deaths are announced -/

theorem deaths_fold_bury (list : List (String × Coord)) (w : World) :
    (Passage.fold bury list w).deaths = list := by
  induction list generalizing w with
  | nil => rfl
  | cons d list ih =>
    rw [Passage.fold, Passage.deaths_andThen, ih]
    rfl

theorem deaths_run (rules : Rules) (w : World) : (run rules w).deaths = dead (tended rules w) := by
  have htended : (Passage.fold (unitUpkeep rules) w.units.names w).deaths = [] :=
    chains_deaths_eq_nil.fold (fun id _ => deaths_unitUpkeep rules id) w
  have htoggles : ∀ v, (Passage.fold tickToggle toggles v).deaths = [] :=
    chains_deaths_eq_nil.fold fun toggle _ => deaths_tickToggle toggle
  have hturn : ∀ v, (beginTurn v).deaths = [] := fun _ => rfl
  rw [run, Passage.deaths_andThen, Passage.deaths_andThen, Passage.deaths_andThen, htended,
    htoggles, hturn, List.append_nil, List.append_nil, List.nil_append]
  exact deaths_fold_bury _ _

/-! ## The units that are left -/

theorem names_run (rules : Rules) (w : World) :
    (run rules w).world.units.names =
      w.units.names.filter (· ∉ (dead (tended rules w)).map Prod.fst) := by
  rw [units_run, buryDead, world_fold_bury, World.names_without, (sameFrame_tended rules w).ids]

theorem sorted_dead (w : World) : ((dead w).map Prod.fst).Pairwise (· < ·) := by
  rw [map_fst_dead]
  exact w.units.sorted_names.filter _

theorem mem_dead_tended_iff (rules : Rules) (w : World) (id : String) :
    id ∈ (dead (tended rules w)).map Prod.fst ↔
      w.hasUnit id = true ∧ (run rules w).world.hasUnit id = false := by
  have hsubset : id ∈ (dead (tended rules w)).map Prod.fst → id ∈ w.units.names := by
    rw [map_fst_dead, ← (sameFrame_tended rules w).ids]
    exact fun h => (List.mem_filter.1 h).1
  rw [World.hasUnit, World.hasUnit, ← NameMap.mem_names_iff, ← Bool.not_eq_true,
    ← NameMap.mem_names_iff, names_run, List.mem_filter, decide_eq_true_eq]
  constructor
  · intro h
    exact ⟨hsubset h, fun hkept => hkept.2 h⟩
  · rintro ⟨hname, hgone⟩
    exact Classical.byContradiction fun h => hgone ⟨hname, h⟩

theorem pos_hp_of_unit?_run (rules : Rules) (w : World) {unit : Bag}
    (h : (run rules w).world.unit? id = some unit) : 0 < unit.hp := by
  rw [unit?_run] at h
  have halive := (Option.filter_eq_some_iff.1 h).2
  rwa [Bag.isAlive, decide_eq_true_eq] at halive

end Upkeep

namespace Turn

/-- After a turn has ended, all units that are left are alive, and those that were not alive to
begin with are gone. The units that are gone are the ones whose deaths the events announce, each
once, by id, and where it was in the end; the others are all there. -/
theorem deaths_finish (rules : Rules) (w : World) :
    let ended := finish rules w
    let deaths := Event.deaths ended.events
    (∀ id unit, ended.world.unit? id = some unit → 0 < unit.hp) ∧
    (∀ id unit, w.unit? id = some unit → unit.hp ≤ 0 → ended.world.hasUnit id = false) ∧
    (deaths.map Prod.fst).Pairwise (· < ·) ∧
    (∀ id, id ∈ deaths.map Prod.fst ↔ w.hasUnit id = true ∧ ended.world.hasUnit id = false) ∧
    (∀ id position, (id, position) ∈ deaths →
      ∃ unit, (Upkeep.tended rules w).unit? id = some unit ∧ unit.position = position) ∧
    ended.world.units.names = w.units.names.filter (· ∉ deaths.map Prod.fst) := by
  intro ended deaths
  have hworld : ended.world = (Upkeep.run rules w).world := rfl
  have hdeaths : deaths = Upkeep.dead (Upkeep.tended rules w) := Upkeep.deaths_run rules w
  rw [hworld, hdeaths]
  refine ⟨fun id unit hunit => ?_, fun id unit hunit hdead => ?_, Upkeep.sorted_dead _,
    Upkeep.mem_dead_tended_iff rules w, fun id position hdeath => ?_, Upkeep.names_run rules w⟩
  · exact Upkeep.pos_hp_of_unit?_run rules w hunit
  · have halive : unit.isAlive = false := decide_eq_false (Int64.not_lt.2 hdead)
    rw [World.hasUnit, NameMap.contains, ← World.unit?, Upkeep.unit?_run_of_dead rules hunit halive]
    rfl
  · obtain ⟨unit, hunit, -, hposition⟩ := Upkeep.mem_dead_iff.1 hdeath
    exact ⟨unit, hunit, hposition⟩

end Turn

end Skirmish
