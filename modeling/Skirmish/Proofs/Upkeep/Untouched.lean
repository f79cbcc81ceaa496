import Skirmish.Proofs.Upkeep.Frame
import Skirmish.Proofs.Upkeep.Statuses
import Skirmish.Turn

/-!
# What the end of a turn leaves alone

Upkeep knows a unit by the names of its statuses, its vital variables, its shield and what it
suffers from. A unit without changes per turn keeps all other variables (`get?_run`), and every unit
keeps all tags that belong to no status or affliction and mark no threshold (`hasTag_run`). Of the
battle as a whole only the global toggles count down, and tiles are never touched
(`Turn.finish_frame`).
-/

namespace Skirmish

namespace Upkeep

/-! ## Tiles -/

theorem tiles_tended (rules : Rules) (w : World) : (tended rules w).tiles = w.tiles := by
  refine (World.tiles_eq_of_tile? (sameFrame_tended rules w) fun p => ?_).symm
  have hbag := bag?_fold (unitUpkeep_personal · rules) w.units.names w (p := .tile p) (by simp)
  exact hbag.symm

theorem chains_tiles : Chains fun w p => p.world.tiles = w.tiles :=
  ⟨fun _ => rfl, fun _ hp hnext => hnext.trans hp⟩

theorem tiles_tickToggle (toggle : String × String) (w : World) :
    (tickToggle toggle w).world.tiles = w.tiles := by
  rw [tickToggle]
  split
  · rfl
  · split <;> rfl

theorem tiles_run (rules : Rules) (w : World) : (run rules w).world.tiles = w.tiles := by
  have hturn : ∀ v, (beginTurn v).world.tiles = v.tiles := fun _ => rfl
  have htoggles := chains_tiles.fold fun toggle (_ : toggle ∈ toggles) => tiles_tickToggle toggle
  have hburied : ∀ v, (buryDead v).world.tiles = v.tiles :=
    fun v => chains_tiles.fold (fun d (_ : d ∈ dead v) _ => rfl) v
  rw [run, Passage.world_andThen, hturn, Passage.world_andThen, htoggles, Passage.world_andThen,
    hburied, ← tended, tiles_tended]

/-! ## The battle as a whole -/

theorem get?_global_run {name : String} (h : name ∉ toggles.map Prod.fst) (rules : Rules)
    (w : World) : (run rules w).world.global.get? name = w.global.get? name := by
  rw [global_run rules ""]
  refine get?_tickStatuses (fun status hstatus hvar => h ?_) "" w.global
  obtain ⟨toggle, htoggle, rfl⟩ := List.mem_map.1 hstatus
  have hcounter : name = toggle.1 := List.mem_singleton.1 hvar
  exact hcounter ▸ List.mem_map_of_mem htoggle

theorem hasTag_global_run {tag : String} (h : tag ∉ toggles.map Prod.snd) (rules : Rules)
    (w : World) : (run rules w).world.global.hasTag tag = w.global.hasTag tag := by
  rw [global_run rules ""]
  refine hasTag_tickStatuses (fun status hstatus htag => h ?_) "" w.global
  obtain ⟨toggle, htoggle, rfl⟩ := List.mem_map.1 hstatus
  exact htag ▸ List.mem_map_of_mem htoggle

/-! ## Units -/

variable {id : String} {unit last : Bag} {w : World}

/-- A tag that no status and no affliction is for and that marks no threshold is the same after a
turn that its unit survives. -/
theorem hasTag_run {tag : String} (htag : IsLasting tag)
    (hstatuses : ∀ status ∈ Stat.timedStatuses, tag ≠ status.tag) (rules : Rules)
    (hlast : (run rules w).world.unit? id = some last) :
    ∃ unit, w.unit? id = some unit ∧ last.hasTag tag = unit.hasTag tag := by
  have hnone : ∀ name ∈ ([] : List String), name ∉ livingVars := List.forall_mem_nil _
  obtain ⟨hlast, unit, hunit⟩ := of_unit?_run rules hlast
  have hsteady : Steady [] unit := fun _ h => absurd h List.not_mem_nil
  obtain ⟨last', hlast', hkept⟩ := has_unitUpkeep_kept rules hnone htag hunit hsteady
  cases hlast.symm.trans hlast'
  exact ⟨unit, hunit, hkept.hasTag_eq.trans (hasTag_tickStatuses hstatuses id unit)⟩

/-- The variables of a unit that upkeep changes under names of its own: those of its statuses, its
vital variables and its shield, and those of its afflictions. -/
def upkeepVars : List String := Stat.timedStatuses.flatMap Stat.TimedStatus.vars ++ livingVars

/-- The tags of a unit that upkeep takes off: those of its statuses and its afflictions. -/
def upkeepTags : List String :=
  Stat.timedStatuses.map Stat.TimedStatus.tag ++ afflictions.map Affliction.tag

/-- A unit carries no variable whose name begins like that of a change per turn. -/
def Unchanging (unit : Bag) : Prop :=
  ∀ name, unit.contains name = true → afterPrefix? Stat.perTurn name = none

/-- Nothing differs but what upkeep changes under names of its own and the marks of thresholds. -/
structure Untouched (unit last : Bag) : Prop where
  get?_eq : ∀ name, name ∉ upkeepVars → last.get? name = unit.get? name
  hasTag_eq : ∀ tag, tag ∉ upkeepTags → afterPrefix? Stat.thresholdFiredFamily tag = none →
    last.hasTag tag = unit.hasTag tag

theorem Unchanging.steady (h : Unchanging unit) (names : List String) : Steady names unit := by
  intro name _ depth
  rw [← Option.not_isSome_iff_eq_none]
  intro hcarried
  have hplain := h _ hcarried
  rw [Stat.changeOf, afterPrefix?_append] at hplain
  cases hplain

theorem untouched_run (rules : Rules) (hunit : w.unit? id = some unit) (hplain : Unchanging unit)
    (hlast : (run rules w).world.unit? id = some last) : Untouched unit last := by
  refine ⟨fun name hname => ?_, fun tag htag hmark => ?_⟩
  · rw [upkeepVars, List.mem_append, not_or, List.mem_flatMap] at hname
    obtain ⟨hstatuses, hliving⟩ := hname
    obtain ⟨unit', hunit', hget⟩ := get?_run rules hliving
      (fun status hstatus hvar => hstatuses ⟨status, hstatus, hvar⟩)
      (fun unit' hunit' => Option.some.inj (hunit.symm.trans hunit') ▸ hplain.steady [name]) hlast
    cases hunit.symm.trans hunit'
    exact hget
  · rw [upkeepTags, List.mem_append, not_or] at htag
    obtain ⟨hstatuses, hafflictions⟩ := htag
    obtain ⟨unit', hunit', htagged⟩ := hasTag_run ⟨hafflictions, hmark⟩
      (fun status hstatus heq => hstatuses (heq ▸ List.mem_map_of_mem hstatus)) rules hlast
    cases hunit.symm.trans hunit'
    exact htagged

end Upkeep

namespace Turn

open Upkeep

/-- The end of a turn leaves the seed, the counter of rolls and the tiles alone, and of the battle
as a whole everything but the global toggles. Every unit that survives it was there before, and
without changes per turn nothing differs but what upkeep changes under names of its own. -/
theorem finish_frame (rules : Rules) (w : World) :
    let last := (finish rules w).world
    (last.seed = w.seed ∧ last.rolls = w.rolls ∧ last.tiles = w.tiles) ∧
    (∀ name, name ∉ toggles.map Prod.fst → last.global.get? name = w.global.get? name) ∧
    (∀ tag, tag ∉ toggles.map Prod.snd → last.global.hasTag tag = w.global.hasTag tag) ∧
    ∀ id survivor, last.unit? id = some survivor →
      ∃ unit, w.unit? id = some unit ∧ (Unchanging unit → Untouched unit survivor) := by
  intro last
  obtain ⟨before, hthinned, hturn⟩ := thinned_run rules w
  have hseed : last.seed = w.seed := (congrArg World.seed hturn).trans hthinned.seed.symm
  have hrolls : last.rolls = w.rolls := (congrArg World.rolls hturn).trans hthinned.rolls.symm
  refine ⟨⟨hseed, hrolls, tiles_run rules w⟩, fun name hname => get?_global_run hname rules w,
    fun tag htag => hasTag_global_run htag rules w, fun id survivor hsurvivor => ?_⟩
  obtain ⟨-, unit, hunit⟩ := of_unit?_run rules hsurvivor
  exact ⟨unit, hunit, fun hplain => untouched_run rules hunit hplain hsurvivor⟩

end Turn

end Skirmish
