import Skirmish.Proofs.Upkeep.Announced
import Skirmish.Proofs.Upkeep.Living

/-!
# How long statuses last

Every upkeep takes one turn off a status: as long as some are left, only the counter changes, and
with the last one counter, tag and companion go (`lasts_tickStatus`). The other statuses of a unit
have nothing to do with it, and neither has what the unit does while it is alive, so one turn is
what a whole upkeep takes off (`lasts_run`). The global toggles are statuses of the battle
(`lasts_global_run`).
-/

namespace Skirmish.Upkeep

/-- A status has some turns left and is otherwise what it was first, or it has none and is over. -/
structure Lasts (status : Stat.TimedStatus) (first : Bag) (left : Nat) (unit : Bag) : Prop where
  running : 0 < left → (unit.int status.counter).toInt = left ∧
    unit.hasTag status.tag = first.hasTag status.tag ∧
    ∀ name ∈ status.companion?, unit.get? name = first.get? name
  ended : left = 0 → unit.hasTag status.tag = false ∧ ∀ name ∈ status.vars, unit.get? name = none

variable {status : Stat.TimedStatus} {statuses : List Stat.TimedStatus}
  {id : String} {first unit last : Bag} {left : Nat} {w : World}

namespace Lasts

theorem start (hleft : 0 < left) (h : (first.int status.counter).toInt = left) :
    Lasts status first left first :=
  ⟨fun _ => ⟨h, rfl, fun _ _ => rfl⟩, fun hover => absurd hover (Nat.ne_of_gt hleft)⟩

theorem congr (h : Lasts status first left unit)
    (hvars : ∀ name ∈ status.vars, last.get? name = unit.get? name)
    (htag : last.hasTag status.tag = unit.hasTag status.tag) : Lasts status first left last := by
  refine ⟨fun hleft => ?_, fun hover => ?_⟩
  · obtain ⟨hcounter, htagged, hvalue⟩ := h.running hleft
    refine ⟨?_, htag.trans htagged, fun name hname => ?_⟩
    · rw [Bag.int_congr (hvars status.counter List.mem_cons_self)]
      exact hcounter
    · rw [hvars name (List.mem_cons_of_mem _ (Option.mem_toList.2 hname))]
      exact hvalue name hname
  · obtain ⟨htagged, hgone⟩ := h.ended hover
    exact ⟨htag.trans htagged, fun name hname => (hvars name hname).trans (hgone name hname)⟩

/-- The counter shows how many turns are left. -/
theorem toInt_counter (h : Lasts status first left unit) :
    (unit.int status.counter).toInt = left := by
  cases left with
  | zero =>
    have hnone := (h.ended rfl).2 status.counter List.mem_cons_self
    rw [Bag.int, hnone]
    rfl
  | succ left => exact (h.running (Nat.succ_pos left)).1

end Lasts

/-! ## Counting down -/

theorem lasts_tickStatus (hown : status.vars.Nodup) (h : Lasts status first left unit)
    (id : String) : Lasts status first (left - 1) (tickStatus id status unit).1 := by
  have hcounter := h.toInt_counter
  rcases tickStatus_cases id status unit with ⟨hidle, heq⟩ | ⟨hruns, heq⟩ |
    ⟨hlast, ended, _, hended, heq⟩
  · have hsame : left - 1 = left := by omega
    rw [heq, hsame]
    exact h
  · obtain ⟨-, htagged, hvalue⟩ := h.running (by omega)
    have hless : (unit.int status.counter - 1).toInt = (left - 1 : Nat) := by
      have hhigh := (unit.int status.counter).toInt_lt
      have hone : (1 : Int64).toInt = 1 := Int64.toInt_one
      rw [Saturating.toInt_sub_of_fits (by omega) (by omega)]
      omega
    rw [heq]
    refine ⟨fun _ => ⟨?_, htagged, fun name hname => ?_⟩, fun hzero => by omega⟩
    · rw [Bag.int_set, if_pos rfl]
      exact hless
    · have hne : name ≠ status.counter := by
        rintro rfl
        exact (List.nodup_cons.1 hown).1 (Option.mem_toList.2 hname)
      rw [Bag.get?_set, if_neg hne]
      exact hvalue name hname
  · rw [hlast, Int64.toInt_one] at hcounter
    rw [heq]
    refine ⟨fun hpos => by omega, fun _ => ⟨?_, fun name hname => ?_⟩⟩
    · rw [hended.hasTag_eq, bne_self_eq_false, Bool.false_and]
    · rw [hended.get?_eq, if_pos hname]

theorem lasts_tickStatuses (hseparate : Separate statuses) (hmem : status ∈ statuses)
    (hown : status.vars.Nodup) (h : Lasts status first left unit) (id : String) :
    Lasts status first (left - 1) (tickStatuses id statuses unit).1 := by
  induction statuses generalizing unit with
  | nil => exact absurd hmem List.not_mem_nil
  | cons other statuses ih =>
    obtain ⟨hother, hrest⟩ := List.pairwise_cons.1 hseparate
    have hcons : (tickStatuses id (other :: statuses) unit).1 =
        (tickStatuses id statuses (tickStatus id other unit).1).1 := rfl
    rw [hcons]
    rcases List.mem_cons.1 hmem with rfl | hmem
    · -- It is counted down first, and those that follow leave it alone.
      refine (lasts_tickStatus hown h id).congr (fun name hname => ?_) ?_
      · exact get?_tickStatuses (fun s hs => (hother s hs).2 name hname) id _
      · exact hasTag_tickStatuses (fun s hs => (hother s hs).1) id _
    · obtain ⟨htag, hvars⟩ := hother status hmem
      refine ih hrest hmem (h.congr (fun name hname => ?_) ?_)
      · exact get?_tickStatus (fun hvar => hvars name hvar hname) id unit
      · exact hasTag_tickStatus htag.symm id unit

/-! ## Statuses of a unit -/

/-- A status that no change per turn is for stays so while statuses are counted down. -/
theorem steady_tickStatuses {names : List String} (h : Steady names unit) (id : String) :
    Steady names (tickStatuses id Stat.timedStatuses unit).1 := by
  have hplain : ∀ status ∈ Stat.timedStatuses, ∀ name ∈ status.vars,
      afterPrefix? Stat.perTurn name = none := by decide
  intro name hname depth
  rw [get?_tickStatuses fun s hs hvar => changeOf_succ_ne (hplain s hs _ hvar) depth name rfl]
  exact h name hname depth

variable (hstatus : status ∈ Stat.timedStatuses) (rules : Rules)

/-- Once its statuses are counted down, a unit keeps what being alive has nothing to do with. -/
theorem has_unitUpkeep_kept {names : List String} {tag : String}
    (hnames : ∀ name ∈ names, name ∉ livingVars) (htag : IsLasting tag)
    (hunit : w.unit? id = some unit) (hsteady : Steady names unit) :
    (unitUpkeep rules id w).world.Has id
      (Kept names tag (tickStatuses id Stat.timedStatuses unit).1) := by
  let counted := (tickStatuses id Stat.timedStatuses unit).1
  have hticked : (onUnit id (tickStatuses id Stat.timedStatuses) w).world.unit? id =
      some ((Place.unit id).keep counted) := by
    rw [onUnit_of_some hunit]
    exact World.unit?_updateUnit_self hunit _
  have hkept : Kept names tag counted ((Place.unit id).keep counted) :=
    (Kept.refl _ _ _).keep hnames id
  rw [unitUpkeep, Passage.world_andThen]
  split
  · exact has_live hnames htag rules (steady_tickStatuses hsteady id) ⟨_, hticked, hkept⟩
  · exact ⟨_, hticked, hkept⟩

include hstatus in
theorem has_unitUpkeep
    (h : w.Has id fun unit => Steady status.vars unit ∧ Lasts status first left unit) :
    (unitUpkeep rules id w).world.Has id fun unit =>
      Steady status.vars unit ∧ Lasts status first (left - 1) unit := by
  have hown : ∀ status ∈ Stat.timedStatuses, status.vars.Nodup := by decide
  have hliving : ∀ status ∈ Stat.timedStatuses,
      (∀ name ∈ status.vars, name ∉ livingVars) ∧ IsLasting status.tag := by decide
  obtain ⟨hnames, htag⟩ := hliving status hstatus
  obtain ⟨unit, hunit, hsteady, hlasts⟩ := h
  obtain ⟨last, hlast, hkept⟩ := has_unitUpkeep_kept rules hnames htag hunit hsteady
  have hcounted := lasts_tickStatuses separate_timedStatuses hstatus (hown status hstatus) hlasts id
  refine ⟨last, hlast, fun name hname depth => ?_, hcounted.congr (fun name hname => ?_) ?_⟩
  · exact (hkept.get?_eq name hname (depth + 1)).trans
      (steady_tickStatuses hsteady id name hname depth)
  · exact hkept.get?_eq name hname 0
  · exact hkept.hasTag_eq

/-- A unit that survives a turn was there before, and is what its own upkeep makes of it. -/
theorem of_unit?_run (hlast : (run rules w).world.unit? id = some last) :
    (unitUpkeep rules id w).world.unit? id = some last ∧ ∃ unit, w.unit? id = some unit := by
  rw [unit?_run] at hlast
  obtain ⟨hlast, -⟩ := Option.filter_eq_some_iff.1 hlast
  refine ⟨hlast, Option.ne_none_iff_exists'.1 fun hw => ?_⟩
  have hnone := ((unitUpkeep_personal id rules).sameFrame w).unit?_of_none hw
  exact absurd (hlast.symm.trans hnone) (Option.some_ne_none last)

include hstatus in
/-- One turn takes one turn off a status of a unit that survives it. -/
theorem lasts_run
    (h : ∀ unit, w.unit? id = some unit → Steady status.vars unit ∧ Lasts status first left unit)
    (hlast : (run rules w).world.unit? id = some last) :
    Steady status.vars last ∧ Lasts status first (left - 1) last := by
  obtain ⟨hlast, unit, hunit⟩ := of_unit?_run rules hlast
  obtain ⟨last', hlast', hholds⟩ := has_unitUpkeep hstatus rules ⟨unit, hunit, h unit hunit⟩
  cases hlast.symm.trans hlast'
  exact hholds

/-- A variable that no status, no affliction and no change per turn is for is the same after a turn
that its unit survives. -/
theorem get?_run {name : String} (hliving : name ∉ livingVars)
    (hstatuses : ∀ status ∈ Stat.timedStatuses, name ∉ status.vars)
    (hsteady : ∀ unit, w.unit? id = some unit → Steady [name] unit)
    (hlast : (run rules w).world.unit? id = some last) :
    ∃ unit, w.unit? id = some unit ∧ last.get? name = unit.get? name := by
  have hnames : ∀ other ∈ [name], other ∉ livingVars := List.forall_mem_singleton.2 hliving
  have htag : IsLasting "undying" := by decide
  obtain ⟨hlast, unit, hunit⟩ := of_unit?_run rules hlast
  obtain ⟨last', hlast', hkept⟩ := has_unitUpkeep_kept rules hnames htag hunit (hsteady unit hunit)
  cases hlast.symm.trans hlast'
  exact ⟨unit, hunit, (hkept.get?_eq name (List.mem_singleton_self name) 0).trans
    (get?_tickStatuses hstatuses id unit)⟩

/-! ## Statuses of the battle -/

/-- A global toggle as a status. -/
def ofToggle (toggle : String × String) : Stat.TimedStatus :=
  { counter := toggle.1, tag := toggle.2 }

theorem global_tickToggle (id : String) (toggle : String × String) (w : World) :
    (tickToggle toggle w).world.global = (tickStatus id (ofToggle toggle) w.global).1 := by
  unfold tickToggle tickStatus ofToggle
  dsimp only
  split
  · rfl
  · split <;> rfl

theorem global_fold_tickToggle (id : String) (list : List (String × String)) (w : World) :
    (Passage.fold tickToggle list w).world.global =
      (tickStatuses id (list.map ofToggle) w.global).1 := by
  induction list generalizing w with
  | nil => rfl
  | cons toggle list ih =>
    have hcons : (tickStatuses id ((toggle :: list).map ofToggle) w.global).1 =
        (tickStatuses id (list.map ofToggle) (tickStatus id (ofToggle toggle) w.global).1).1 := rfl
    rw [Passage.fold, Passage.world_andThen, ih, hcons, global_tickToggle]

theorem global_tended (w : World) : (tended rules w).global = w.global := by
  have hbag := bag?_fold (unitUpkeep_personal · rules) w.units.names w (p := .global) (by simp)
  exact Option.some.inj hbag

theorem global_run (id : String) (w : World) :
    (run rules w).world.global = (tickStatuses id (toggles.map ofToggle) w.global).1 := by
  have hturn : ∀ v, (beginTurn v).world.global = v.global := fun _ => rfl
  rw [run, Passage.world_andThen, hturn, Passage.world_andThen, global_fold_tickToggle,
    Passage.world_andThen, ← tended, buryDead, world_fold_bury, World.global_without, global_tended]

theorem lasts_global_run {toggle : String × String} (htoggle : toggle ∈ toggles)
    (h : Lasts (ofToggle toggle) first left w.global) :
    Lasts (ofToggle toggle) first (left - 1) (run rules w).world.global := by
  have hseparate : Separate (toggles.map ofToggle) := by decide
  have hown : ∀ toggle ∈ toggles, (ofToggle toggle).vars.Nodup := by decide
  rw [global_run rules ""]
  exact lasts_tickStatuses hseparate (List.mem_map_of_mem htoggle) (hown toggle htoggle) h ""

end Skirmish.Upkeep
