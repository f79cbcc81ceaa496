import Skirmish.Proofs.Upkeep.Frame
import Skirmish.Proofs.Upkeep.Survivors

/-!
# What upkeep announces

Upkeep announces which statuses have run out, who has died, and the new turn, in this order. Which
statuses run out is to be read off the units as they were at the beginning, because upkeep of one
unit is nothing to another: they are those whose counter stands at one (`expiries`). The rest of
what the hosts hear repeats the trace (`announced_run`).
-/

namespace Skirmish.Upkeep

variable {id : String} {w : World}

/-- The announcement that an entry is. -/
def Entry.announced? : Entry → Option Event
  | recorded _ => none
  | announced e => some e

namespace Passage

def announced (p : Passage) : List Event := p.entries.filterMap Entry.announced?

theorem announced_andThen (p : Passage) (next : World → Passage) :
    (p.andThen next).announced = p.announced ++ (next p.world).announced :=
  List.filterMap_append

theorem announced_ofOutcome (o : Outcome) : (ofOutcome o).announced = [] := by
  rw [announced, ofOutcome, List.filterMap_map]
  exact List.filterMap_eq_nil_iff.2 fun _ _ => rfl

end Passage

theorem chains_announced : Chains fun _ p => p.announced = [] := by
  refine ⟨fun _ => rfl, fun {w p} next hp hnext => ?_⟩
  rw [Passage.announced_andThen, hp, hnext, List.append_nil]

/-! ## Statuses that run out -/

/-- The statuses of a unit that the next upkeep ends. -/
def expiring (statuses : List Stat.TimedStatus) (unit : Bag) : List Stat.TimedStatus :=
  statuses.filter fun status => unit.int status.counter = 1

/-- The announcements that follow from this. -/
def expiries (id : String) (unit : Bag) : List Event :=
  (expiring Stat.timedStatuses unit).map fun status => .statusExpired id status.tag

theorem announced_tickStatus (id : String) (status : Stat.TimedStatus) (unit : Bag) :
    (tickStatus id status unit).2.filterMap Entry.announced? =
      if unit.int status.counter = 1 then [.statusExpired id status.tag] else [] := by
  have hone : unit.int status.counter = 1 ↔ (unit.int status.counter).toInt = 1 := by
    rw [← Int64.toInt_inj, Int64.toInt_one]
  rcases tickStatus_cases id status unit with ⟨hidle, heq⟩ | ⟨hruns, heq⟩ | ⟨hlast, _, _, -, heq⟩
  · rw [heq, if_neg (mt hone.1 (by omega))]
    rfl
  · rw [heq, if_neg (mt hone.1 (by omega))]
    rfl
  · rw [heq, if_pos hlast]
    rfl

/-- Statuses that share no tag and no variable. -/
def Separate (statuses : List Stat.TimedStatus) : Prop :=
  statuses.Pairwise fun first later =>
    first.tag ≠ later.tag ∧ ∀ name ∈ first.vars, name ∉ later.vars

instance (statuses : List Stat.TimedStatus) : Decidable (Separate statuses) :=
  inferInstanceAs (Decidable (List.Pairwise _ _))

theorem announced_tickStatuses {statuses : List Stat.TimedStatus} (h : Separate statuses)
    (id : String) (unit : Bag) :
    (tickStatuses id statuses unit).2.filterMap Entry.announced? =
      (expiring statuses unit).map fun status => .statusExpired id status.tag := by
  induction statuses generalizing unit with
  | nil => rfl
  | cons status statuses ih =>
    obtain ⟨hfirst, hrest⟩ := List.pairwise_cons.1 h
    -- The counters of the others still stand where they stood.
    have hkept : expiring statuses (tickStatus id status unit).1 = expiring statuses unit := by
      refine List.filter_congr fun later hlater => ?_
      have hcounter : later.counter ∉ status.vars := fun hvar =>
        (hfirst later hlater).2 later.counter hvar List.mem_cons_self
      rw [Bag.int_congr (get?_tickStatus hcounter id unit)]
    have hcons : (tickStatuses id (status :: statuses) unit).2 = (tickStatus id status unit).2 ++
        (tickStatuses id statuses (tickStatus id status unit).1).2 := rfl
    rw [hcons, List.filterMap_append, announced_tickStatus, ih hrest, hkept]
    by_cases hone : unit.int status.counter = 1 <;> simp [expiring, hone]

theorem separate_timedStatuses : Separate Stat.timedStatuses := by decide

/-! ## The upkeep of one unit -/

theorem announced_onUnit {step : Bag → Bag × List Entry}
    (h : ∀ unit, (step unit).2.filterMap Entry.announced? = []) (id : String) (w : World) :
    (onUnit id step w).announced = [] := by
  cases hw : w.unit? id with
  | none =>
    rw [onUnit_of_none hw]
    rfl
  | some unit =>
    rw [onUnit_of_some hw]
    exact h unit

theorem announced_regen (id vital maxName rateName : String) (unit : Bag) :
    (regen id vital maxName rateName unit).2.filterMap Entry.announced? = [] := by
  rcases regen_cases id vital maxName rateName unit with hsame | ⟨next, line, hset, -⟩
  · rw [hsame]
    rfl
  · rw [hset]
    rfl

theorem announced_suffer (rules : Rules) (id : String) (a : Affliction) (w : World) :
    (suffer rules id a w).announced = [] := by
  unfold suffer
  split
  · rfl
  · dsimp only
    split
    · rfl
    · rw [Passage.announced_andThen, Passage.announced_andThen, Passage.announced_ofOutcome]
      split <;> rfl

/-- A unit that is alive announces nothing but its expiries. -/
theorem announced_live (rules : Rules) (id : String) (w : World) :
    (live rules id w).announced = [] := by
  have hregenerate : ∀ w, (onUnit id (regenerate id) w).announced = [] := by
    refine announced_onUnit (fun unit => ?_) id
    rw [regenerate_eq, List.filterMap_append, announced_regen, announced_regen, List.append_nil]
  have hchange : ∀ w, (onUnit id (fun unit => (applyChanges rules unit, [])) w).announced = [] :=
    announced_onUnit (fun _ => rfl) id
  have hsuffer : ∀ w, (Passage.fold (suffer rules id) afflictions w).announced = [] :=
    chains_announced.fold fun a _ => announced_suffer rules id a
  rw [live, Passage.announced_andThen, Passage.announced_andThen, hregenerate, hchange, hsuffer]
  rfl

theorem announced_unitUpkeep (rules : Rules) {unit : Bag} (h : w.unit? id = some unit) :
    (unitUpkeep rules id w).announced = expiries id unit := by
  have hticked : (onUnit id (tickStatuses id Stat.timedStatuses) w).announced =
      expiries id unit := by
    rw [onUnit_of_some h, Passage.announced, announced_tickStatuses separate_timedStatuses]
    rfl
  have hrest : ∀ w, (if ((w.unit? id).map Bag.isAlive).getD false then live rules id w
      else ⟨w, []⟩ : Passage).announced = [] := by
    intro w
    split
    · exact announced_live rules id w
    · rfl
  rw [unitUpkeep, Passage.announced_andThen, hticked, hrest, List.append_nil]

/-! ## The whole of upkeep -/

/-- What a pass over many units tells is what each of them tells in the world at the beginning. -/
theorem entries_fold {step : String → World → Passage} (h : ∀ id, Personal id (step id))
    {ids : List String} (hids : ids.Nodup) (w : World) :
    (Passage.fold step ids w).entries = ids.flatMap fun id => (step id w).entries := by
  induction ids generalizing w with
  | nil => rfl
  | cons first ids ih =>
    obtain ⟨hfirst, hrest⟩ := List.nodup_cons.1 hids
    have hlater : ∀ id ∈ ids, (step id (step first w).world).entries = (step id w).entries := by
      intro id hid
      have hne : id ≠ first := fun heq => hfirst (heq ▸ hid)
      exact ((h id).own _ w ((h first).global_eq w) ((h first).unit?_of_ne w hne)).2
    have hcons : (Passage.fold step (first :: ids) w).entries =
        (step first w).entries ++ (Passage.fold step ids (step first w).world).entries := rfl
    have hflat : (ids.flatMap fun id => (step id (step first w).world).entries) =
        ids.flatMap fun id => (step id w).entries := by
      rw [List.flatMap, List.flatMap, List.map_congr_left hlater]
    rw [hcons, ih hrest, List.flatMap_cons, hflat]

theorem announced_fold_bury (list : List (String × Coord)) (w : World) :
    (Passage.fold bury list w).announced = list.map fun d => .died d.1 d.2 := by
  induction list generalizing w with
  | nil => rfl
  | cons d list ih =>
    rw [Passage.fold, Passage.announced_andThen, ih]
    rfl

theorem announced_tickToggle (toggle : String × String) (w : World) :
    (tickToggle toggle w).announced = [] := by
  unfold tickToggle
  dsimp only
  split
  · rfl
  · split <;> rfl

theorem announced_fold_unitUpkeep (rules : Rules) (w : World) :
    (Passage.fold (unitUpkeep rules) w.units.names w).announced =
      w.units.entries.flatMap fun u => expiries u.1 u.2 := by
  have hunit : ∀ u ∈ w.units.entries,
      (unitUpkeep rules u.1 w).announced = expiries u.1 u.2 := fun u hu =>
    announced_unitUpkeep rules (NameMap.get?_of_mem_entries hu)
  have hentries := entries_fold (unitUpkeep_personal · rules) w.units.nodup_names w
  rw [Passage.announced, hentries, List.filterMap_flatMap, NameMap.names, List.flatMap_map,
    List.flatMap, List.flatMap]
  exact congrArg List.flatten (List.map_congr_left hunit)

/-- All of upkeep up to the new turn. -/
def untilTurn (rules : Rules) (w : World) : Passage :=
  ((Passage.fold (unitUpkeep rules) w.units.names w).andThen buryDead).andThen
    (Passage.fold tickToggle toggles)

theorem run_eq_untilTurn (rules : Rules) (w : World) :
    run rules w = (untilTurn rules w).andThen beginTurn := rfl

theorem thinned_untilTurn (rules : Rules) (w : World) : w.Thinned (untilTurn rules w).world :=
  chains_thinned.untilTurn (thinned_unitUpkeep rules) thinned_bury thinned_tickToggle w

theorem announced_untilTurn (rules : Rules) (w : World) :
    (untilTurn rules w).announced =
      (w.units.entries.flatMap fun u => expiries u.1 u.2) ++
        (dead (tended rules w)).map fun d => .died d.1 d.2 := by
  have hdead : (buryDead (tended rules w)).announced =
      (dead (tended rules w)).map fun d => .died d.1 d.2 := announced_fold_bury _ _
  have htoggles : ∀ v, (Passage.fold tickToggle toggles v).announced = [] :=
    chains_announced.fold fun toggle _ => announced_tickToggle toggle
  rw [untilTurn, Passage.announced_andThen, htoggles, List.append_nil, Passage.announced_andThen,
    announced_fold_unitUpkeep, ← tended, hdead]

theorem entries_beginTurn (w : World) :
    (beginTurn w).entries =
      [.note s!"turn {(w.turn + 1).toNat} begins", .announced (.advanced w.turn (w.turn + 1))] :=
  rfl

/-- The expiries of all units by id, then the deaths, then the new turn. -/
theorem announced_run (rules : Rules) (w : World) :
    (run rules w).announced =
      (w.units.entries.flatMap fun u => expiries u.1 u.2) ++
        ((dead (tended rules w)).map fun d => .died d.1 d.2) ++ [.advanced w.turn (w.turn + 1)] := by
  rw [run_eq_untilTurn, Passage.announced_andThen, announced_untilTurn,
    Passage.announced, entries_beginTurn, ← (thinned_untilTurn rules w).turn]
  rfl

end Skirmish.Upkeep
