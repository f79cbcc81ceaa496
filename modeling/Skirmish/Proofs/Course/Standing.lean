import Skirmish.Proofs.Course.Action
import Skirmish.Proofs.Footprint.Action

/-!
# Where units stand

The place of a unit is kept in a variable like any other: it can be set to what is no place, added
to or removed, and then the unit stands at the origin. An action leaves a unit where it was, puts it
at the origin or on the grid, or is told to store the place (`Action.position_apply`). So units that
stand on the grid stay there as long as no place off the grid is stored (`Action.onGrid_applyAll`).
-/

namespace Skirmish

/-- Every unit stands on the grid. -/
def World.OnGrid (w : World) : Prop :=
  ∀ id unit, w.unit? id = some unit → w.inBounds unit.position = true

theorem World.onGrid_iff {w : World} :
    w.OnGrid ↔ ∀ u ∈ w.units.entries, w.inBounds u.2.position = true := by
  constructor
  · intro h u hu
    exact h u.1 u.2 (NameMap.get?_eq_some_iff.2 hu)
  · intro h id unit hunit
    exact h (id, unit) (NameMap.get?_eq_some_iff.1 hunit)

instance (w : World) : Decidable w.OnGrid := decidable_of_iff _ World.onGrid_iff.symm

/-- Where there is a place at all, the origin is one. -/
theorem World.inBounds_origin {w : World} {p : Coord} (h : w.inBounds p = true) :
    w.inBounds .origin = true := by
  simp only [inBounds, TileGrid.contains, decide_eq_true_eq] at h ⊢
  have hzero : (Coord.origin.x.toInt = 0) ∧ (Coord.origin.y.toInt = 0) := by decide
  omega

/-! ## The place of a bag -/

theorem Bag.position_of_get? {b : Bag} {value : Value} (h : b.get? Stat.position = some value) :
    b.position = value.asCoord?.getD .origin := by
  rw [position, coord?, h]
  rfl

theorem Bag.position_of_none {b : Bag} (h : b.get? Stat.position = none) :
    b.position = .origin := by
  rw [position, coord?, h]
  rfl

@[simp] theorem Place.position_keep (p : Place) (b : Bag) : (p.keep b).position = b.position :=
  Bag.position_congr (p.get?_keep_of_ne b (by decide))

@[simp] theorem Bag.position_set (b : Bag) (value : Value) :
    (b.set Stat.position value).position = value.asCoord?.getD .origin :=
  position_of_get? (by rw [get?_set, if_pos rfl])

@[simp] theorem Bag.position_unset (b : Bag) : (b.unset Stat.position).position = .origin :=
  position_of_none (by rw [get?_unset, if_pos rfl])

/-- A sum is a number. -/
theorem Value.asCoord?_add (v delta : Value) : (v.add delta).asCoord? = none := by
  unfold add
  split <;> rfl

theorem Bag.position_addTo (b : Bag) (delta : Value) :
    (b.addTo Stat.position delta).position = .origin := by
  rw [addTo, position_set, Value.asCoord?_add]
  rfl

/-! ## Movement -/

/-- A dash ends where it began or on the grid. -/
theorem dashEnd_cases (w : World) (id : String) (goal : Coord) (n : Nat) (p : Coord) :
    dashEnd w id goal n p = p ∨ w.inBounds (dashEnd w id goal n p) = true := by
  induction n generalizing p with
  | zero => exact .inl rfl
  | succ n ih =>
    rw [dashEnd]
    split
    · exact .inl rfl
    · next hfree =>
      -- The step was made, so it led to a place on the grid.
      simp only [Bool.or_eq_true, Bool.not_eq_true', not_or, Bool.not_eq_false] at hfree
      rcases ih (p.shift (p.stepTowards goal)) with hstay | hon
      · rw [hstay]
        exact .inr hfree.1
      · exact .inr hon

section

variable {w : World} {id : String} {unit : Bag}

theorem position_relocate (hunit : w.unit? id = some unit) (start goal : Coord) {last : Bag}
    (hlast : (relocate w id start goal).world.unit? id = some last) : last.position = goal := by
  rw [relocate, World.unit?_updateUnit_self hunit, Option.some.injEq] at hlast
  rw [← hlast, Place.position_keep, Bag.position_set]
  rfl

theorem position_moveTo (hunit : w.unit? id = some unit) (goal : Coord) {last : Bag}
    (hlast : (moveTo w id goal).world.unit? id = some last) :
    last.position = unit.position ∨ w.inBounds last.position = true := by
  rw [moveTo, hunit] at hlast
  dsimp only at hlast
  split at hlast
  · cases hunit.symm.trans hlast
    exact .inl rfl
  · next hfree =>
    simp only [Bool.not_eq_true', not_or, Bool.not_eq_false] at hfree
    rw [position_relocate hunit _ _ hlast]
    exact .inr hfree.2

theorem position_dashTowards (hunit : w.unit? id = some unit) (target : String) (maxSteps : Int64)
    {last : Bag} (hlast : (dashTowards w id target maxSteps).world.unit? id = some last) :
    last.position = unit.position ∨ w.inBounds last.position = true := by
  have hstay : w.unit? id = some last → last.position = unit.position := by
    intro h
    cases hunit.symm.trans h
    rfl
  rw [dashTowards, hunit] at hlast
  dsimp only at hlast
  split at hlast
  · next unit' aim hunit' haim =>
    cases hunit'
    split at hlast
    · exact .inl (hstay hlast)
    · split at hlast
      · exact .inl (hstay hlast)
      · rw [position_relocate hunit _ _ hlast]
        exact dashEnd_cases ..
  · exact .inl (hstay hlast)

end

/-! ## Actions -/

namespace Action

variable {rules : Rules} {w : World} {id : String} {unit last : Bag}

/-- What combat changes of a unit: its health, its shield and what it counts in. -/
def fought : List String := Stat.hp :: Stat.shield :: Combat.counters

/-- Any other variable stays unless the action edits it outright. -/
theorem get?_apply {a : Action} {name : String} (hname : name ∉ fought)
    (hedited : a.edited? ≠ some (.var (.unit id) name)) (hunit : w.unit? id = some unit)
    (hlast : (a.apply rules w).world.unit? id = some last) : last.get? name = unit.get? name := by
  simp only [fought, List.mem_cons, not_or] at hname
  obtain ⟨hhp, hshield, hcounter⟩ := hname
  have hcounters : AllowsCounters (Spares id [name]) id := by
    intro e counter hmem hlocation other hother he
    cases List.mem_singleton.1 hother
    have heq : counter = name := (Location.var.inj (hlocation.symm.trans he)).2
    exact hcounter (heq ▸ hmem)
  have hedits : ∀ e, a.MayEdit e → e.place = .unit id → Spares id [name] e := by
    intro e he _ other hother hlocation
    cases List.mem_singleton.1 hother
    exact hedited ((edited?_of_mayEdit he).trans (congrArg some hlocation))
  have hfollows : Follows (Spares id [name]) rules id w (a.apply rules w) :=
    apply_follows hcounters hedits w
  have hstep : ∀ {b c : Bag} {events : List TraceEvent},
      Moment (Spares id [name]) rules id b events c → b.get? name = unit.get? name →
        c.get? name = unit.get? name :=
    fun hmoment hb => (hmoment.get?_eq (List.mem_singleton.2 rfl) hhp hshield).trans hb
  obtain ⟨last', hlast', hcourse⟩ := hfollows unit hunit
  cases hlast.symm.trans hlast'
  exact hcourse.invariant hstep rfl

/-- An action that edits the place of a unit outright. -/
theorem edited?_eq_position {a : Action}
    (h : a.edited? = some (.var (.unit id) Stat.position)) :
    (∃ value, a = .setVar (.unit id) Stat.position value) ∨
    (∃ delta, a = .addToVar (.unit id) Stat.position delta) ∨
    a = .removeVar (.unit id) Stat.position ∨ (∃ goal, a = .move id goal) ∨
    ∃ target maxSteps, a = .dash id target maxSteps := by
  cases a with
  | setVar place name value =>
    cases h
    exact .inl ⟨value, rfl⟩
  | addToVar account name delta =>
    cases account with
    | unit id' =>
      cases h
      exact .inr (.inl ⟨delta, rfl⟩)
    | global => cases h
  | removeVar place name =>
    cases h
    exact .inr (.inr (.inl rfl))
  | move id' goal =>
    cases h
    exact .inr (.inr (.inr (.inl ⟨goal, rfl⟩)))
  | dash id' target maxSteps =>
    cases h
    exact .inr (.inr (.inr (.inr ⟨target, maxSteps, rfl⟩)))
  | _ => cases h

/-- After an action a unit is where it was, at the origin, on the grid, or where the action says
that it be stored. -/
theorem position_apply (rules : Rules) (a : Action) (hunit : w.unit? id = some unit)
    (hlast : (a.apply rules w).world.unit? id = some last) :
    last.position = unit.position ∨ last.position = .origin ∨
    w.inBounds last.position = true ∨
    a = .setVar (.unit id) Stat.position (.coord last.position) := by
  by_cases hedited : a.edited? = some (.var (.unit id) Stat.position)
  · have hupdate : ∀ f, (w.update f (.unit id)).unit? id = some last →
        last.position = (f unit).position := by
      intro f h
      rw [World.update, World.unit?_updateUnit_self hunit, Option.some.injEq] at h
      rw [← h, Place.position_keep]
    rcases edited?_eq_position hedited with ⟨value, rfl⟩ | ⟨delta, rfl⟩ | rfl | ⟨goal, rfl⟩ |
      ⟨target, maxSteps, rfl⟩
    · have hset := (hupdate _ hlast).trans (Bag.position_set ..)
      cases value with
      | coord p =>
        cases hset
        exact .inr (.inr (.inr rfl))
      | _ => exact .inr (.inl hset)
    · exact .inr (.inl ((hupdate _ hlast).trans (Bag.position_addTo ..)))
    · exact .inr (.inl ((hupdate _ hlast).trans (Bag.position_unset _)))
    · rcases position_moveTo hunit goal hlast with hstay | hon
      · exact .inl hstay
      · exact .inr (.inr (.inl hon))
    · rcases position_dashTowards hunit target maxSteps hlast with hstay | hon
      · exact .inl hstay
      · exact .inr (.inr (.inl hon))
  · exact .inl (Bag.position_congr (get?_apply (by decide) hedited hunit hlast))

theorem onGrid_apply (rules : Rules) {a : Action} (h : w.OnGrid)
    (hstored : ∀ id p, a = .setVar (.unit id) Stat.position (.coord p) → w.inBounds p = true) :
    (a.apply rules w).world.OnGrid := by
  have hframe := sameFrame_apply rules a w
  intro id last hlast
  rw [← hframe.inBounds]
  -- An action adds no units.
  obtain ⟨-, hnone⟩ | ⟨unit, last', hunit, -⟩ := hframe.unit?_cases id
  · rw [hnone] at hlast
    cases hlast
  · have hon := h id unit hunit
    rcases position_apply rules a hunit hlast with hstay | horigin | hgrid | hset
    · rw [hstay]
      exact hon
    · rw [horigin]
      exact World.inBounds_origin hon
    · exact hgrid
    · exact hstored id last.position hset

/-- Units that stand on the grid stand there after every action of a list, as long as no place off
the grid is stored. -/
theorem onGrid_applyAll (rules : Rules) (h : w.OnGrid) {actions : List Action}
    (hstored : ∀ id p, .setVar (.unit id) Stat.position (.coord p) ∈ actions →
      w.inBounds p = true)
    {before : List Action} (hbefore : before <+: actions) :
    (applyAll rules before w).world.OnGrid := by
  induction before generalizing w actions with
  | nil => exact h
  | cons a before ih =>
    obtain ⟨after, rfl⟩ := hbefore
    have hfirst := onGrid_apply rules h fun id p ha => hstored id p (ha ▸ List.mem_cons_self)
    refine ih hfirst (fun id p hp => ?_) (List.prefix_append before after)
    rw [← (sameFrame_apply rules a w).inBounds]
    exact hstored id p (List.mem_cons_of_mem a hp)

/-- Places that are stepped to, added to, removed, and stored. -/
theorem onGrid_applyAll_arena :
    let actions : List Action :=
      [.move "ann" ⟨3, 2⟩, .dash "bob" "ann" 5, .addToVar (.unit "cid") Stat.position (.int 1),
        .setVar (.unit "bob") Stat.position (.coord ⟨2, 2⟩),
        .removeVar (.unit "ann") Stat.position,
        .setVar (.unit "ann") Stat.position (.text "home")]
    arena.OnGrid ∧
    (∀ id p, .setVar (.unit id) Stat.position (.coord p) ∈ actions → arena.inBounds p = true) ∧
    ∀ n, (applyAll {} (actions.take n) arena).world.OnGrid := by
  intro actions
  have harena : arena.OnGrid := by decide
  have hstored : ∀ id p, .setVar (.unit id) Stat.position (.coord p) ∈ actions →
      arena.inBounds p = true := by
    intro id p hp
    simp only [actions, List.mem_cons, List.not_mem_nil, reduceCtorEq, and_false, or_false,
      false_or, setVar.injEq, Value.coord.injEq] at hp
    obtain ⟨-, -, rfl⟩ := hp
    decide
  exact ⟨harena, hstored, fun n => onGrid_applyAll {} harena hstored (List.take_prefix n actions)⟩

end Action

end Skirmish
