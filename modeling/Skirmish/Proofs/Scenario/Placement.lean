import Skirmish.Proofs.Course.Standing
import Skirmish.Scenario

/-!
# Where the units of a scenario begin

A placement is checked before its unit is made: its place must be on the grid and its id free. The
unit is then made by the role and takes the variables of the placement, one of which may be its
place. So a scenario that is built has one unit for each placement, each at its place, except where
the placement itself stores another one (`Scenario.units_build`), which is not asked to be on the
grid (`Scenario.build_off_grid`).
-/

namespace Skirmish

/-! ## Units as they are made -/

namespace Bag

theorem get?_foldl_set {l : List (String × Value)} (hl : (l.map Prod.fst).Nodup) (b : Bag)
    (name : String) :
    (l.foldl (fun b v => b.set v.1 v.2) b).get? name =
      ((l.find? fun e => e.1 == name).map Prod.snd).or (b.get? name) := by
  induction l generalizing b with
  | nil => rfl
  | cons e l ih =>
    obtain ⟨hother, hl⟩ := List.nodup_cons.1 hl
    rw [List.foldl_cons, ih hl, get?_set]
    by_cases hname : e.1 = name
    · -- The name does not come again.
      have hnone : l.find? (fun e => e.1 == name) = none := by
        refine List.find?_eq_none.2 fun e' he' heq => hother ?_
        rw [hname, ← beq_iff_eq.1 heq]
        exact List.mem_map_of_mem he'
      simp only [hnone, if_pos hname.symm, List.find?_cons, beq_iff_eq.2 hname]
      rfl
    · rw [if_neg (Ne.symm hname), List.find?_cons_of_neg (by simpa using hname)]

theorem get?_foldl_tag (tags : List String) (b : Bag) (name : String) :
    (tags.foldl tag b).get? name = b.get? name := by
  induction tags generalizing b with
  | nil => rfl
  | cons t tags ih => exact ih (b.tag t)

/-- The variables of a map win over those of the bag that takes them. -/
theorem get?_withAll (b : Bag) (vars : NameMap Value) (tags : List String) (name : String) :
    (b.withAll vars.entries tags).get? name = (vars.get? name).or (b.get? name) := by
  rw [withAll, get?_foldl_tag, get?_foldl_set vars.nodup_names]
  rfl

theorem contains_hp_asUnit (b : Bag) : b.asUnit.contains Stat.hp = true := by
  rw [asUnit]
  split
  · assumption
  · rw [contains_eq_isSome, get?_set, if_pos rfl]
    rfl

theorem get?_asUnit_of_ne (b : Bag) {name : String} (h : name ≠ Stat.hp) :
    b.asUnit.get? name = b.get? name := by
  rw [asUnit]
  split
  · rfl
  · rw [get?_set, if_neg h]

end Bag

theorem Role.contains_hp_spawn (r : Role) (p : Coord) : (r.spawn p).contains Stat.hp = true :=
  Bag.contains_hp_asUnit _

theorem Role.get?_position_spawn (r : Role) (p : Coord) :
    (r.spawn p).get? Stat.position = some (.coord p) := by
  have hmp : ¬ Stat.position = Stat.mp := by decide
  rw [spawn, Bag.get?_asUnit_of_ne _ (by decide)]
  split
  · rw [Bag.get?_set, if_neg hmp, Bag.get?_set, if_pos rfl]
  · rw [Bag.get?_set, if_pos rfl]

namespace Placement

variable (p : Placement) (r : Role)

/-- Where the unit of a placement stands: at its place, or where its own variables put it. -/
def standing : Coord :=
  match p.vars.get? Stat.position with
  | some value => value.asCoord?.getD .origin
  | none => p.position

theorem standing_of_none (h : p.vars.get? Stat.position = none) : p.standing = p.position := by
  rw [standing, h]

theorem position_spawn : (p.spawn r).position = p.standing := by
  have hget := (r.spawn p.position).get?_withAll p.vars p.tags Stat.position
  rw [r.get?_position_spawn] at hget
  rw [standing]
  cases hvalue : p.vars.get? Stat.position with
  | none =>
    rw [hvalue] at hget
    exact Bag.position_of_get? hget
  | some value =>
    rw [hvalue] at hget
    exact Bag.position_of_get? hget

/-- A unit comes with health, so it is kept as it is made. -/
theorem keep_spawn : (Place.unit p.id).keep (p.spawn r) = p.spawn r := by
  have hget := (r.spawn p.position).get?_withAll p.vars p.tags Stat.hp
  have hhealth : (p.spawn r).contains Stat.hp = true := by
    rw [Bag.contains_eq_isSome, spawn, hget, Option.isSome_or, ← Bag.contains_eq_isSome _ Stat.hp,
      r.contains_hp_spawn, Bool.or_true]
  rw [Place.keep, if_pos hhealth]

end Placement

namespace Scenario

variable {roles : List Role} {w last : World}

/-! ## One placement -/

theorem place_eq_ok {p : Placement} (h : place roles w p = .ok last) :
    w.inBounds p.position = true ∧ w.hasUnit p.id = false ∧
    ∃ r ∈ roles, r.id = p.role ∧ last = w.putUnit p.id (p.spawn r) := by
  rw [place] at h
  split at h
  · cases h
  · next hbounds =>
    split at h
    · cases h
    · next hfree =>
      split at h
      · next r hfind =>
        cases h
        refine ⟨by simpa using hbounds, by simpa using hfree, r, List.mem_of_find?_eq_some hfind, ?_,
          rfl⟩
        simpa using List.find?_some hfind
      · cases h

theorem unit?_putUnit_spawn (w : World) (p : Placement) (r : Role) (id : String) :
    (w.putUnit p.id (p.spawn r)).unit? id = if id = p.id then some (p.spawn r) else w.unit? id := by
  have hkept : (w.putUnit p.id (p.spawn r)).units = w.units.insert p.id (p.spawn r) :=
    congrArg (w.units.insert p.id) (p.keep_spawn r)
  rw [World.unit?, hkept, NameMap.get?_insert]
  rfl

/-! ## All placements -/

/-- What placing units one after the other comes to. -/
structure Placed (roles : List Role) (ps : List Placement) (w last : World) : Prop where
  tiles : last.tiles = w.tiles
  nodup : (ps.map Placement.id).Nodup
  fresh : ∀ p ∈ ps, w.hasUnit p.id = false
  inBounds : ∀ p ∈ ps, w.inBounds p.position = true
  spawned : ∀ p ∈ ps, ∃ r ∈ roles, r.id = p.role ∧ last.unit? p.id = some (p.spawn r)
  others : ∀ id, id ∉ ps.map Placement.id → last.unit? id = w.unit? id

theorem Placed.cons {ps : List Placement} {p : Placement} {mid : World}
    (hplace : place roles w p = .ok mid) (h : Placed roles ps mid last) :
    Placed roles (p :: ps) w last := by
  obtain ⟨hbounds, hfree, r, hr, hrole, rfl⟩ := place_eq_ok hplace
  have hhas : ∀ id, (w.putUnit p.id (p.spawn r)).hasUnit id = (id == p.id || w.hasUnit id) :=
    fun id => NameMap.contains_insert ..
  have hnew : ∀ q ∈ ps, q.id ≠ p.id ∧ w.hasUnit q.id = false := by
    intro q hq
    have hfresh := h.fresh q hq
    simpa [hhas] using hfresh
  have hid : p.id ∉ ps.map Placement.id := by
    intro hmem
    obtain ⟨q, hq, hqid⟩ := List.mem_map.1 hmem
    exact (hnew q hq).1 hqid
  refine ⟨h.tiles, List.nodup_cons.2 ⟨hid, h.nodup⟩, List.forall_mem_cons.2 ⟨hfree, fun q hq => ?_⟩,
    List.forall_mem_cons.2 ⟨hbounds, h.inBounds⟩, List.forall_mem_cons.2 ⟨?_, h.spawned⟩,
    fun id hmem => ?_⟩
  · exact (hnew q hq).2
  · refine ⟨r, hr, hrole, ?_⟩
    rw [h.others _ hid, unit?_putUnit_spawn, if_pos rfl]
  · rw [List.map_cons, List.mem_cons, not_or] at hmem
    rw [h.others _ hmem.2, unit?_putUnit_spawn, if_neg hmem.1]

theorem placed_foldlM {ps : List Placement} (h : ps.foldlM (place roles) w = .ok last) :
    Placed roles ps w last := by
  induction ps generalizing w with
  | nil =>
    cases h
    refine ⟨rfl, List.nodup_nil, ?_, ?_, ?_, fun _ _ => rfl⟩ <;> simp
  | cons p ps ih =>
    rw [List.foldlM_cons] at h
    cases hplace : place roles w p with
    | error e =>
      rw [hplace] at h
      cases h
    | ok mid =>
      rw [hplace] at h
      exact .cons hplace (ih h)

/-- Where there were no units, there are those of the placements and no others. -/
theorem Placed.mem_names_iff {ps : List Placement} (h : Placed roles ps w last)
    (hempty : w.units = .empty) (id : String) :
    id ∈ last.units.names ↔ id ∈ ps.map Placement.id := by
  rw [NameMap.mem_names_iff]
  constructor
  · intro hhas
    by_contra hother
    have hnone : last.units.get? id = w.units.get? id := h.others id hother
    rw [NameMap.contains, hnone, hempty] at hhas
    cases hhas
  · intro hid
    obtain ⟨p, hp, rfl⟩ := List.mem_map.1 hid
    obtain ⟨r, -, -, hunit⟩ := h.spawned p hp
    exact Option.isSome_of_eq_some hunit

/-! ## Scenarios -/

theorem placed_build {s : ScenarioSource} {scenario : Scenario}
    (h : build s roles = .ok scenario) :
    ∃ w, w.units = .empty ∧ Placed roles s.units w scenario.world := by
  rw [build, World.new] at h
  split at h
  · cases h
  · dsimp only [pure, Except.pure, Except.mapError, bind, Except.bind] at h
    split at h
    · cases h
    · next last hlast =>
      cases h
      exact ⟨_, rfl, placed_foldlM hlast⟩

/-- A scenario that is built has exactly one unit for each placement, under its own id, made by the
role that the placement names. The place of a placement is on the grid, and there its unit stands
if no variable of the placement puts it elsewhere. -/
theorem units_build {s : ScenarioSource} {scenario : Scenario}
    (h : build s roles = .ok scenario) :
    scenario.world.units.names.Perm (s.units.map Placement.id) ∧
    (s.units.map Placement.id).Nodup ∧
    ∀ p ∈ s.units, scenario.world.inBounds p.position = true ∧
      ∃ r ∈ roles, r.id = p.role ∧ scenario.world.unit? p.id = some (p.spawn r) ∧
        (p.spawn r).position = p.standing ∧
        (p.vars.get? Stat.position = none → (p.spawn r).position = p.position) := by
  obtain ⟨w, hempty, hplaced⟩ := placed_build h
  refine ⟨?_, hplaced.nodup, fun p hp => ⟨?_, ?_⟩⟩
  · exact (List.perm_ext_iff_of_nodup scenario.world.units.nodup_names hplaced.nodup).2
      (hplaced.mem_names_iff hempty)
  · rw [World.inBounds, hplaced.tiles]
    exact hplaced.inBounds p hp
  · obtain ⟨r, hr, hrole, hunit⟩ := hplaced.spawned p hp
    refine ⟨r, hr, hrole, hunit, p.position_spawn r, fun hnone => ?_⟩
    rw [p.position_spawn, p.standing_of_none hnone]

/-- Two knights, of whom the second is moved by its own variables. -/
theorem units_build_knights :
    let knight : Role :=
      { name := "Knight", id := "knight", description := "", skills := []
        initial := Bag.empty.set Stat.maxHp (.int 30) }
    let s : ScenarioSource :=
      { width := 4, height := 4
        units := [{ id := "k1", role := "knight", position := ⟨1, 1⟩ },
          { id := "k2", role := "knight", position := ⟨2, 1⟩
            vars := .ofList [(Stat.position, .coord ⟨3, 3⟩)] }] }
    ∃ scenario, build s [knight] = .ok scenario ∧
      scenario.world.units.names.Perm (s.units.map Placement.id) ∧
      (s.units.map Placement.id).Nodup ∧
      ∀ p ∈ s.units, scenario.world.inBounds p.position = true ∧
        ∃ r ∈ [knight], r.id = p.role ∧ scenario.world.unit? p.id = some (p.spawn r) ∧
          (p.spawn r).position = p.standing ∧
          (p.vars.get? Stat.position = none → (p.spawn r).position = p.position) := by
  intro knight s
  exact ⟨_, rfl, units_build rfl⟩

/-- The place that the variables of a placement store is not asked to be on the grid. -/
theorem build_off_grid :
    let knight : Role :=
      { name := "Knight", id := "knight", description := "", initial := .empty, skills := [] }
    let moved : Placement :=
      { id := "k", role := "knight", position := ⟨1, 1⟩
        vars := .ofList [(Stat.position, .coord ⟨9, 0⟩)] }
    ∃ scenario, build { width := 4, height := 4, units := [moved] } [knight] = .ok scenario ∧
      ∃ unit, scenario.world.unit? moved.id = some unit ∧ unit.position ≠ moved.position ∧
        scenario.world.inBounds unit.position = false := by
  intro knight moved
  exact ⟨_, rfl, _, rfl, by decide, by decide⟩

end Scenario

end Skirmish
