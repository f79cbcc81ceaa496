import Skirmish.Proofs.Scenario.Placement
import Skirmish.Proofs.Upkeep.Limits

/-!
# The health and magic that units of a scenario begin with

A role that does not set a vital variable starts its units at the greatest value that it sets
itself. The variables of a placement come on top of the unit as the role has made it, so a placement
that sets another greatest value leaves the vital variable where it was: a unit begins at its
greatest value exactly if the placement sets no other one (`Scenario.vitals_build`), and may begin
above it (`Scenario.build_above_maximum`).
-/

namespace Skirmish

/-! ## Units as their role makes them -/

theorem Bag.get?_hp_asUnit {b : Bag} (h : b.get? Stat.hp = none) :
    b.asUnit.get? Stat.hp = some (.int (b.int Stat.maxHp)) := by
  have hbare : ¬ b.contains Stat.hp = true := by
    rw [contains_eq_isSome, h]
    exact Bool.false_ne_true
  rw [asUnit, if_neg hbare, get?_set, if_pos rfl]

namespace Role

variable (r : Role) (p : Coord)

/-- What a unit of a role has before its vital variables are filled in. -/
def enlisted : Bag := (r.initial.set Stat.role (.text r.id)).set Stat.position (.coord p)

/-- The same with magic filled in. -/
def charged : Bag :=
  let b := r.enlisted p
  if !b.contains Stat.mp && b.contains Stat.maxMp then b.set Stat.mp (.int (b.int Stat.maxMp))
  else b

theorem spawn_eq : r.spawn p = (r.charged p).asUnit := rfl

variable {r p} {name : String}

theorem get?_enlisted (hrole : name ≠ Stat.role) (hposition : name ≠ Stat.position) :
    (r.enlisted p).get? name = r.initial.get? name := by
  rw [enlisted, Bag.get?_set, if_neg hposition, Bag.get?_set, if_neg hrole]

theorem get?_charged_of_ne (h : name ≠ Stat.mp) :
    (r.charged p).get? name = (r.enlisted p).get? name := by
  rw [charged]
  split
  · rw [Bag.get?_set, if_neg h]
  · rfl

theorem get?_maxName_spawn : ∀ v ∈ Stat.vitals,
    (r.spawn p).get? v.maxName = r.initial.get? v.maxName := by
  have hnames : ∀ v ∈ Stat.vitals, v.maxName ≠ Stat.hp ∧ v.maxName ≠ Stat.mp ∧
      v.maxName ≠ Stat.role ∧ v.maxName ≠ Stat.position := by decide
  intro v hv
  obtain ⟨hhp, hmp, hrole, hposition⟩ := hnames v hv
  rw [spawn_eq, Bag.get?_asUnit_of_ne _ hhp, get?_charged_of_ne hmp, get?_enlisted hrole hposition]

theorem get?_hp_spawn (h : r.initial.get? Stat.hp = none) :
    (r.spawn p).get? Stat.hp = some (.int (r.initial.int Stat.maxHp)) := by
  have hkept : ∀ name ∈ [Stat.hp, Stat.maxHp],
      (r.charged p).get? name = r.initial.get? name := by
    have hnames : ∀ name ∈ [Stat.hp, Stat.maxHp], name ≠ Stat.mp ∧ name ≠ Stat.role ∧
        name ≠ Stat.position := by decide
    intro name hname
    obtain ⟨hmp, hrole, hposition⟩ := hnames name hname
    rw [get?_charged_of_ne hmp, get?_enlisted hrole hposition]
  rw [spawn_eq, Bag.get?_hp_asUnit ((hkept _ (by simp)).trans h), Bag.int_congr (hkept _ (by simp))]

theorem get?_mp_spawn (h : r.initial.get? Stat.mp = none) :
    (r.spawn p).get? Stat.mp =
      if r.initial.contains Stat.maxMp then some (.int (r.initial.int Stat.maxMp)) else none := by
  have hkept : ∀ name ∈ [Stat.mp, Stat.maxMp],
      (r.enlisted p).get? name = r.initial.get? name := by
    have hnames : ∀ name ∈ [Stat.mp, Stat.maxMp], name ≠ Stat.role ∧ name ≠ Stat.position := by
      decide
    intro name hname
    exact get?_enlisted (hnames name hname).1 (hnames name hname).2
  have hmp := (hkept Stat.mp (by simp)).trans h
  have hmaxMp := hkept Stat.maxMp (by simp)
  have hbare : (r.enlisted p).contains Stat.mp = false := by
    rw [Bag.contains_eq_isSome, hmp]
    rfl
  rw [spawn_eq, Bag.get?_asUnit_of_ne _ (by decide), charged]
  simp only [hbare, Bag.contains_congr hmaxMp, Bag.int_congr hmaxMp, Bool.not_false, Bool.true_and]
  split
  · rw [Bag.get?_set, if_pos rfl]
  · exact hmp

/-- Without a word on a vital variable a role starts its units at its own greatest value; only magic
may stay unset, where the role has no greatest value for it. -/
theorem int_vital_spawn : ∀ v ∈ Stat.vitals, r.initial.get? v.name = none →
    (r.spawn p).int v.name = r.initial.int v.maxName := by
  refine List.forall_mem_cons.2 ⟨fun h => ?_, List.forall_mem_singleton.2 fun h => ?_⟩
  · rw [Bag.int, get?_hp_spawn h]
    rfl
  · rw [Bag.int, get?_mp_spawn h]
    split
    · rfl
    · next hnone =>
      rw [Bag.contains_eq_isSome, Option.not_isSome_iff_eq_none] at hnone
      rw [Bag.int, hnone]

end Role

/-! ## Units as their placement leaves them -/

/-- How a vital variable begins that neither the role nor the placement sets: at the greatest value
that the role sets. This is the greatest value of the unit exactly if the placement sets no other
one, and above it exactly if the placement sets a lower one. -/
structure Placement.Starts (p : Placement) (r : Role) (v : Stat.Vital) (unit : Bag) : Prop where
  int_eq : unit.int v.name = r.initial.int v.maxName
  eq_max_iff : unit.int v.name = unit.int v.maxName ↔
    ∀ value, p.vars.get? v.maxName = some value → value.asInt = r.initial.int v.maxName
  max_lt_iff : unit.int v.maxName < unit.int v.name ↔
    ∃ value, p.vars.get? v.maxName = some value ∧ value.asInt < r.initial.int v.maxName

theorem Placement.starts_spawn {p : Placement} {r : Role} {v : Stat.Vital} (hv : v ∈ Stat.vitals)
    (hrole : r.initial.get? v.name = none) (hplacement : p.vars.get? v.name = none) :
    p.Starts r v (p.spawn r) := by
  have hget : ∀ name, (p.spawn r).get? name =
      (p.vars.get? name).or ((r.spawn p.position).get? name) :=
    (r.spawn p.position).get?_withAll p.vars p.tags
  have hvital : (p.spawn r).int v.name = r.initial.int v.maxName := by
    have hsame : (p.spawn r).get? v.name = (r.spawn p.position).get? v.name := by
      rw [hget, hplacement, Option.none_or]
    exact (Bag.int_congr hsame).trans (Role.int_vital_spawn v hv hrole)
  have hmax := hget v.maxName
  rw [Role.get?_maxName_spawn v hv] at hmax
  cases hvalue : p.vars.get? v.maxName with
  | none =>
    rw [hvalue, Option.none_or] at hmax
    refine ⟨hvital, ?_, ?_⟩ <;> simp [hvital, Bag.int_congr hmax, hvalue]
  | some value =>
    rw [hvalue, Option.some_or] at hmax
    have hint : (p.spawn r).int v.maxName = value.asInt := by
      rw [Bag.int, hmax]
      rfl
    refine ⟨hvital, ?_, ?_⟩ <;> simp [hvital, hint, hvalue, eq_comm]

namespace Scenario

variable {roles : List Role}

/-- In a scenario that is built, every unit whose role and placement leave a vital variable unset
begins at the greatest value of the role, so at its own one if the placement sets no other. -/
theorem vitals_build {s : ScenarioSource} {scenario : Scenario}
    (h : build s roles = .ok scenario) :
    ∀ p ∈ s.units, ∃ r ∈ roles, r.id = p.role ∧
      ∃ unit, scenario.world.unit? p.id = some unit ∧
        ∀ v ∈ Stat.vitals, r.initial.get? v.name = none → p.vars.get? v.name = none →
          p.Starts r v unit := by
  intro p hp
  obtain ⟨w, -, hplaced⟩ := placed_build h
  obtain ⟨r, hr, hrole, hunit⟩ := hplaced.spawned p hp
  exact ⟨r, hr, hrole, _, hunit, fun v hv hbare hfree => Placement.starts_spawn hv hbare hfree⟩

/-- Two knights, of whom the second has less health at most than the role says. -/
theorem vitals_build_knights :
    let knight : Role :=
      { name := "Knight", id := "knight", description := "", skills := []
        initial := (Bag.empty.set Stat.maxHp (.int 30)).set Stat.maxMp (.int 8) }
    let s : ScenarioSource :=
      { width := 4, height := 4
        units := [{ id := "k1", role := "knight", position := ⟨1, 1⟩ },
          { id := "k2", role := "knight", position := ⟨2, 1⟩
            vars := .ofList [(Stat.maxHp, .int 10)] }] }
    ∃ scenario, build s [knight] = .ok scenario ∧
      ∀ p ∈ s.units, ∃ r ∈ [knight], r.id = p.role ∧
        ∃ unit, scenario.world.unit? p.id = some unit ∧
          ∀ v ∈ Stat.vitals, r.initial.get? v.name = none → p.vars.get? v.name = none →
            p.Starts r v unit := by
  intro knight s
  exact ⟨_, rfl, vitals_build rfl⟩

/-- The greatest health that a placement sets comes after health is filled in: a unit whose role and
placement leave health unset begins with more than its greatest health. -/
theorem build_above_maximum :
    let knight : Role :=
      { name := "Knight", id := "knight", description := "", skills := []
        initial := Bag.empty.set Stat.maxHp (.int 30) }
    let weakened : Placement :=
      { id := "k1", role := "knight", position := ⟨1, 1⟩
        vars := .ofList [(Stat.maxHp, .int 10)] }
    knight.initial.get? Stat.hp = none ∧ weakened.vars.get? Stat.hp = none ∧
    ∃ scenario, build { width := 4, height := 4, units := [weakened] } [knight] = .ok scenario ∧
      ∃ unit, scenario.world.unit? weakened.id = some unit ∧ unit.contains Stat.maxHp = true ∧
        unit.hp ≠ unit.maxHp ∧ unit.maxHp < unit.hp := by
  intro knight weakened
  exact ⟨rfl, rfl, _, rfl, _, rfl, by decide, by decide, by decide⟩

end Scenario

end Skirmish
