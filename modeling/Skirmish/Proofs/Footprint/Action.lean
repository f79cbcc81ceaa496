import Skirmish.Proofs.Footprint.Combat

/-!
# The footprints of actions

Every action is confined to the keys it declares (`Action.apply_confined`). From this follow what
an action leaves alone (`Action.apply_frame`) and on what it depends (`Action.apply_congr`).
-/

namespace Skirmish

variable {v w : World}

/-! ## All units -/

/-- Matching units that look alike look alike in the whole list. -/
theorem World.Alike.any_get?_units (h : v.Alike w) {p : String → Bag → Bool}
    (hp : ∀ id b c, v.unit? id = some b → w.unit? id = some c → p id b = p id c) :
    (fun id => (v.units.get? id).any (p id)) = fun id => (w.units.get? id).any (p id) := by
  funext id
  rcases h.unit?_cases id with ⟨hv, hw⟩ | ⟨b, c, hv, hw⟩
  · have hv' : v.units.get? id = none := hv
    have hw' : w.units.get? id = none := hw
    rw [hv', hw']
  · have hv' : v.units.get? id = some b := hv
    have hw' : w.units.get? id = some c := hw
    rw [hv', hw', Option.any_some, Option.any_some, hp id b c hv hw]

section

variable {keys : List Key}

theorem position_of_agreeOn (h : v.AgreeOn keys w) {id : String} {b c : Bag}
    (hkey : Covered keys (.var (.unit id) Stat.position)) (hv : v.unit? id = some b)
    (hw : w.unit? id = some c) : b.position = c.position :=
  Bag.position_congr (h.get? (p := .unit id) hv hw hkey)

theorem isRooted_of_agreeOn (h : v.AgreeOn keys w) {id : String} {b c : Bag}
    (hkey : Key.var (.unit id) Stat.rootedTurns ∈ keys) (hv : v.unit? id = some b)
    (hw : w.unit? id = some c) : b.isRooted = c.isRooted :=
  Bag.isActive_congr (h.get? (p := .unit id) hv hw (covered_of_mem hkey))

/-- A key for a variable of all units stands for that of each unit. -/
theorem covered_of_anyUnitVar {name : String} (h : Key.anyUnitVar name ∈ keys) (id : String) :
    Covered keys (.var (.unit id) name) :=
  ⟨_, h, by simp [Key.covers]⟩

end

/-! ## Movement -/

theorem isOccupied_of_agreeOn {keys : List Key} (h : v.AgreeOn keys w)
    (hkey : Key.anyUnitVar Stat.position ∈ keys) (id : String) (p : Coord) :
    isOccupied v id p = isOccupied w id p := by
  have hunits := h.any_get?_units (p := fun id' u => id' != id && u.position == p)
    fun id' b c hv hw => by rw [position_of_agreeOn h (covered_of_anyUnitVar hkey id') hv hw]
  rw [isOccupied, isOccupied, NameMap.any_entries, NameMap.any_entries, hunits, h.ids]

theorem dashEnd_of_agreeOn {keys : List Key} (h : v.AgreeOn keys w)
    (hkey : Key.anyUnitVar Stat.position ∈ keys) (id : String) (goal : Coord) (n : Nat)
    (p : Coord) : dashEnd v id goal n p = dashEnd w id goal n p := by
  induction n generalizing p with
  | zero => rfl
  | succ n ih =>
    rw [dashEnd, dashEnd, h.inBounds, isOccupied_of_agreeOn h hkey, ih]

theorem relocate_confined {reads : List Key} (id : String) (start goal : Coord) :
    Confined reads [.var (.unit id) Stat.position] fun w => relocate w id start goal :=
  .edit (e := .set (.unit id) Stat.position (.coord goal))
    (covered_of_mem (by simp [Edit.location, Key.ofLocation])) _

theorem moveTo_confined (id : String) (goal : Coord) :
    Confined [.var (.unit id) Stat.position, .var (.unit id) Stat.rootedTurns]
      [.var (.unit id) Stat.position] fun w => moveTo w id goal := by
  refine .of_unit id (fun w hw => ?_) fun v w b c h hv hw => ?_
  · rw [moveTo, hw]
  · have hrooted := isRooted_of_agreeOn h (by simp) hv hw
    have hposition := position_of_agreeOn h (covered_of_mem (by simp [Key.ofLocation])) hv hw
    simp only [moveTo, hv, hw, hrooted, hposition, h.inBounds]
    by_cases hstays : c.isRooted = true ∨ (!w.inBounds goal) = true
    · simp only [if_pos hstays]
      exact ⟨_, .nothing, rfl, rfl⟩
    · simp only [if_neg hstays]
      exact ⟨_, relocate_confined id c.position goal, rfl, rfl⟩

theorem dashTowards_confined (id target : String) (maxSteps : Int64) :
    Confined [.anyUnitVar Stat.position, .var (.unit id) Stat.rootedTurns]
      [.var (.unit id) Stat.position] fun w => dashTowards w id target maxSteps := by
  refine .of_unit id (fun w hw => ?_) fun v w b c h hv hw => ?_
  · rw [dashTowards, hw]
  rcases h.unit?_cases target with ⟨hv', hw'⟩ | ⟨b', c', hv', hw'⟩
  · refine ⟨_, .nothing, ?_, ?_⟩
    · rw [dashTowards, hv, hv']
    · rw [dashTowards, hw, hw']
  have hkey : Key.anyUnitVar Stat.position ∈
      [Key.anyUnitVar Stat.position, .var (.unit id) Stat.rootedTurns] := List.mem_cons_self
  have hrooted := isRooted_of_agreeOn h (by simp) hv hw
  have hstart := position_of_agreeOn h (covered_of_anyUnitVar hkey id) hv hw
  have hgoal := position_of_agreeOn h (covered_of_anyUnitVar hkey target) hv' hw'
  simp only [dashTowards, hv, hw, hv', hw', hrooted, hstart, hgoal,
    dashEnd_of_agreeOn h hkey]
  generalize dashEnd w id c'.position
    (min maxSteps.toInt.toNat (kingSteps c.position c'.position)) c.position = finish
  by_cases hstays : c.isRooted = true
  · simp only [if_pos hstays]
    exact ⟨_, .nothing, rfl, rfl⟩
  by_cases hblocked : finish = c.position
  · simp only [if_neg hstays, if_pos hblocked]
    exact ⟨_, .nothing, rfl, rfl⟩
  · simp only [if_neg hstays, if_neg hblocked]
    exact ⟨_, relocate_confined id c.position finish, rfl, rfl⟩

/-! ## Lines -/

theorem victims_of_agreeOn {keys : List Key} (h : v.AgreeOn keys w)
    (hposition : Key.anyUnitVar Stat.position ∈ keys) (hteam : Key.anyUnitVar Stat.team ∈ keys)
    (l : LineDamage) : l.victims v = l.victims w := by
  have hteam_eq : ∀ id b c, v.unit? id = some b → w.unit? id = some c → b.team = c.team :=
    fun id b c hv hw =>
      Bag.text_congr (h.get? (p := .unit id) hv hw (covered_of_anyUnitVar hteam id))
  have hposition_eq : ∀ id b c, v.unit? id = some b → w.unit? id = some c →
      b.position = c.position :=
    fun id b c hv hw => position_of_agreeOn h (covered_of_anyUnitVar hposition id) hv hw
  rcases h.unit?_cases l.attacker with ⟨hv, hw⟩ | ⟨b, c, hv, hw⟩
  · rw [LineDamage.victims, LineDamage.victims, hv, hw]
  rcases h.unit?_cases l.target with ⟨hv', hw'⟩ | ⟨b', c', hv', hw'⟩
  · rw [LineDamage.victims, LineDamage.victims, hv, hw, hv', hw']
  simp only [LineDamage.victims, hv, hw, hv', hw', hteam_eq _ _ _ hv hw,
    hposition_eq _ _ _ hv hw, hposition_eq _ _ _ hv' hw']
  cases Direction.bearing? c.position c'.position with
  | none => rfl
  | some direction =>
    simp only [NameMap.map_fst_filter_entries, h.ids]
    refine congrArg (w.units.names.filter ·) (h.any_get?_units fun id b₀ c₀ hv₀ hw₀ => ?_)
    rw [hteam_eq id b₀ c₀ hv₀ hw₀, hposition_eq id b₀ c₀ hv₀ hw₀]

theorem line_confined (rules : Rules) (l : LineDamage) :
    Confined (Action.line l).readKeys (Action.line l).writeKeys (l.apply rules) := by
  refine .of_agree fun v w h => ?_
  have hvictims : l.victims v = l.victims w :=
    victims_of_agreeOn h (by simp [Action.readKeys]) (by simp [Action.readKeys]) l
  simp only [LineDamage.apply, hvictims]
  have hattack : ∀ victim ∈ l.victims w,
      Confined (Action.line l).readKeys (Action.line l).writeKeys fun w =>
        (Combat.attack rules w l.attacker victim { kind := l.kind, power := l.power }).outcome := by
    intro victim _
    refine (Combat.attack_confined rules _).mono (fun x hx => ?_)
      (covered_of_within (Combat.attackWrites_within_any (.unit l.attacker) victim))
    exact covered_of_subset (List.subset_append_left ..) x
      (covered_of_within (Combat.attackReads_within_any (.unit l.attacker) victim) x hx)
  exact ⟨_, .fold hattack, rfl, rfl⟩

/-! ## All actions -/

namespace Action

theorem addToVar_confined (rules : Rules) (account : Account) (name : String) (delta : Value) :
    Confined [.var account.place name] [.var account.place name]
      ((addToVar account name delta).apply rules) := by
  refine .of_agree fun v w h => ?_
  simp only [apply]
  cases hv : v.bag? account.place with
  | none =>
    have hw : w.bag? account.place = none := by
      have hsome := h.isSome_bag? account.place
      simpa [hv] using hsome
    refine ⟨_, .nothing, ?_, ?_⟩
    · rw [World.update_of_none hv]
    · rw [World.update_of_none hw]
  | some b =>
    have hsome := h.isSome_bag? account.place
    obtain ⟨c, hw⟩ := Option.isSome_iff_exists.1 (hsome ▸ Option.isSome_of_eq_some hv)
    have hcovered : Covered [Key.var account.place name] (.var account.place name) :=
      covered_of_mem List.mem_cons_self
    -- what is added up is what both worlds hold, so that adding is setting
    have hvalue : b.get? name = c.get? name := h.get? hv hw hcovered
    refine ⟨_, .edit (e := .set account.place name (((c.get? name).getD (.int 0)).add delta))
      hcovered [], ?_, ?_⟩
    · rw [World.update_congr hv (g := (·.set name (((c.get? name).getD (.int 0)).add delta)))]
      · rfl
      · rw [Bag.addTo, hvalue]
    · rw [World.update_congr hw (g := (·.set name (((c.get? name).getD (.int 0)).add delta)))]
      · rfl
      · rw [Bag.addTo]

/-- Every action reads and writes inside the footprint that it declares. -/
theorem apply_confined (rules : Rules) (a : Action) :
    Confined a.readKeys a.writeKeys (a.apply rules) := by
  cases a with
  | setVar place name value =>
    exact .edit (e := .set place name value) (covered_of_mem List.mem_cons_self) []
  | addToVar account name delta => exact addToVar_confined rules account name delta
  | removeVar place name =>
    exact .edit (e := .unset place name) (covered_of_mem List.mem_cons_self) []
  | addTag place tag =>
    exact .edit (e := .tag place tag) (covered_of_mem List.mem_cons_self) []
  | removeTag place tag =>
    exact .edit (e := .untag place tag) (covered_of_mem List.mem_cons_self) []
  | damage target amount => exact Combat.damage_confined rules amount
  | heal target amount => exact Combat.heal_confined rules amount
  | strike school attacker target power ignoreRatio => exact Combat.attack_confined rules _
  | move unit goal => exact moveTo_confined unit goal
  | dash unit target maxSteps => exact dashTowards_confined unit target maxSteps
  | line l => exact line_confined rules l

variable {rules : Rules} {a : Action}

theorem sameFrame_apply (rules : Rules) (a : Action) (w : World) :
    w.SameFrame (a.apply rules w).world :=
  (apply_confined rules a).sameFrame w

theorem hasHealth_apply (h : w.HasHealth) : (a.apply rules w).world.HasHealth :=
  (apply_confined rules a).hasHealth h

/-- What an action does not write keeps its content. -/
theorem content_apply_of_not_covers (h : w.HasHealth) {l : Location}
    (hl : a.writes.covers l = false) : (a.apply rules w).world.content l = w.content l := by
  refine (apply_confined rules a).content_eq h fun hcovered => ?_
  rw [writes, Footprint.covers_ofList_iff.2 hcovered] at hl
  exact absurd hl (by decide)

theorem agreeOn_readKeys (halike : v.Alike w) (hv : v.HasHealth) (hw : w.HasHealth)
    (hreads : ∀ l, a.reads.covers l = true → v.content l = w.content l) :
    v.AgreeOn a.readKeys w :=
  ⟨.of_hasHealth halike hv hw, fun l hl => hreads l (Footprint.covers_ofList_iff.2 hl)⟩

/-- An action leaves alone every location whose key overlaps no key that it writes, and no action
changes the clock, the seed, the counter of rolls, the size of the grid or who is in the world. -/
theorem apply_frame (rules : Rules) (a : Action) (w : World) :
    (w.HasHealth → ∀ l : Location, (∀ k ∈ a.writes.keys, (Key.ofLocation l).overlaps k = false) →
      (a.apply rules w).world.content l = w.content l) ∧
    (a.apply rules w).world.turn = w.turn ∧
    (a.apply rules w).world.seed = w.seed ∧
    (a.apply rules w).world.rolls = w.rolls ∧
    (a.apply rules w).world.tiles.width = w.tiles.width ∧
    (a.apply rules w).world.tiles.height = w.tiles.height ∧
    (a.apply rules w).world.units.names = w.units.names := by
  have hframe := sameFrame_apply rules a w
  refine ⟨fun hw l hl => ?_, hframe.turn.symm, hframe.seed.symm, hframe.rolls.symm,
    hframe.width.symm, hframe.height.symm, hframe.ids.symm⟩
  exact content_apply_of_not_covers hw (Footprint.not_covers_of_not_overlaps hl)

/-- A line through two units may mark them with any fired threshold, but not with a tag that lacks
the colon of the family. -/
theorem apply_frame_line :
    let line := Action.line
      { attacker := "ann", target := "bob", kind := .magic, power := 8, length := 3 }
    let mark := Location.tag (.unit "cid") "threshold_fired"
    arena.HasHealth ∧ (∀ k ∈ line.writes.keys, (Key.ofLocation mark).overlaps k = false) ∧
      (line.apply {} arena).world.content mark = arena.content mark := by
  intro line mark
  have hmark : ∀ k ∈ line.writes.keys, (Key.ofLocation mark).overlaps k = false := by decide
  exact ⟨hasHealth_arena, hmark, (apply_frame {} line arena).1 hasHealth_arena mark hmark⟩

/-- Worlds that hold the same wherever an action reads see the same events, and each location ends
alike in both or stays in both. -/
theorem apply_congr (rules : Rules) (a : Action) (hv : v.HasHealth) (hw : w.HasHealth)
    (halike : v.Alike w) (hreads : ∀ l, a.reads.covers l = true → v.content l = w.content l) :
    (a.apply rules v).trace = (a.apply rules w).trace ∧
    ∀ l : Location,
      (a.apply rules v).world.content l = (a.apply rules w).world.content l ∨
        ((a.apply rules v).world.content l = v.content l ∧
          (a.apply rules w).world.content l = w.content l) := by
  have hagree := agreeOn_readKeys halike hv hw hreads
  exact ⟨(apply_confined rules a).trace_eq hagree,
    fun l => (apply_confined rules a).content_cases hagree l⟩

/-- The health of an attacker does not matter to its attack. -/
theorem apply_congr_wounded :
    let strike := Action.strike .physical "ann" "bob" 7 0.25
    let wounded := (Edit.set (.unit "ann") Stat.hp (.int 1)).apply arena
    (arena.HasHealth ∧ wounded.HasHealth ∧ arena.Alike wounded ∧
      ∀ l, strike.reads.covers l = true → arena.content l = wounded.content l) ∧
    (strike.apply {} arena).trace = (strike.apply {} wounded).trace ∧
    ∀ l : Location,
      (strike.apply {} arena).world.content l = (strike.apply {} wounded).world.content l ∨
        ((strike.apply {} arena).world.content l = arena.content l ∧
          (strike.apply {} wounded).world.content l = wounded.content l) := by
  intro strike wounded
  have hwounded : wounded.HasHealth := Edit.hasHealth_apply hasHealth_arena _
  have halike : arena.Alike wounded := (Edit.sameFrame_apply _ arena).toAlike
  have hreads : ∀ l, strike.reads.covers l = true → arena.content l = wounded.content l := by
    intro l hl
    have hne : l ≠ .var (.unit "ann") Stat.hp := by
      rintro rfl
      exact absurd hl (by decide)
    exact (Edit.content_apply_of_ne_of_hasHealth hne hasHealth_arena).symm
  exact ⟨⟨hasHealth_arena, hwounded, halike, hreads⟩,
    apply_congr {} strike hasHealth_arena hwounded halike hreads⟩

end Action

end Skirmish
