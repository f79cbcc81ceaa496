import Skirmish.Proofs.Course.Standing

/-!
# Dashes

A unit dashes step by step towards another one (`DashStep`). A step brings it one king's step nearer
to its goal (`DashStep.nearer`), so no run of steps is longer than the king's distance from where it
starts, however many steps are allowed. A dash makes the steps that it is allowed and that the tiles
ahead leave it, and it changes nothing but the place of its unit (`Action.apply_dash`).
-/

namespace Skirmish

/-! ## The king's distance -/

/-- A step along one axis shortens the way on it by one, if there is any. -/
theorem natAbs_sub_step (a b : Int32) :
    (b.toInt - (Int32.ofInt (a.toInt + (b.toInt - a.toInt).sign)).toInt).natAbs =
      (b.toInt - a.toInt).natAbs - 1 := by
  have ha := a.le_toInt
  have hb := b.le_toInt
  have ha' := a.toInt_lt
  have hb' := b.toInt_lt
  rcases Int.lt_trichotomy (b.toInt - a.toInt) 0 with hback | hlevel | hahead
  · rw [Int.sign_eq_neg_one_of_neg hback, Int32.toInt_ofInt_of_le (by omega) (by omega)]
    omega
  · rw [hlevel, Int.sign_zero, Int32.toInt_ofInt_of_le (by omega) (by omega)]
    omega
  · rw [Int.sign_eq_one_of_pos hahead, Int32.toInt_ofInt_of_le (by omega) (by omega)]
    omega

theorem kingSteps_eq_zero_iff {p q : Coord} : kingSteps p q = 0 ↔ p = q := by
  obtain ⟨px, py⟩ := p
  obtain ⟨qx, qy⟩ := q
  rw [Coord.mk.injEq, ← Int32.toInt_inj, ← Int32.toInt_inj]
  simp only [kingSteps, Coord.difference]
  omega

theorem kingSteps_shift {p goal : Coord} (h : p ≠ goal) :
    kingSteps (p.shift (p.stepTowards goal)) goal + 1 = kingSteps p goal := by
  have hcolumns := natAbs_sub_step p.x goal.x
  have hrows := natAbs_sub_step p.y goal.y
  have hapart : kingSteps p goal ≠ 0 := mt kingSteps_eq_zero_iff.1 h
  simp only [kingSteps, Coord.difference, Coord.shift, Coord.stepTowards] at hapart ⊢
  omega

/-! ## Steps -/

/-- A tile that a dashing unit cannot go to: it is off the grid, or another unit stands on it. -/
def World.IsBarred (w : World) (id : String) (p : Coord) : Prop :=
  w.inBounds p = false ∨ ∃ other unit, other ≠ id ∧ w.unit? other = some unit ∧ unit.position = p

theorem isOccupied_iff {w : World} {id : String} {p : Coord} :
    isOccupied w id p = true ↔
      ∃ other unit, other ≠ id ∧ w.unit? other = some unit ∧ unit.position = p := by
  simp only [isOccupied, List.any_eq_true, Bool.and_eq_true, bne_iff_ne, beq_iff_eq, Prod.exists,
    World.unit?, NameMap.get?_eq_some_iff]
  exact exists₂_congr fun _ _ => and_left_comm

theorem World.isBarred_iff {w : World} {id : String} {p : Coord} :
    w.IsBarred id p ↔ (!w.inBounds p || isOccupied w id p) = true := by
  rw [Bool.or_eq_true, Bool.not_eq_true', isOccupied_iff, IsBarred]

variable {w : World} {id : String} {goal p q : Coord} {n : Nat}

/-- One step of a dash: a king's step towards the goal, if that is not reached, onto a tile that is
not barred. -/
structure DashStep (w : World) (id : String) (goal p q : Coord) : Prop where
  apart : p ≠ goal
  ahead : q = p.shift (p.stepTowards goal)
  free : ¬ w.IsBarred id q

theorem DashStep.nearer (h : DashStep w id goal p q) : kingSteps q goal + 1 = kingSteps p goal := by
  rw [h.ahead]
  exact kingSteps_shift h.apart

/-- Steps of a dash one after the other, and their number. -/
inductive DashRun (w : World) (id : String) (goal : Coord) : Nat → Coord → Coord → Prop where
  | nil (p : Coord) : DashRun w id goal 0 p p
  | cons {n : Nat} {p q r : Coord} (first : DashStep w id goal p q)
      (rest : DashRun w id goal n q r) : DashRun w id goal (n + 1) p r

namespace DashRun

theorem nearer (h : DashRun w id goal n p q) : kingSteps q goal + n = kingSteps p goal := by
  induction h with
  | nil p => rfl
  | cons first _ ih =>
    have hfirst := first.nearer
    omega

/-- A run of steps ends where it began or on a tile that is not barred. -/
theorem free (h : DashRun w id goal n p q) : n = 0 ∨ ¬ w.IsBarred id q := by
  induction h with
  | nil p => exact .inl rfl
  | @cons n p q r first rest ih =>
    refine .inr ?_
    rcases ih with rfl | hfree
    · cases rest
      exact first.free
    · exact hfree

theorem eq_zero_iff (h : DashRun w id goal n p q) : n = 0 ↔ q = p := by
  have hnearer := h.nearer
  constructor
  · rintro rfl
    cases h
    rfl
  · rintro rfl
    omega

end DashRun

/-- The end of a dash is reached by steps, as many as are allowed or as can be made. -/
theorem dashRun_dashEnd (w : World) (id : String) (hn : n ≤ kingSteps p goal) :
    ∃ steps ≤ n, DashRun w id goal steps p (dashEnd w id goal n p) ∧
      (steps = n ∨ ∀ q, ¬ DashStep w id goal (dashEnd w id goal n p) q) := by
  induction n generalizing p with
  | zero => exact ⟨0, Nat.le_refl 0, .nil p, .inl rfl⟩
  | succ n ih =>
    have hapart : p ≠ goal := by
      intro heq
      rw [kingSteps_eq_zero_iff.2 heq] at hn
      omega
    rw [dashEnd]
    by_cases hbarred : w.IsBarred id (p.shift (p.stepTowards goal))
    · rw [if_pos (World.isBarred_iff.1 hbarred)]
      refine ⟨0, Nat.zero_le _, .nil p, .inr fun q hstep => hstep.free ?_⟩
      rw [hstep.ahead]
      exact hbarred
    · rw [if_neg (mt World.isBarred_iff.2 hbarred)]
      have hstep : DashStep w id goal p _ := ⟨hapart, rfl, hbarred⟩
      have hnearer := hstep.nearer
      obtain ⟨steps, hle, hrun, hstop⟩ := ih (p := p.shift (p.stepTowards goal)) (by omega)
      exact ⟨steps + 1, by omega, .cons hstep hrun, hstop.imp_left fun h => by rw [h]⟩

/-- The end of a dash, which is never longer than the king's distance to its goal, is the end of a
run of the steps allowed, however many, or of all that can be made. -/
theorem dashRun_dashEnd_min (w : World) (id : String) (goal : Coord) (allowed : Nat) (p : Coord) :
    ∃ steps ≤ allowed,
      DashRun w id goal steps p (dashEnd w id goal (min allowed (kingSteps p goal)) p) ∧
      (steps = allowed ∨
        ∀ q, ¬ DashStep w id goal (dashEnd w id goal (min allowed (kingSteps p goal)) p) q) := by
  obtain ⟨steps, hle, hrun, hstop⟩ :=
    dashRun_dashEnd w id (Nat.min_le_right allowed (kingSteps p goal))
  refine ⟨steps, by omega, hrun, ?_⟩
  by_cases hallowed : steps = allowed
  · exact .inl hallowed
  · refine .inr (hstop.elim (fun hall q hstep => hstep.apart ?_) (·))
    -- The way itself was the bound, so the goal is reached.
    have hnearer := hrun.nearer
    exact kingSteps_eq_zero_iff.1 (by omega)

/-! ## Dashes -/

/-- How a dash that moves a unit ends, after so many of the steps that it was allowed. -/
structure DashMoves (w : World) (id : String) (allowed : Int) (start goal finish : Coord)
    (steps : Nat) : Prop where
  one_le : 1 ≤ steps
  le_allowed : steps ≤ allowed
  nearer : kingSteps finish goal + steps = kingSteps start goal
  inBounds : w.inBounds finish = true
  alone : ∀ other unit, other ≠ id → w.unit? other = some unit → unit.position ≠ finish
  ne_goal : finish ≠ goal
  stopped : steps = allowed ∨ w.IsBarred id (finish.shift (finish.stepTowards goal))

section

variable {unit aim : Bag} {target : String} {maxSteps : Int64}

/-- A dash takes its unit through a run of steps, and it stops when it has made all that it is
allowed or cannot make another one. -/
theorem dashRun_dashTowards (hunit : w.unit? id = some unit) (haim : w.unit? target = some aim)
    (hrooted : unit.isRooted = false) (maxSteps : Int64) :
    ∃ last steps, (dashTowards w id target maxSteps).world.unit? id = some last ∧
      steps ≤ maxSteps.toInt.toNat ∧
      DashRun w id aim.position steps unit.position last.position ∧
      (steps = maxSteps.toInt.toNat ∨ ∀ q, ¬ DashStep w id aim.position last.position q) := by
  obtain ⟨steps, hle, hrun, hstop⟩ := dashRun_dashEnd_min w id aim.position maxSteps.toInt.toNat
    unit.position
  simp only [dashTowards, hunit, haim, hrooted, Bool.false_eq_true, if_false]
  split
  · next hstays =>
    rw [hstays] at hrun hstop
    exact ⟨unit, steps, hunit, hle, hrun, hstop⟩
  · have hmoved := World.unit?_updateUnit_self hunit (·.set Stat.position (.coord
      (dashEnd w id aim.position (min maxSteps.toInt.toNat (kingSteps unit.position aim.position))
        unit.position)))
    rw [← position_relocate hunit unit.position _ hmoved] at hrun hstop
    exact ⟨_, steps, hmoved, hle, hrun, hstop⟩

/-- Where there is nobody to dash or to dash to, or the unit is rooted or there already, a dash does
nothing. -/
theorem dashTowards_of_idle (h : ∀ unit aim, w.unit? id = some unit → w.unit? target = some aim →
    unit.isRooted = true ∨ unit.position = aim.position) :
    dashTowards w id target maxSteps = ⟨w, []⟩ := by
  rw [dashTowards]
  split
  · next unit aim hunit haim =>
    by_cases hrooted : unit.isRooted = true
    · rw [if_pos hrooted]
    · have hthere := (h unit aim hunit haim).resolve_left hrooted
      simp only [if_neg hrooted, hthere, kingSteps_eq_zero_iff.2, Nat.min_zero, dashEnd, if_true]
  · rfl

/-- A dash edits the place of its unit, if anything. -/
theorem world_dashTowards (w : World) (id target : String) (maxSteps : Int64) :
    ∃ es : List Edit, (∀ e ∈ es, e.location = .var (.unit id) Stat.position) ∧
      (dashTowards w id target maxSteps).world = Edit.run es w := by
  have hnothing : ∃ es : List Edit, (∀ e ∈ es, e.location = .var (.unit id) Stat.position) ∧
      w = Edit.run es w := ⟨[], by simp, rfl⟩
  rw [dashTowards]
  split
  · split
    · exact hnothing
    · dsimp only
      split
      · exact hnothing
      · exact ⟨[.set (.unit id) Stat.position (.coord _)], by simp [Edit.location], rfl⟩
  · exact hnothing

/-- What the steps of a dash that moved its unit have come to. -/
theorem DashRun.moves (haim : w.unit? target = some aim) {start finish : Coord} {steps : Nat}
    (hrun : DashRun w id aim.position steps start finish) (hmoved : finish ≠ start)
    (hself : target = id → start = aim.position) (hle : steps ≤ maxSteps.toInt.toNat)
    (hstop : steps = maxSteps.toInt.toNat ∨ ∀ q, ¬ DashStep w id aim.position finish q) :
    DashMoves w id maxSteps.toInt start aim.position finish steps := by
  have hsteps : steps ≠ 0 := mt hrun.eq_zero_iff.1 hmoved
  have hfree : ¬ w.IsBarred id finish := hrun.free.resolve_left hsteps
  have hnearer := hrun.nearer
  simp only [World.IsBarred, not_or, Bool.not_eq_false, not_exists, not_and] at hfree
  have hgoal : finish ≠ aim.position := by
    rintro rfl
    by_cases hsame : target = id
    · have hthere := kingSteps_eq_zero_iff.2 (hself hsame)
      omega
    · exact hfree.2 target aim hsame haim rfl
  refine ⟨by omega, by omega, hnearer, hfree.1, hfree.2, hgoal, ?_⟩
  refine hstop.imp (fun hall => by omega) fun hnone => ?_
  by_contra hopen
  exact hnone _ ⟨hgoal, rfl, hopen⟩

end

/-- A dash of a unit that is not rooted makes steps towards its target, never more than the king's
distance between the two, until it has made as many as it is allowed or cannot make another one.
Where there is no such unit or no target, or the unit is rooted or there already, nothing happens.
Nothing but the place of the unit changes, except that a unit without health is given zero. -/
theorem Action.apply_dash (rules : Rules) (w : World) (id target : String) (maxSteps : Int64) :
    let o := (Action.dash id target maxSteps).apply rules w
    (∀ unit aim, w.unit? id = some unit → w.unit? target = some aim → unit.isRooted = false →
      ∃ last steps, o.world.unit? id = some last ∧
        DashRun w id aim.position steps unit.position last.position ∧
        (steps = maxSteps.toInt.toNat ∨ ∀ q, ¬ DashStep w id aim.position last.position q) ∧
        steps ≤ kingSteps unit.position aim.position ∧
        (last.position ≠ unit.position → DashMoves w id maxSteps.toInt unit.position aim.position
          last.position steps)) ∧
    ((∀ unit aim, w.unit? id = some unit → w.unit? target = some aim →
      unit.isRooted = true ∨ unit.position = aim.position) → o = ⟨w, []⟩) ∧
    w.SameFrame o.world ∧
    ∀ l, l ≠ .var (.unit id) Stat.position → (w.HasHealth ∨ ∀ p, l ≠ .var p Stat.hp) →
      o.world.content l = w.content l := by
  intro o
  obtain ⟨es, hes, hworld⟩ := world_dashTowards w id target maxSteps
  have hedited : o.world = Edit.run es w := hworld
  refine ⟨fun unit aim hunit haim hrooted => ?_, dashTowards_of_idle, ?_, fun l hl hhealth => ?_⟩
  · obtain ⟨last, steps, hlast, hle, hrun, hstop⟩ :=
      dashRun_dashTowards hunit haim hrooted maxSteps
    have hnearer := hrun.nearer
    refine ⟨last, steps, hlast, hrun, hstop, by omega, fun hmoved => ?_⟩
    refine hrun.moves haim hmoved (fun hself => ?_) hle hstop
    cases hunit.symm.trans (hself ▸ haim)
    rfl
  · rw [hedited]
    exact Edit.sameFrame_run es w
  · have hne : ∀ e ∈ es, l ≠ e.location := fun e he => hes e he ▸ hl
    rw [hedited]
    rcases hhealth with hhealth | hother
    · exact Edit.content_run_of_ne hne hhealth
    · exact Edit.content_run_of_ne_of_ne_health hne hother w

/-- A dash that is allowed more steps than any grid has tiles. -/
theorem Action.apply_dash_ann :
    let w := (Edit.set (.unit "bob") Stat.position (.coord ⟨3, 2⟩)).apply arena
    let o := (Action.dash "ann" "cid" .maxValue).apply {} w
    ∃ unit aim, w.unit? "ann" = some unit ∧ w.unit? "cid" = some aim ∧ unit.isRooted = false ∧
      w.HasHealth ∧
      (∃ last steps, o.world.unit? "ann" = some last ∧ last.position ≠ unit.position ∧
        steps ≤ kingSteps unit.position aim.position ∧
        DashMoves w "ann" Int64.maxValue.toInt unit.position aim.position last.position steps) ∧
      ∀ l, l ≠ .var (.unit "ann") Stat.position → o.world.content l = w.content l := by
  intro w o
  obtain ⟨unit, hunit⟩ : ∃ unit, w.unit? "ann" = some unit :=
    Option.isSome_iff_exists.1 (by decide)
  obtain ⟨aim, haim⟩ : ∃ aim, w.unit? "cid" = some aim := Option.isSome_iff_exists.1 (by decide)
  have hrooted : ∀ unit ∈ w.unit? "ann", unit.isRooted = false := by decide
  have hmoves : ∀ unit ∈ w.unit? "ann", ∀ last ∈ o.world.unit? "ann",
      last.position ≠ unit.position := by
    decide +kernel
  have hhealth : w.HasHealth := Edit.hasHealth_apply hasHealth_arena _
  obtain ⟨hdash, -, -, hframe⟩ := apply_dash {} w "ann" "cid" .maxValue
  obtain ⟨last, steps, hlast, -, -, hsteps, hmoved⟩ :=
    hdash unit aim hunit haim (hrooted unit hunit)
  have hmove := hmoves unit hunit last hlast
  exact ⟨unit, aim, hunit, haim, hrooted unit hunit, hhealth,
    ⟨last, steps, hlast, hmove, hsteps, hmoved hmove⟩, fun l hl => hframe l hl (.inl hhealth)⟩

end Skirmish
