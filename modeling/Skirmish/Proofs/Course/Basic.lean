import Skirmish.Proofs.Combat.Chain

/-!
# The course of a unit

What happens to one unit, moment by moment, together with what is recorded: it is edited, healed or
hit, it triggers its threshold, or something is recorded about others. A `Moment` says all that can
happen at a time and a `Course` strings moments together. An outcome `Follows` a course if it takes
the unit from one end to the other and records the events of the course.

What holds of a unit throughout is proved for each kind of moment, and of courses by induction.
-/

namespace Skirmish

/-- The unit whose health an event is about. -/
def TraceEvent.subject? : TraceEvent → Option String
  | damaged target _ _ | healed target _ _ | thresholdTriggered target _ => some target
  | evaded _ _ | moved _ _ _ | note _ => none

namespace World

theorem unit?_updateUnit_self {w : World} {id : String} {unit : Bag} (h : w.unit? id = some unit)
    (f : Bag → Bag) :
    (w.updateUnit id f).unit? id = some ((Place.unit id).keep (f unit)) := by
  have hbag := bag?_update w f (.unit id) (.unit id)
  rw [if_pos rfl] at hbag
  have hunit : w.bag? (.unit id) = some unit := h
  rw [hunit] at hbag
  exact hbag

theorem unit?_update_of_ne {w : World} {p : Place} {id : String} (h : p ≠ .unit id)
    (f : Bag → Bag) : (w.update f p).unit? id = w.unit? id := by
  have hbag := bag?_update w f p (.unit id)
  rw [if_neg fun hp => h hp.symm] at hbag
  exact hbag

end World

theorem Edit.place_of_location {e : Edit} {p : Place} {name : String}
    (h : e.location = .var p name) : e.place = p := by
  cases e <;> cases h <;> rfl

/-! ## What a unit is kept with -/

@[simp] theorem Place.int_keep (p : Place) (b : Bag) (name : String) :
    (p.keep b).int name = b.int name := by
  rw [Bag.int, Bag.int, get?_keep]
  split
  -- Health that is filled in is zero, which is how missing health reads.
  · next h =>
    rw [h.2]
    cases b.get? Stat.hp <;> rfl
  · rfl

@[simp] theorem Place.hp_keep (p : Place) (b : Bag) : (p.keep b).hp = b.hp := p.int_keep b Stat.hp

theorem Place.get?_keep_of_ne (p : Place) (b : Bag) {name : String} (h : name ≠ Stat.hp) :
    (p.keep b).get? name = b.get? name := by
  rw [get?_keep, if_neg fun hp => h hp.2]

theorem Bag.int_set (b : Bag) (name other : String) (value : Value) :
    (b.set name value).int other = if other = name then value.asInt else b.int other := by
  rw [Bag.int, Bag.get?_set]
  split <;> rfl

@[simp] theorem Bag.hp_set (b : Bag) (n : Int64) : (b.set Stat.hp (.int n)).hp = n := by
  rw [hp, int_set, if_pos rfl]
  rfl

namespace Combat

theorem Impact.get?_onBag_of_ne (i : Impact) (unit : Bag) {name : String} (hhp : name ≠ Stat.hp)
    (hshield : name ≠ Stat.shield) : (i.onBag unit).get? name = unit.get? name := by
  unfold onBag
  dsimp only
  split
  · rw [Bag.get?_set, if_neg hshield, Bag.get?_set, if_neg hhp]
  · rw [Bag.get?_set, if_neg hhp]

@[simp] theorem Impact.hp_onBag (i : Impact) (unit : Bag) : (i.onBag unit).hp = i.after := by
  have hshield : Stat.hp ≠ Stat.shield := by decide
  unfold onBag
  dsimp only
  split
  · rw [Bag.hp, Bag.int_set, if_neg hshield, ← Bag.hp, Bag.hp_set]
  · rw [Bag.hp_set]

@[simp] theorem Impact.hasTag_onBag (i : Impact) (unit : Bag) (tag : String) :
    (i.onBag unit).hasTag tag = unit.hasTag tag := by
  unfold onBag
  dsimp only
  split
  · rw [Bag.hasTag_set, Bag.hasTag_set]
  · rw [Bag.hasTag_set]

end Combat

/-! ## Moments -/

section

variable (allowed : Edit → Prop) (rules : Rules) (id : String)

/-- One thing that happens to a unit: the unit before, what is recorded, the unit after. -/
inductive Moment : Bag → List TraceEvent → Bag → Prop where
  | edit {unit : Bag} {e : Edit} (place : e.place = .unit id) (h : allowed e) :
      Moment unit [] ((Place.unit id).keep (e.onBag unit))
  /-- Something is recorded that is not about the unit. -/
  | elsewhere {unit : Bag} {e : TraceEvent} (h : e.subject? ≠ some id) : Moment unit [e] unit
  | heal {unit : Bag} {amount after : Int64} (flags : HitFlags)
      (h : Combat.healedTo? unit amount = some after) :
      Moment unit [.healed id (after - unit.hp) flags]
        ((Place.unit id).keep (unit.set Stat.hp (.int after)))
  | hit {unit : Bag} {amount : Int64} {flags : HitFlags} (h : ¬amount ≤ 0)
      (hflags : flags.undying = false ∧ flags.lethal = false) :
      Moment unit [(Combat.impact rules unit amount).event id flags]
        ((Place.unit id).keep ((Combat.impact rules unit amount).onBag unit))
  | trigger {unit : Bag} {before after : Int64} {skill : String}
      (h : Combat.triggered? unit before after = some skill) :
      Moment unit [.thresholdTriggered id skill]
        ((Place.unit id).keep (unit.tag (Stat.thresholdFired skill)))

/-- Moments one after the other. -/
inductive Course : Bag → List TraceEvent → Bag → Prop where
  | nil (unit : Bag) : Course unit [] unit
  | cons {unit next last : Bag} {events later : List TraceEvent}
      (first : Moment allowed rules id unit events next) (rest : Course next later last) :
      Course unit (events ++ later) last

/-- An outcome takes a unit through a course and records its events. -/
def Follows (w : World) (o : Outcome) : Prop :=
  ∀ unit, w.unit? id = some unit →
    ∃ last, o.world.unit? id = some last ∧ Course allowed rules id unit o.trace last

end

variable {allowed : Edit → Prop} {rules : Rules} {id : String}

theorem Moment.mono {allowed' : Edit → Prop} (hallowed : ∀ e, allowed e → allowed' e)
    {unit last : Bag} {events : List TraceEvent}
    (h : Moment allowed rules id unit events last) : Moment allowed' rules id unit events last := by
  cases h with
  | edit place h => exact .edit place (hallowed _ h)
  | elsewhere h => exact .elsewhere h
  | heal flags h => exact .heal flags h
  | hit h hflags => exact .hit h hflags
  | trigger h => exact .trigger h

namespace Course

theorem single {unit last : Bag} {events : List TraceEvent}
    (h : Moment allowed rules id unit events last) : Course allowed rules id unit events last := by
  have hcourse := cons h (.nil last)
  rwa [List.append_nil] at hcourse

theorem append {unit next last : Bag} {events later : List TraceEvent}
    (h : Course allowed rules id unit events next) (k : Course allowed rules id next later last) :
    Course allowed rules id unit (events ++ later) last := by
  induction h with
  | nil unit => exact k
  | cons first _ ih =>
    rw [List.append_assoc]
    exact .cons first (ih k)

/-- What every moment preserves holds throughout a course. -/
theorem invariant {holds : Bag → Prop}
    (step : ∀ {unit events last}, Moment allowed rules id unit events last → holds unit → holds last)
    {unit last : Bag} {trace : List TraceEvent} (h : Course allowed rules id unit trace last)
    (hunit : holds unit) : holds last := by
  induction h with
  | nil unit => exact hunit
  | cons first _ ih => exact ih (step first hunit)

/-- Recording what is not about a unit is a course of it. -/
theorem of_elsewhere (unit : Bag) {events : List TraceEvent}
    (h : ∀ e ∈ events, e.subject? ≠ some id) : Course allowed rules id unit events unit := by
  induction events with
  | nil => exact .nil unit
  | cons e events ih =>
    exact .cons (.elsewhere (h e List.mem_cons_self))
      (ih fun e' he' => h e' (List.mem_cons_of_mem e he'))

theorem events_of_moment {unit last : Bag} {events : List TraceEvent}
    (h : Moment allowed rules id unit events last) : events = [] ∨ ∃ e, events = [e] := by
  cases h with
  | edit place h => exact .inl rfl
  | _ => exact .inr ⟨_, rfl⟩

/-- A recorded event is a moment of its own, at the end of the course that led to it. -/
theorem split {unit last : Bag} {trace before after : List TraceEvent} {e : TraceEvent}
    (h : Course allowed rules id unit trace last) (htrace : trace = before ++ e :: after) :
    ∃ mid next, Course allowed rules id unit before mid ∧ Moment allowed rules id mid [e] next ∧
      Course allowed rules id next after last := by
  induction h generalizing before with
  | nil unit => exact absurd htrace.symm (by simp)
  | @cons unit next last events later first rest ih =>
    -- A moment records at most one event: it is the one we look for, or that one comes later.
    rcases events_of_moment first with rfl | ⟨e', rfl⟩
    · obtain ⟨mid, next', hbefore, hmoment, hafter⟩ := ih htrace
      exact ⟨mid, next', .cons first hbefore, hmoment, hafter⟩
    · cases before with
      | nil =>
        obtain ⟨rfl, rfl⟩ := List.cons.inj htrace
        exact ⟨unit, next, .nil unit, first, rest⟩
      | cons b before =>
        obtain ⟨rfl, hlater⟩ := List.cons.inj htrace
        obtain ⟨mid, next', hbefore, hmoment, hafter⟩ := ih hlater
        exact ⟨mid, next', .cons first hbefore, hmoment, hafter⟩

end Course

/-! ## Variables that are not edited -/

/-- An edit leaves some variables of a unit alone. -/
def Spares (id : String) (names : List String) (e : Edit) : Prop :=
  ∀ name ∈ names, e.location ≠ .var (.unit id) name

theorem Spares.int_onBag {names : List String} {e : Edit} (h : Spares id names e)
    (place : e.place = .unit id) {name : String} (hname : name ∈ names) (unit : Bag) :
    (e.onBag unit).int name = unit.int name := by
  have hne : Location.var e.place name ≠ e.location := by
    rw [place]
    exact (h name hname).symm
  exact Bag.int_congr (Edit.get?_onBag_of_ne hne unit)

/-- Only hits and heals change the health of a unit, and hits its shield; what else is spared
stays. -/
theorem Moment.get?_eq {names : List String} {unit last : Bag} {events : List TraceEvent}
    (h : Moment (Spares id names) rules id unit events last) {name : String}
    (hname : name ∈ names) (hhp : name ≠ Stat.hp) (hshield : name ≠ Stat.shield) :
    last.get? name = unit.get? name := by
  cases h with
  | edit place h =>
    rw [Place.get?_keep_of_ne _ _ hhp, Edit.get?_onBag_of_ne]
    rw [place]
    exact (h name hname).symm
  | elsewhere h => rfl
  | heal flags h => rw [Place.get?_keep_of_ne _ _ hhp, Bag.get?_set, if_neg hhp]
  | hit h hflags =>
    rw [Place.get?_keep_of_ne _ _ hhp, Combat.Impact.get?_onBag_of_ne _ _ hhp hshield]
  | trigger h => rw [Place.get?_keep_of_ne _ _ hhp, Bag.get?_tag]

/-- Health that is spared changes by heals and by hits only. -/
theorem Moment.hp_cases {names : List String} (hhp : Stat.hp ∈ names) {unit last : Bag}
    {events : List TraceEvent} (h : Moment (Spares id names) rules id unit events last) :
    last.hp = unit.hp ∨
      (∃ amount after, Combat.healedTo? unit amount = some after ∧ last.hp = after) ∨
      ∃ amount, ¬amount ≤ 0 ∧ last.hp = (Combat.impact rules unit amount).after := by
  cases h with
  | edit place h => exact .inl ((Place.hp_keep ..).trans (h.int_onBag place hhp unit))
  | elsewhere h => exact .inl rfl
  | @heal amount after flags h =>
    refine .inr (.inl ⟨amount, after, h, ?_⟩)
    rw [Place.hp_keep, Bag.hp_set]
  | @hit amount flags h hflags =>
    refine .inr (.inr ⟨amount, h, ?_⟩)
    rw [Place.hp_keep, Combat.Impact.hp_onBag]
  | trigger h => exact .inl (Place.hp_keep ..)

namespace Follows

variable {w : World}

/-! ## Outcomes that follow a course -/

theorem nothing (w : World) : Follows allowed rules id w ⟨w, []⟩ :=
  fun unit hunit => ⟨unit, hunit, .nil unit⟩

theorem andThen {o : Outcome} (next : World → Outcome) (ho : Follows allowed rules id w o)
    (hnext : Follows allowed rules id o.world (next o.world)) :
    Follows allowed rules id w (o.andThen next) := by
  intro unit hunit
  obtain ⟨mid, hmid, hcourse⟩ := ho unit hunit
  obtain ⟨last, hlast, hrest⟩ := hnext mid hmid
  exact ⟨last, hlast, hcourse.append hrest⟩

theorem chains : Outcome.Chains (Follows allowed rules id) :=
  ⟨nothing, fun next ho hnext => ho.andThen next hnext⟩

theorem fold {α : Type} {step : α → World → Outcome} {l : List α}
    (h : ∀ a ∈ l, ∀ w, Follows allowed rules id w (step a w)) (w : World) :
    Follows allowed rules id w (Outcome.fold step l w) :=
  chains.fold h w

theorem run {es : List Edit} (h : ∀ e ∈ es, e.place = .unit id → allowed e)
    {trace : List TraceEvent} (htrace : ∀ e ∈ trace, e.subject? ≠ some id) (w : World) :
    Follows allowed rules id w ⟨Edit.run es w, trace⟩ := by
  induction es generalizing w with
  | nil => exact fun unit hunit => ⟨unit, hunit, .of_elsewhere unit htrace⟩
  | cons e es ih =>
    intro unit hunit
    have ih' := ih (fun f hf => h f (List.mem_cons_of_mem e hf)) (e.apply w)
    by_cases hplace : e.place = .unit id
    · have hedited : (e.apply w).unit? id = some ((Place.unit id).keep (e.onBag unit)) := by
        rw [Edit.apply, hplace]
        exact World.unit?_updateUnit_self hunit e.onBag
      obtain ⟨last, hlast, hcourse⟩ := ih' _ hedited
      exact ⟨last, hlast, .cons (.edit hplace (h e List.mem_cons_self hplace)) hcourse⟩
    · have hsame : (e.apply w).unit? id = some unit := by
        rw [Edit.apply, World.unit?_update_of_ne hplace, hunit]
      exact ih' unit hsame

theorem edit {e : Edit} (h : e.place = .unit id → allowed e) {trace : List TraceEvent}
    (htrace : ∀ e ∈ trace, e.subject? ≠ some id) (w : World) :
    Follows allowed rules id w ⟨e.apply w, trace⟩ := by
  have hes : ∀ f ∈ [e], f.place = .unit id → allowed f := by
    intro f hf
    rw [List.mem_singleton.1 hf]
    exact h
  exact run hes htrace w

/-- A change of one unit under one event about it, which is a moment if that unit is ours. -/
theorem change {target : String} {f : Bag → Bag} {e : TraceEvent}
    (hsubject : e.subject? = some target)
    (h : target = id → ∀ unit, w.unit? id = some unit →
      Moment allowed rules id unit [e] ((Place.unit id).keep (f unit))) :
    Follows allowed rules id w ⟨w.updateUnit target f, [e]⟩ := by
  intro unit hunit
  by_cases htarget : target = id
  · refine ⟨_, ?_, .single (h htarget unit hunit)⟩
    rw [htarget]
    exact World.unit?_updateUnit_self hunit f
  · have hplace : Place.unit target ≠ .unit id := fun hp => htarget (Place.unit.inj hp)
    refine ⟨unit, ?_, .single (.elsewhere ?_)⟩
    · exact (World.unit?_update_of_ne hplace f).trans hunit
    · rw [hsubject]
      exact fun hs => htarget (Option.some.inj hs)

end Follows

end Skirmish
