import Skirmish.Proofs.Combat.Health
import Skirmish.Proofs.Course.Action

/-!
# The ledger of health

The trace accounts for health. Whatever actions do, short of editing the health of a unit outright,
its health afterwards is its health before, less the damage and plus the healing that the trace
records for it (`Action.hp_applyAll`).
-/

namespace Skirmish

namespace TraceEvent

/-- The health that an event takes from a unit. -/
def taken (id : String) : TraceEvent → Int
  | damaged target amount _ => if target = id then amount.toInt else 0
  | _ => 0

def given (id : String) : TraceEvent → Int
  | healed target amount _ => if target = id then amount.toInt else 0
  | _ => 0

theorem taken_of_subject {id : String} {e : TraceEvent} (h : e.subject? ≠ some id) :
    e.taken id = 0 ∧ e.given id = 0 := by
  cases e with
  | damaged target amount flags =>
    exact ⟨if_neg fun htarget => h (congrArg some htarget), rfl⟩
  | healed target amount flags =>
    exact ⟨rfl, if_neg fun htarget => h (congrArg some htarget)⟩
  | _ => exact ⟨rfl, rfl⟩

end TraceEvent

/-- The sum of the damage that a trace records for a unit. -/
def damageOf (id : String) : List TraceEvent → Int
  | [] => 0
  | e :: trace => e.taken id + damageOf id trace

/-- The sum of the healing that a trace records for a unit. -/
def healingOf (id : String) : List TraceEvent → Int
  | [] => 0
  | e :: trace => e.given id + healingOf id trace

@[simp] theorem damageOf_nil (id : String) : damageOf id [] = 0 := rfl

@[simp] theorem healingOf_nil (id : String) : healingOf id [] = 0 := rfl

@[simp] theorem damageOf_singleton (id : String) (e : TraceEvent) :
    damageOf id [e] = e.taken id :=
  Int.add_zero _

@[simp] theorem healingOf_singleton (id : String) (e : TraceEvent) :
    healingOf id [e] = e.given id :=
  Int.add_zero _

theorem damageOf_append (id : String) (trace later : List TraceEvent) :
    damageOf id (trace ++ later) = damageOf id trace + damageOf id later := by
  induction trace with
  | nil => exact (Int.zero_add _).symm
  | cons e trace ih => rw [List.cons_append, damageOf, damageOf, ih, Int.add_assoc]

theorem healingOf_append (id : String) (trace later : List TraceEvent) :
    healingOf id (trace ++ later) = healingOf id trace + healingOf id later := by
  induction trace with
  | nil => exact (Int.zero_add _).symm
  | cons e trace ih => rw [List.cons_append, healingOf, healingOf, ih, Int.add_assoc]

variable {rules : Rules} {id : String}

theorem Moment.hp_eq {names : List String} (hhp : Stat.hp ∈ names) {unit last : Bag}
    {events : List TraceEvent} (h : Moment (Spares id names) rules id unit events last) :
    last.hp.toInt = unit.hp.toInt - damageOf id events + healingOf id events := by
  cases h with
  | edit place h =>
    have hsame : (Edit.onBag _ unit).hp = unit.hp := h.int_onBag place hhp unit
    rw [Place.hp_keep, hsame, damageOf_nil, healingOf_nil]
    omega
  | elsewhere h =>
    obtain ⟨htaken, hgiven⟩ := TraceEvent.taken_of_subject h
    rw [damageOf_singleton, healingOf_singleton, htaken, hgiven]
    omega
  | heal flags h =>
    have hrestored := Combat.toInt_restored h
    rw [Place.hp_keep, Bag.hp_set, damageOf_singleton, healingOf_singleton]
    simp only [TraceEvent.taken, TraceEvent.given, if_true]
    omega
  | @hit amount flags h hflags =>
    have hdealt := Combat.toInt_dealt rules unit h
    rw [Place.hp_keep, Combat.Impact.hp_onBag, damageOf_singleton, healingOf_singleton]
    simp only [Combat.Impact.event, TraceEvent.taken, TraceEvent.given, if_true]
    omega
  | trigger h =>
    rw [Place.hp_keep, damageOf_singleton, healingOf_singleton]
    simp only [TraceEvent.taken, TraceEvent.given, Bag.hp, Bag.int_congr (Bag.get?_tag ..)]
    omega

theorem Course.hp_eq {names : List String} (hhp : Stat.hp ∈ names) {unit last : Bag}
    {trace : List TraceEvent} (h : Course (Spares id names) rules id unit trace last) :
    last.hp.toInt = unit.hp.toInt - damageOf id trace + healingOf id trace := by
  induction h with
  | nil unit =>
    rw [damageOf_nil, healingOf_nil]
    omega
  | cons first _ ih =>
    rw [ih, first.hp_eq hhp, damageOf_append, healingOf_append]
    omega

/-- The health of a unit after a list of actions is its health before, less the damage and plus the
healing that the trace records for it, if no action edits it outright. -/
theorem Action.hp_applyAll (rules : Rules) {w : World} {unit : Bag}
    (hunit : w.unit? id = some unit) {actions : List Action}
    (h : ∀ a ∈ actions, a.edited? ≠ some (.var (.unit id) Stat.hp)) :
    ∃ last, (applyAll rules actions w).world.unit? id = some last ∧
      last.hp.toInt = unit.hp.toInt - damageOf id (applyAll rules actions w).trace +
        healingOf id (applyAll rules actions w).trace := by
  have hnames : ∀ name ∈ [Stat.hp], name ∉ Combat.counters := by decide
  have hspared : ∀ a ∈ actions, ∀ name ∈ [Stat.hp], a.edited? ≠ some (.var (.unit id) name) := by
    intro a ha name hname
    rw [List.mem_singleton.1 hname]
    exact h a ha
  obtain ⟨last, hlast, hcourse⟩ := applyAll_follows rules hnames hspared w unit hunit
  exact ⟨last, hlast, hcourse.hp_eq List.mem_cons_self⟩

/-- Raising the greatest health of a unit between a hit and a heal does not upset its ledger. -/
theorem Action.hp_applyAll_bob :
    let actions : List Action :=
      [.damage "bob" 5, .setVar (.unit "bob") Stat.maxHp (.int 40), .heal "bob" 9]
    ∃ unit, arena.unit? "bob" = some unit ∧
      (∀ a ∈ actions, a.edited? ≠ some (.var (.unit "bob") Stat.hp)) ∧
      ∃ last, (applyAll {} actions arena).world.unit? "bob" = some last ∧
        last.hp.toInt = unit.hp.toInt - damageOf "bob" (applyAll {} actions arena).trace +
          healingOf "bob" (applyAll {} actions arena).trace := by
  intro actions
  obtain ⟨unit, hunit⟩ : ∃ unit, arena.unit? "bob" = some unit :=
    Option.isSome_iff_exists.1 (by decide)
  have hspared : ∀ a ∈ actions, a.edited? ≠ some (.var (.unit "bob") Stat.hp) := by decide
  exact ⟨unit, hunit, hspared, hp_applyAll {} hunit hspared⟩

end Skirmish
