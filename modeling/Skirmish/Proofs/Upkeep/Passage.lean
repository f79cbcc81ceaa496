import Skirmish.Proofs.Upkeep.Bag

/-!
# Passages

A passage without its announcements is an outcome, and reading it so goes through the ways in which
passages are chained.

Upkeep is a chain of few kinds of steps: a line is told, the bag of a unit changes (`Change`), a
unit takes damage. What goes through chains and holds of these steps holds of the upkeep of a unit
(`Chains.unitUpkeep`).
-/

namespace Skirmish.Upkeep

namespace Passage

def outcome (p : Passage) : Outcome := ⟨p.world, p.trace⟩

theorem world_andThen (p : Passage) (next : World → Passage) :
    (p.andThen next).world = (next p.world).world := rfl

theorem trace_andThen (p : Passage) (next : World → Passage) :
    (p.andThen next).trace = p.trace ++ (next p.world).trace :=
  List.filterMap_append

theorem outcome_andThen (p : Passage) (next : World → Passage) :
    (p.andThen next).outcome = p.outcome.andThen fun w => (next w).outcome := by
  rw [outcome, trace_andThen]
  rfl

theorem outcome_ofOutcome (o : Outcome) : (ofOutcome o).outcome = o := by
  have htrace : (ofOutcome o).trace = o.trace := by
    rw [trace, ofOutcome, List.filterMap_map]
    exact List.filterMap_some
  rw [outcome, htrace]
  rfl

end Passage

/-! ## Changes of one unit -/

theorem onUnit_of_none {w : World} {id : String} (h : w.unit? id = none)
    (step : Bag → Bag × List Entry) : onUnit id step w = ⟨w, []⟩ := by
  rw [onUnit, h]

theorem onUnit_of_some {w : World} {id : String} {unit : Bag} (h : w.unit? id = some unit)
    (step : Bag → Bag × List Entry) :
    onUnit id step w = ⟨w.updateUnit id fun unit => (step unit).1, (step unit).2⟩ := by
  rw [onUnit, World.updateUnit, h]

/-- What upkeep does to the bag of a unit, damage apart. -/
inductive Change (rules : Rules) (id : String) : (Bag → Bag) → Prop where
  | tick : Change rules id fun unit => (tickStatuses id Stat.timedStatuses unit).1
  | regenerate : Change rules id fun unit => (regenerate id unit).1
  | perTurn : Change rules id (applyChanges rules)
  | countDown {a : Affliction} (h : a ∈ afflictions) (left : Int64) :
      Change rules id (a.countDown left)

/-! ## Chains of steps -/

/-- What is said of a world and a passage from it holds of chains if it holds of their links. -/
structure Chains (holds : World → Passage → Prop) : Prop where
  stop (w : World) : holds w ⟨w, []⟩
  andThen {w : World} {p : Passage} (next : World → Passage) (hp : holds w p)
    (hnext : holds p.world (next p.world)) : holds w (p.andThen next)

namespace Chains

variable {holds : World → Passage → Prop} (h : Chains holds)

include h

theorem fold {α : Type} {step : α → World → Passage} {l : List α}
    (hstep : ∀ a ∈ l, ∀ w, holds w (step a w)) (w : World) : holds w (Passage.fold step l w) := by
  induction l generalizing w with
  | nil => exact h.stop w
  | cons a l ih =>
    have hrest := ih (fun b hb => hstep b (List.mem_cons_of_mem a hb)) (step a w).world
    exact h.andThen (Passage.fold step l) (hstep a List.mem_cons_self w) hrest

/-- All of upkeep up to the new turn. -/
theorem untilTurn {rules : Rules} (hunit : ∀ id w, holds w (unitUpkeep rules id w))
    (hbury : ∀ d w, holds w (bury d w)) (htoggle : ∀ toggle w, holds w (tickToggle toggle w))
    (w : World) :
    holds w (((Passage.fold (unitUpkeep rules) w.units.names w).andThen buryDead).andThen
      (Passage.fold tickToggle toggles)) := by
  refine h.andThen _ (h.andThen _ ?_ ?_) ?_
  · exact h.fold (fun id _ => hunit id) w
  · exact h.fold (fun d _ => hbury d) _
  · exact h.fold (fun toggle _ => htoggle toggle) _

variable {rules : Rules} {id : String}
  (hchange : ∀ {change}, Change rules id change → ∀ {entries : List Entry},
    (∀ e ∈ entries, e.Told id) → ∀ w : World, holds w ⟨w.updateUnit id change, entries⟩)

include hchange

theorem onUnit {step : Bag → Bag × List Entry} (hstep : Change rules id fun unit => (step unit).1)
    (htold : ∀ unit, ∀ e ∈ (step unit).2, e.Told id) (w : World) : holds w (onUnit id step w) := by
  cases hw : w.unit? id with
  | none =>
    rw [onUnit_of_none hw]
    exact h.stop w
  | some unit =>
    rw [onUnit_of_some hw]
    exact hchange hstep (htold unit) w

variable (htell : ∀ line w, holds w ⟨w, [.note line]⟩)
  (hdamage : ∀ amount w, holds w (.ofOutcome (Combat.damage rules w id amount).outcome))

include htell hdamage

theorem suffer {a : Affliction} (ha : a ∈ afflictions) (w : World) :
    holds w (suffer rules id a w) := by
  rw [Upkeep.suffer]
  split
  · exact h.stop w
  · dsimp only
    split
    · exact h.stop w
    · refine h.andThen _ (h.andThen _ (htell _ w) (hdamage _ w)) (hchange (.countDown ha _) ?_ _)
      intro e he
      split at he
      · exact absurd he List.not_mem_nil
      · rw [List.mem_singleton.1 he]
        exact .note _

theorem live (w : World) : holds w (live rules id w) := by
  refine h.andThen _ (h.andThen _ ?_ ?_) ?_
  · exact h.onUnit hchange .regenerate (told_regenerate id) w
  · exact h.onUnit hchange .perTurn (fun _ e he => absurd he List.not_mem_nil) _
  · exact h.fold (fun a ha w => h.suffer hchange htell hdamage ha w) _

theorem unitUpkeep (w : World) : holds w (unitUpkeep rules id w) := by
  refine h.andThen _ ?_ ?_
  · exact h.onUnit hchange .tick (told_tickStatuses id Stat.timedStatuses) w
  · split
    · exact h.live hchange htell hdamage _
    · exact h.stop _

end Chains

end Skirmish.Upkeep
