import Skirmish.Proofs.Course.Basic

/-!
# Courses through combat

Hits, heals and attacks take every unit through a course, whomever they are aimed at. Besides the
hits and heals themselves, an attack edits what evasion and counters count in; a course through
combat allows these edits (`AllowsCounters`).
-/

namespace Skirmish

/-- Edits of the counters of a unit are allowed. -/
def AllowsCounters (allowed : Edit → Prop) (id : String) : Prop :=
  ∀ e : Edit, ∀ name ∈ Combat.counters, e.location = .var (.unit id) name → allowed e

namespace Combat

variable {allowed : Edit → Prop} {rules : Rules} {id : String} {w : World}

/-- A blow at a unit is a moment of it. -/
theorem blow_follows {o : Outcome} (h : Blow rules w o) : Follows allowed rules id w o := by
  cases h with
  | heal hw flags h =>
    refine .change rfl fun htarget unit hunit => ?_
    subst htarget
    cases hw.symm.trans hunit
    exact .heal flags h
  | hit hw hamount hflags =>
    refine .change rfl fun htarget unit hunit => ?_
    subst htarget
    cases hw.symm.trans hunit
    exact .hit hamount hflags
  | trigger hw h =>
    refine .change rfl fun htarget unit hunit => ?_
    subst htarget
    cases hw.symm.trans hunit
    exact .trigger h

theorem counting_follows (hallowed : AllowsCounters allowed id) {es : List Edit}
    {trace : List TraceEvent} (h : Counting es trace) (w : World) :
    Follows allowed rules id w ⟨Edit.run es w, trace⟩ := by
  refine .run (fun e he hplace => ?_) (fun e he => ?_) w
  · obtain ⟨owner, name, hname, hlocation⟩ := h.edits e he
    have howner : owner = id :=
      Place.unit.inj ((Edit.place_of_location hlocation).symm.trans hplace)
    exact hallowed e name hname (howner ▸ hlocation)
  · obtain ⟨attacker, defender, rfl⟩ := h.trace e he
    exact (Option.some_ne_none id).symm

theorem damage_follows (w : World) (target : String) (amount : Int64) :
    Follows allowed rules id w (damage rules w target amount).outcome :=
  Follows.chains.damage blow_follows w target amount

theorem heal_follows (w : World) (target : String) (amount : Int64) :
    Follows allowed rules id w (heal rules w target amount).outcome :=
  Follows.chains.heal blow_follows w target amount

/-- An attack takes every unit through a course, whichever way it ends. -/
theorem attack_follows (hallowed : AllowsCounters allowed id) (w : World)
    (attacker defender : String) (a : Attack) :
    Follows allowed rules id w (attack rules w attacker defender a).outcome :=
  Follows.chains.attack blow_follows (counting_follows hallowed) w attacker defender a

end Combat

end Skirmish
