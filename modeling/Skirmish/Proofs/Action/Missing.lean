import Skirmish.Proofs.Combat.Evasion
import Skirmish.Proofs.Course.Dash

/-!
# Actions on what is not there

An action names the places it is about: a bag to change, the units of an attack, a unit and where it
is to go. If one of them is missing, that is a unit that the world does not have or a tile off the
grid, the action changes nothing and records nothing (`Action.apply_of_missing`). For an attack this
says that the attacker and the defender are looked up before a charge or a roll of evasion is spent.
-/

namespace Skirmish

/-! ## Places of a world -/

/-- Whether a world has a place: a unit that is in it, or a tile of its grid. -/
def World.hasPlace (w : World) : Place → Bool
  | .unit id => w.hasUnit id
  | .tile p => w.inBounds p
  | .global => true

theorem World.bag?_of_not_hasPlace {w : World} {p : Place} (h : w.hasPlace p = false) :
    w.bag? p = none := by
  cases p with
  | unit id => exact Option.not_isSome_iff_eq_none.1 (Bool.eq_false_iff.1 h)
  | tile p =>
    have hindex : w.tiles.index? p = none := if_neg (Bool.eq_false_iff.1 h)
    rw [bag?, tile?, TileGrid.get?, hindex, Option.bind_none]
  | global => cases h

theorem World.update_of_not_hasPlace {w : World} {p : Place} (h : w.hasPlace p = false)
    (f : Bag → Bag) : w.update f p = w :=
  update_of_none (bag?_of_not_hasPlace h) f

theorem World.unit?_of_not_hasPlace {w : World} {id : String}
    (h : w.hasPlace (.unit id) = false) : w.unit? id = none :=
  bag?_of_not_hasPlace h

/-! ## Combat -/

/-- Without one of its two units an attack does nothing; true damage needs no attacker. -/
theorem Combat.outcome_attack_of_none {w : World} {attacker target : String} {a : Attack}
    (hkind : a.kind ≠ .true) (h : w.unit? attacker = none ∨ w.unit? target = none) (rules : Rules) :
    (attack rules w attacker target a).outcome = ⟨w, []⟩ := by
  cases htarget : w.unit? target with
  | none => exact outcome_attack_of_no_defender htarget rules attacker a
  | some unit =>
    have hattacker : w.unit? attacker = none :=
      h.resolve_right fun hnone => absurd (hnone.symm.trans htarget) (Option.some_ne_none unit).symm
    have haway : w.hasUnit attacker = false :=
      Bool.eq_false_iff.2 (Option.not_isSome_iff_eq_none.2 hattacker)
    rw [outcome_attack htarget, if_neg hkind, if_pos (.inr (by rw [haway]; rfl))]

/-! ## Lines and movement -/

theorem LineDamage.apply_of_none {l : LineDamage} {w : World}
    (h : w.unit? l.attacker = none ∨ w.unit? l.target = none) (rules : Rules) :
    l.apply rules w = ⟨w, []⟩ := by
  have hnobody : l.victims w = [] := by
    rw [victims]
    rcases h with hattacker | htarget
    · rw [hattacker]
    · rw [htarget]
      cases w.unit? l.attacker <;> rfl
  rw [LineDamage.apply, hnobody]
  rfl

theorem moveTo_of_missing {w : World} {id : String} {goal : Coord}
    (h : w.unit? id = none ∨ w.inBounds goal = false) : moveTo w id goal = ⟨w, []⟩ := by
  rw [moveTo]
  split
  · next unit hunit =>
    have hgoal : w.inBounds goal = false :=
      h.resolve_left fun hnone => absurd (hnone.symm.trans hunit) (Option.some_ne_none unit).symm
    rw [if_pos (.inr (by rw [hgoal]; rfl))]
  · rfl

theorem dashTowards_of_none {w : World} {id target : String}
    (h : w.unit? id = none ∨ w.unit? target = none) (maxSteps : Int64) :
    dashTowards w id target maxSteps = ⟨w, []⟩ := by
  refine dashTowards_of_idle fun unit aim hunit haim => ?_
  rcases h with hnone | hnone
  · cases hnone.symm.trans hunit
  · cases hnone.symm.trans haim

/-! ## All actions -/

namespace Action

/-- The places that an action names: bags, attackers and targets, and where to move. -/
def places : Action → List Place
  | setVar place .. | removeVar place _ | addTag place _ | removeTag place _ => [place]
  | addToVar account .. => [account.place]
  | damage target _ | heal target _ => [.unit target]
  | strike _ attacker target .. => [.unit attacker, .unit target]
  | move unit goal => [.unit unit, .tile goal]
  | dash unit target _ => [.unit unit, .unit target]
  | line l => [.unit l.attacker, .unit l.target]

/-- An action that names a unit that is not there or a tile off the grid changes nothing and records
nothing. -/
theorem apply_of_missing {a : Action} {w : World} (h : ∃ p ∈ a.places, w.hasPlace p = false)
    (rules : Rules) : a.apply rules w = ⟨w, []⟩ := by
  obtain ⟨p, hp, hmissing⟩ := h
  have hunits : ∀ {id other : String}, p = .unit id ∨ p = .unit other →
      w.unit? id = none ∨ w.unit? other = none := by
    rintro id other (rfl | rfl)
    · exact .inl (World.unit?_of_not_hasPlace hmissing)
    · exact .inr (World.unit?_of_not_hasPlace hmissing)
  cases a with
  | setVar | addToVar | removeVar | addTag | removeTag =>
    cases List.mem_singleton.1 hp
    rw [apply, World.update_of_not_hasPlace hmissing]
  | damage target amount =>
    cases List.mem_singleton.1 hp
    exact Combat.outcome_damage_of_none (World.unit?_of_not_hasPlace hmissing) rules amount
  | heal target amount =>
    cases List.mem_singleton.1 hp
    exact Combat.outcome_heal_of_none (World.unit?_of_not_hasPlace hmissing) rules amount
  | strike school attacker target power ignoreRatio =>
    have hkind : school.kind ≠ .true := by cases school <;> decide
    exact Combat.outcome_attack_of_none hkind (hunits (List.mem_pair.1 hp)) rules
  | move unit goal =>
    rcases List.mem_pair.1 hp with rfl | rfl
    · exact moveTo_of_missing (.inl (World.unit?_of_not_hasPlace hmissing))
    · exact moveTo_of_missing (.inr hmissing)
  | dash unit target maxSteps => exact dashTowards_of_none (hunits (List.mem_pair.1 hp)) maxSteps
  | line l => exact LineDamage.apply_of_none (hunits (List.mem_pair.1 hp)) rules

/-- Bob, who is sure to evade, is struck by somebody who is not there, and moves off the grid. -/
theorem apply_of_missing_bob :
    let blow := Action.strike .physical "zoe" "bob" 7 0.25
    let flight := Action.move "bob" ⟨1, 3⟩
    (∃ p ∈ blow.places, arena.hasPlace p = false) ∧ blow.apply {} arena = ⟨arena, []⟩ ∧
    (∃ p ∈ flight.places, arena.hasPlace p = false) ∧ flight.apply {} arena = ⟨arena, []⟩ := by
  intro blow flight
  have hzoe : ∃ p ∈ blow.places, arena.hasPlace p = false := ⟨.unit "zoe", by decide, by decide⟩
  have hedge : ∃ p ∈ flight.places, arena.hasPlace p = false :=
    ⟨.tile ⟨1, 3⟩, by decide, by decide⟩
  exact ⟨hzoe, apply_of_missing hzoe {}, hedge, apply_of_missing hedge {}⟩

end Action

end Skirmish
