import Skirmish.Proofs.Run.Invariant
import Skirmish.Proofs.Upkeep.Limits

/-!
# Health and magic over many turns

One turn after the other ends, and a unit stays within its limits (`Command.vitals_endTurns`):
its health does not rise above its greatest health, or above what it had if that was more, and
likewise its magic.
-/

namespace Skirmish.Command

variable {id : String} {unit last : Bag} {w : World}

/-- As many ends of turns as there are rules, one after the other. -/
def endTurns (turns : List Rules) : List (Rules × Command) :=
  turns.map fun rules => (rules, endTurn)

theorem perform_endTurn (rules : Rules) (w : World) :
    endTurn.perform rules w = (Upkeep.run rules w).world := rfl

theorem run_endTurns_cons (rules : Rules) (turns : List Rules) (w : World) :
    run (endTurns (rules :: turns)) w = run (endTurns turns) (Upkeep.run rules w).world := by
  rw [endTurns, List.map_cons, run_cons, perform_endTurn, endTurns]

theorem withinAt_endTurns (hunit : unit.Limited) (turns : List Rules)
    (h : Upkeep.WithinAt unit id w) : Upkeep.WithinAt unit id (run (endTurns turns) w) := by
  induction turns generalizing w with
  | nil => exact h
  | cons rules turns ih =>
    rw [run_endTurns_cons]
    exact ih (Upkeep.withinAt_run hunit rules h)

/-- However many turns end, a unit that was alive and has unchanging limits ends with no more health
than its greatest health or what it had, and with no more magic than its greatest magic, what it had
or zero. -/
theorem vitals_endTurns (hunit : w.unit? id = some unit) (halive : 0 < unit.hp)
    (hlimited : unit.Limited) (turns : List Rules)
    (hlast : (run (endTurns turns) w).unit? id = some last) :
    last.hp.toInt ≤ max unit.hp.toInt unit.maxHp.toInt ∧
      (last.int Stat.mp).toInt ≤
        max (max (unit.int Stat.mp).toInt (unit.int Stat.maxMp).toInt) 0 := by
  have hfirst : Upkeep.WithinAt unit id w := by
    intro first hsame
    cases hunit.symm.trans hsame
    exact .refl unit
  have hwithin := withinAt_endTurns hlimited turns hfirst last hlast
  have hhp := hwithin.hp_le
  rw [Int64.lt_iff_toInt_lt, Int64.toInt_zero] at halive
  exact ⟨by omega, hwithin.vital_le ⟨Stat.mp, Stat.maxMp⟩ (by decide)⟩

/-- A unit that regenerates, changes by its changes per turn, and is healed by what it suffers. -/
theorem vitals_endTurns_bob :
    let bob (name : String) (value : Int64) : Edit := .set (.unit "bob") name (.int value)
    let w := Edit.run
      [bob Stat.maxHp 20, bob Stat.hpRegen 5, bob (Stat.perTurn ++ Stat.hp) 7, bob Stat.mp 1,
        bob Stat.maxMp 4, bob Stat.mpRegen 2, bob (Stat.perTurn ++ Stat.mp) 3,
        bob Stat.bleedTurns 2, bob Stat.bleedPerTurn 9,
        .set .global Stat.reverseDamageTurns (.int 2)] arena
    ∃ unit last, w.unit? "bob" = some unit ∧ 0 < unit.hp ∧ unit.Limited ∧
      (run (endTurns [{}, {}, {}]) w).unit? "bob" = some last ∧
      last.hp.toInt ≤ max unit.hp.toInt unit.maxHp.toInt ∧
      (last.int Stat.mp).toInt ≤
        max (max (unit.int Stat.mp).toInt (unit.int Stat.maxMp).toInt) 0 := by
  intro bob w
  obtain ⟨unit, hunit⟩ : ∃ unit, w.unit? "bob" = some unit :=
    Option.isSome_iff_exists.1 (by decide)
  obtain ⟨last, hlast⟩ : ∃ last, (run (endTurns [{}, {}, {}]) w).unit? "bob" = some last :=
    Option.isSome_iff_exists.1 (by decide +kernel)
  have hstats : ∀ unit ∈ w.unit? "bob", 0 < unit.hp ∧
      (∀ v ∈ Stat.vitals, unit.contains v.maxName = true) ∧
      (∀ v ∈ Stat.vitals, unit.contains (Stat.capOf v.name) = false) ∧
      ∀ change ∈ Upkeep.changes unit, Stat.IsPlain change.1 := by
    decide
  obtain ⟨halive, hmax, hcap, hplain⟩ := hstats unit hunit
  have hlimited := Bag.limited_of_changes hmax hcap hplain
  exact ⟨unit, last, hunit, halive, hlimited, hlast,
    vitals_endTurns hunit halive hlimited [{}, {}, {}] hlast⟩

end Skirmish.Command
