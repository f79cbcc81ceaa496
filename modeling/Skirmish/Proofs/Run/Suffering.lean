import Skirmish.Proofs.Run.Vitals
import Skirmish.Proofs.Upkeep.Suffering

/-!
# Damage over time over many turns

An affliction does its damage once for every turn that it has left, and not after that. So what it
takes in all is known beforehand, and with it whether the unit survives
(`Command.affliction_endTurns`).
-/

namespace Skirmish.Command

variable {a : Upkeep.Affliction} {id : String} {first unit : Bag} {hp : Int} {left : Nat} {w : World}

/-- A turn takes the bite, the later turns take the rest. -/
theorem mul_min_succ (a : Upkeep.Affliction) (first : Bag) (turns left : Nat) :
    (first.int a.amount).toInt * (min (turns + 1) left : Nat) =
      Upkeep.bite a first left + (first.int a.amount).toInt * (min turns (left - 1) : Nat) := by
  cases left with
  | zero =>
    rw [Upkeep.bite, if_neg (Nat.lt_irrefl 0), Nat.min_zero, Nat.zero_sub, Nat.min_zero]
    omega
  | succ left =>
    have hmin : ((min (turns + 1) (left + 1) : Nat) : Int) = 1 + (min turns left : Nat) := by omega
    rw [Upkeep.bite, if_pos (Nat.succ_pos left), hmin, Int.mul_add, Int.mul_one, Nat.add_sub_cancel]

theorem unit?_run_of_none (cs : List (Rules × Command)) (h : w.unit? id = none) :
    (run cs w).unit? id = none := by
  have hname : id ∉ (run cs w).units.names := by
    intro hmem
    have hsome := NameMap.mem_names_iff.1 (ids_run_subset cs w hmem)
    rw [NameMap.contains, ← World.unit?, h] at hsome
    cases hsome
  rw [NameMap.mem_names_iff] at hname
  exact Option.not_isSome_iff_eq_none.1 hname

theorem bears_endTurns (ha : a ∈ Upkeep.afflictions) (hamount : 0 ≤ (first.int a.amount).toInt)
    (turns : List Rules) (hhp : 0 < hp)
    (hplain : Combat.isReversed w Stat.reverseDamageTurns = false)
    (h : w.Has id (Upkeep.Bears a first hp left)) :
    let loss := (first.int a.amount).toInt * (min turns.length left : Nat)
    (loss < hp → (run (endTurns turns) w).Has id
      (Upkeep.Bears a first (hp - loss) (left - turns.length))) ∧
    (hp ≤ loss → (run (endTurns turns) w).unit? id = none) := by
  induction turns generalizing w hp left with
  | nil =>
    have hnothing : (first.int a.amount).toInt * (min 0 left : Nat) = 0 := by
      rw [Nat.zero_min]
      exact Int.mul_zero _
    intro loss
    have hloss : loss = 0 := hnothing
    rw [hloss, Int.sub_zero]
    exact ⟨fun _ => h, fun hdead => by omega⟩
  | cons rules turns ih =>
    intro loss
    obtain ⟨hsurvives, hdies⟩ := Upkeep.bears_run ha hamount hhp rules hplain h
    let later := (first.int a.amount).toInt * (min turns.length (left - 1) : Nat)
    have hloss : loss = Upkeep.bite a first left + later := mul_min_succ a first turns.length left
    have hlater : 0 ≤ later := Int.mul_nonneg hamount (Int.natCast_nonneg _)
    rw [run_endTurns_cons]
    by_cases hbite : Upkeep.bite a first left < hp
    · obtain ⟨hlives, hfalls⟩ := ih (by omega) (Upkeep.isReversed_run rules hplain) (hsurvives hbite)
      have hhealth : hp - Upkeep.bite a first left - later = hp - loss := by omega
      have hturns : left - 1 - turns.length = left - (turns.length + 1) := by omega
      rw [hhealth, hturns] at hlives
      exact ⟨fun hless => hlives (by omega), fun hmore => hfalls (by omega)⟩
    · exact ⟨fun hless => by omega, fun _ => unit?_run_of_none _ (hdies (by omega))⟩

/-- An affliction with some turns left does its amount of damage once for each turn that ends, until
it has none left. A unit that nothing protects from it and that is neither healed nor hurt otherwise
is there as long as it has more health than has been taken. Then this is what it has lost, and the
affliction has as many turns fewer, or it is over and has left no variable and no tag. -/
theorem affliction_endTurns (ha : a ∈ Upkeep.afflictions) (hunit : w.unit? id = some unit) {n : Nat}
    (hturns : 1 ≤ n ∧ (unit.int a.turns).toInt = n) (hamount : 0 ≤ (unit.int a.amount).toInt)
    (hhp : 0 < unit.hp.toInt) (hexposed : Upkeep.Exposed a unit)
    (hplain : Combat.isReversed w Stat.reverseDamageTurns = false) (turns : List Rules) :
    let loss := (unit.int a.amount).toInt * (min turns.length n : Nat)
    ((run (endTurns turns) w).hasUnit id = true ↔ loss < unit.hp.toInt) ∧
    ∀ last, (run (endTurns turns) w).unit? id = some last →
      last.hp.toInt = unit.hp.toInt - loss ∧
      Upkeep.Lasts (Upkeep.ofAffliction a) unit (n - turns.length) last := by
  intro loss
  have hbears : w.Has id (Upkeep.Bears a unit unit.hp.toInt n) :=
    ⟨unit, hunit, hexposed, rfl, .start hturns.1 hturns.2⟩
  obtain ⟨hlives, hfalls⟩ := bears_endTurns ha hamount turns hhp hplain hbears
  by_cases hless : loss < unit.hp.toInt
  · obtain ⟨last, hlast, hbears⟩ := hlives hless
    have hthere : (run (endTurns turns) w).hasUnit id = true := Option.isSome_of_eq_some hlast
    refine ⟨iff_of_true hthere hless, fun last' hlast' => ?_⟩
    cases hlast.symm.trans hlast'
    exact ⟨hbears.hp_eq, hbears.lasts⟩
  · have hnone := hfalls (Int.not_lt.1 hless)
    have hgone : ¬(run (endTurns turns) w).hasUnit id = true := by
      rw [World.hasUnit, NameMap.contains, ← World.unit?, hnone]
      exact Bool.false_ne_true
    refine ⟨iff_of_false hgone hless, fun last hlast => ?_⟩
    rw [hnone] at hlast
    cases hlast

/-- A unit that bleeds for two turns, after three have ended. -/
theorem affliction_endTurns_cid :
    let cid (name : String) (value : Int64) : Edit := .set (.unit "cid") name (.int value)
    let w := Edit.run
      [cid Stat.bleedTurns 2, cid Stat.bleedPerTurn 3, .tag (.unit "cid") Stat.bleeding,
        cid Stat.mp 1, cid Stat.mpRegen 2, cid Stat.stunnedTurns 2] arena
    let bleed : Upkeep.Affliction := ⟨"bleed", Stat.bleedTurns, Stat.bleedPerTurn, Stat.bleeding⟩
    ∃ unit last, bleed ∈ Upkeep.afflictions ∧ w.unit? "cid" = some unit ∧
      (unit.int bleed.turns).toInt = 2 ∧ (unit.int bleed.amount).toInt = 3 ∧
      6 < unit.hp.toInt ∧ Upkeep.Exposed bleed unit ∧
      Combat.isReversed w Stat.reverseDamageTurns = false ∧
      (run (endTurns [{}, {}, {}]) w).unit? "cid" = some last ∧
      last.hp.toInt = unit.hp.toInt - 6 ∧
      Upkeep.Lasts (Upkeep.ofAffliction bleed) unit 0 last := by
  intro cid w bleed
  obtain ⟨unit, hunit⟩ : ∃ unit, w.unit? "cid" = some unit :=
    Option.isSome_iff_exists.1 (by decide)
  have hstats : ∀ unit ∈ w.unit? "cid",
      ((unit.int bleed.turns).toInt = 2 ∧ (unit.int bleed.amount).toInt = 3 ∧
        6 < unit.hp.toInt) ∧
      (∀ name ∈ Upkeep.interferers bleed, (unit.int name).toInt ≤ 0) ∧
      unit.int Stat.hpRegen = 0 ∧
      ∀ v ∈ unit.vars.entries, Upkeep.afterPrefix? Stat.perTurn v.1 = none := by
    decide
  obtain ⟨⟨hturns, hamount, hhp⟩, hidle, hregen, hplain⟩ := hstats unit hunit
  have hexposed : Upkeep.Exposed bleed unit := by
    refine ⟨hidle, hregen, fun name => ?_⟩
    rw [← Option.not_isSome_iff_eq_none, Option.isSome_iff_exists]
    rintro ⟨value, hvalue⟩
    exact Upkeep.perTurn_append_ne (hplain _ (NameMap.mem_entries_of_get? hvalue)) name rfl
  have hbleed : bleed ∈ Upkeep.afflictions := by decide
  have hforward : Combat.isReversed w Stat.reverseDamageTurns = false := by decide
  obtain ⟨hthere, hleft⟩ := affliction_endTurns (n := 2) hbleed hunit ⟨by decide, hturns⟩
    (hamount ▸ by decide) (Int.lt_trans (by decide) hhp) hexposed hforward [{}, {}, {}]
  have hloss : (unit.int bleed.amount).toInt * (min [({} : Rules), {}, {}].length 2 : Nat) = 6 := by
    rw [hamount]
    rfl
  rw [hloss] at hthere hleft
  rw [World.hasUnit, NameMap.contains, ← World.unit?, Option.isSome_iff_exists] at hthere
  obtain ⟨last, hlast⟩ := hthere.2 hhp
  obtain ⟨hhealth, hlasts⟩ := hleft last hlast
  exact ⟨unit, last, hbleed, hunit, hturns, hamount, hhp, hexposed, hforward, hlast, hhealth, hlasts⟩

end Skirmish.Command
