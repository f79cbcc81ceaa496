import Skirmish.Action
import Skirmish.Proofs.Combat.Evasion

/-!
# Strikes

A strike is an attack that can be evaded and mitigated. Strikes that follow one another resolve each
in the world that the ones before it left: `run` is what they lead to, `reports` what each of them
did. How a single one ends is fixed by the check of its target (`Strike.resolve_eq`).
-/

namespace Skirmish

/-- A physical or magical attack on a unit. -/
structure Strike where
  school : School
  attacker : String
  target : String
  power : Int64
  ignoreRatio : Float := 0.0
  deriving DecidableEq

namespace Strike

def action (s : Strike) : Action := .strike s.school s.attacker s.target s.power s.ignoreRatio

def attack (s : Strike) : Combat.Attack :=
  { kind := s.school.kind, power := s.power, ignoreRatio := s.ignoreRatio }

/-- What a strike does in a world. -/
def resolve (s : Strike) (rules : Rules) (w : World) : Combat.Resolved :=
  Combat.attack rules w s.attacker s.target s.attack

/-- Strikes one after the other. -/
def run (rules : Rules) (strikes : List Strike) (w : World) : Outcome :=
  Action.applyAll rules (strikes.map action) w

/-- What is reported of strikes one after the other. -/
def reports (rules : Rules) : List Strike → World → List Combat.Report
  | [], _ => []
  | s :: rest, w => (s.resolve rules w).report :: reports rules rest (s.resolve rules w).outcome.world

theorem run_nil (rules : Rules) (w : World) : run rules [] w = ⟨w, []⟩ := rfl

theorem run_cons (rules : Rules) (s : Strike) (rest : List Strike) (w : World) :
    run rules (s :: rest) w = (s.resolve rules w).outcome.andThen (run rules rest) := rfl

theorem kind_attack_ne_true (s : Strike) : s.attack.kind ≠ .true := by
  rw [attack]
  cases s.school <;> exact DamageKind.noConfusion

/-- All ways in which a strike of a unit on a unit can end. -/
theorem resolve_eq {s : Strike} {w : World} {unit : Bag} (hunit : w.unit? s.target = some unit)
    (hpresent : w.hasUnit s.attacker = true) (rules : Rules) :
    let evasion := Combat.evasionOf rules unit (Combat.evasionSeed w s.target unit)
    let checked : Outcome := ⟨Edit.run (Combat.evasionEdits rules s.target unit evasion) w,
      Combat.evasionTrace s.attacker s.target evasion⟩
    let landed := fun w => Combat.land rules w s.attacker s.target s.attack
    s.resolve rules w =
      if unit.isUntargetable then .unchanged w s.target { blocked := true }
      else if evasion.evaded then ⟨{ target := s.target, flags := { evaded := true } }, checked⟩
      else ⟨(landed checked.world).report, checked.andThen fun w => (landed w).outcome⟩ := by
  intro evasion checked landed
  have hcheck : Combat.checkEvasion rules w s.attacker s.target = (checked, evasion) :=
    Combat.checkEvasion_eq hunit s.attacker
  have hmissing : ¬(!w.hasUnit s.attacker) = true := by
    rw [hpresent]
    exact Bool.false_ne_true
  simp only [resolve, Combat.attack, hunit, if_neg s.kind_attack_ne_true, if_neg hmissing, hcheck]
  rfl

end Strike

end Skirmish
