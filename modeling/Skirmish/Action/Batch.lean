import Skirmish.Action
import Skirmish.Footprint

/-!
# Footprints of actions, and batches

What each action may read and write, and the division of a list of actions into batches. Two
actions commute if neither writes what the other reads or writes; the members of a batch commute
pairwise.
-/

namespace Skirmish

/-! ## Footprints -/

/-- Whom a key of a combat footprint is about. -/
inductive Subject where
  | unit (id : String)
  /-- Units that are chosen when the action happens. -/
  | any
  deriving DecidableEq

namespace Subject

def var : Subject → String → Key
  | unit id, name => .var (.unit id) name
  | any, name => .anyUnitVar name

def tag : Subject → String → Key
  | unit id, tag => .tag (.unit id) tag
  | any, tag => .anyUnitTag tag

def healthReads (s : Subject) : List Key :=
  [Stat.hp, Stat.maxHp, Stat.shield, Stat.undyingTurns, Stat.noHealTurns, Stat.onDamageHeal,
    Stat.onDamageHealTurns, Stat.hpThreshold, Stat.thresholdSkill].map s.var ++
  [s.tag Stat.thresholdFiredFamily, .var .global Stat.reverseDamageTurns,
    .var .global Stat.reverseHealTurns]

def healthWrites (s : Subject) : List Key :=
  [s.var Stat.hp, s.var Stat.shield, s.tag Stat.thresholdFiredFamily]

def attackReads (attacker defender : Subject) : List Key :=
  [Stat.attack, Stat.magicAttack, Stat.forceIgnoreDefenceTurns, Stat.executePercent,
    Stat.counterMultiplier].map attacker.var ++
  [attacker.tag Stat.duel] ++
  [Stat.defence, Stat.magicDefence, Stat.resistPhysical, Stat.resistMagic, Stat.damageReduction,
    Stat.damageReductionTurns, Stat.evasion, Stat.evasionBonus, Stat.evasionBonusTurns,
    Stat.evadeCharges, Stat.evadeRolls, Stat.untargetableTurns].map defender.var ++
  [defender.tag Stat.duel] ++ defender.healthReads

def attackWrites (attacker defender : Subject) : List Key :=
  [attacker.var Stat.counterMultiplier, defender.var Stat.evadeCharges,
    defender.var Stat.evadeRolls, defender.var Stat.counterMultiplier] ++ defender.healthWrites

end Subject

namespace Action

def readKeys : Action → List Key
  | setVar .. | removeVar .. | addTag .. | removeTag .. => []
  | addToVar account name _ => [.var account.place name]
  | damage target _ | heal target _ => (Subject.unit target).healthReads
  | strike _ attacker target _ _ => Subject.attackReads (.unit attacker) (.unit target)
  | move unit _ => [.var (.unit unit) Stat.position, .var (.unit unit) Stat.rootedTurns]
  | dash unit _ _ => [.anyUnitVar Stat.position, .var (.unit unit) Stat.rootedTurns]
  | line l =>
    Subject.attackReads (.unit l.attacker) .any ++
      [.anyUnitVar Stat.position, .anyUnitVar Stat.team]

def writeKeys : Action → List Key
  | setVar place name _ | removeVar place name => [.var place name]
  | addToVar account name _ => [.var account.place name]
  | addTag place tag | removeTag place tag => [.tag place tag]
  | damage target _ | heal target _ => (Subject.unit target).healthWrites
  | strike _ attacker target _ _ => Subject.attackWrites (.unit attacker) (.unit target)
  | move unit _ | dash unit _ _ => [.var (.unit unit) Stat.position]
  | line l => Subject.attackWrites (.unit l.attacker) .any

def reads (a : Action) : Footprint := .ofList a.readKeys

def writes (a : Action) : Footprint := .ofList a.writeKeys

/-- Whether neither action writes what the other reads or writes. -/
def commutes (a b : Action) : Bool :=
  a.writes.disjoint b.writes && a.writes.disjoint b.reads && b.writes.disjoint a.reads

end Action

/-! ## Batches -/

/-- Cuts a list into consecutive groups: an element joins the group before it if it goes with all
members of that group. -/
def groupsFrom {α : Type} (goesWith : α → α → Bool) (group : List α) : List α → List (List α)
  | [] => if group.isEmpty then [] else [group]
  | a :: rest =>
    if group.all (goesWith a) then groupsFrom goesWith (group ++ [a]) rest
    else group :: groupsFrom goesWith [a] rest

/-- The batches of a list of actions, by index. -/
def Action.batches (actions : List Action) : List (List Nat) :=
  (groupsFrom (fun a b => a.1.commutes b.1) [] actions.zipIdx).map (·.map Prod.snd)

end Skirmish
