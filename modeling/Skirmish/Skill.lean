import Skirmish.Effect
import Skirmish.Script.Step
import Skirmish.Script.Warning

/-!
# Skills

A skill is a script under a name. Its metadata is collected from the declarations of the script, of
which the last one counts; its cost is what the script surely takes at its top level.
-/

namespace Skirmish

/-- What is declared about a skill. -/
structure SkillMeta where
  /-- The greatest distance of the target; none if it does not matter. -/
  range : Option Int64 := none
  minRange : Int64 := 0
  /-- For how many turns the skill cannot be cast again. -/
  cooldown : Int64 := 0
  targeting : Targeting := .any
  metric : Metric := .manhattan
  /-- The first turn at which the skill can be cast. -/
  sealedUntil : Int64 := 0
  endsTurn : Bool := false
  mpCost : Int64 := 0
  deriving DecidableEq

namespace SkillMeta

/-- Takes one declaration in. -/
def declare (m : SkillMeta) : Script.Meta → SkillMeta
  | .range n => { m with range := some n }
  | .minRange n => { m with minRange := n }
  | .cooldown n => { m with cooldown := n }
  | .targeting t => { m with targeting := t }
  | .distance d => { m with metric := d }
  | .sealedUntil n => { m with sealedUntil := n }
  | .endsTurn => { m with endsTurn := true }

/-- The magic that a statement takes whatever happens. -/
def sureCost? : Script.Stmt → Option Int64
  | .consumeMp amount => amount.constant?.map fun v => max v.asInt 0
  | _ => none

/-- The metadata of a script. -/
def ofScript (s : Script) : SkillMeta :=
  { (s.metas.map Script.Located.node).foldl declare {} with
    mpCost := (s.stmts.filterMap fun l => sureCost? l.node).foldl Saturating.add 0 }

def debug (m : SkillMeta) : String :=
  let range :=
    match m.range with
    | some n => s!"Some({n.toInt})"
    | none => "None"
  let targeting :=
    match m.targeting with
    | .self => "SelfOnly"
    | t => t.name.capitalize
  s!"SkillMeta \x7b range: {range}, min_range: {m.minRange.toInt}, " ++
    s!"cooldown: {m.cooldown.toInt}, targeting: {targeting}, " ++
    s!"distance: {m.metric.name.capitalize}, sealed_until: {m.sealedUntil.toInt}, " ++
    s!"ends_turn: {m.endsTurn}, mp_cost: {m.mpCost.toInt} \x7d"

end SkillMeta

/-- A skill that can be cast. -/
structure Skill where
  name : String
  declared : SkillMeta
  body : Script.Step
  warnings : List (Script.Located Script.Warning)

namespace Skill

def ofScript (name : String) (s : Script) : Skill :=
  { name, declared := .ofScript s, body := s.step, warnings := s.warnings }

def compile (name text : String) : Except Script.ParseError Skill :=
  return ofScript name (← Script.parseScript text)

def debug (s : Skill) : String :=
  s!"Skill \x7b name: {Text.quote s.name}, meta: {s.declared.debug}, " ++
    s!"warnings: {s.warnings.length}, .. \x7d"

/-- Starts the cooldown of a skill, if it has one. -/
def startCooldown (s : Skill) (caster : String) (w : World) : World :=
  if 0 < s.declared.cooldown then
    let ready := Saturating.add (Saturating.ofUInt64 w.turn) s.declared.cooldown
    w.updateUnit caster (·.set (Stat.cooldownUntil s.name) (.int ready))
  else w

/-- What a cast does. Whether it is allowed is not asked here. -/
def effect (s : Skill) (caster : String) (target : CastTarget) : Effect := fun rules w =>
  let told : Outcome := ⟨s.startCooldown caster w, [.note s!"{caster} casts {s.name}"]⟩
  told.andThen (s.body rules { caster, target, metric := s.declared.metric })

end Skill

end Skirmish
