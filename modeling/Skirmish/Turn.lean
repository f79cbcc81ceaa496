import Skirmish.Action.Batch
import Skirmish.Skill.Cast
import Skirmish.Turn.Upkeep

/-!
# Turns

A host applies lists of actions, casts skills and ends turns. Applying a list threads one world
through its actions in order; ending a turn runs the upkeep. All tell what happened as events.
-/

namespace Skirmish.Turn

/-- A world, the trace that led to it, and the events it gave rise to. -/
structure Played where
  outcome : Outcome
  events : List Event

/-- Applies a list of actions. The events are those of the trace, and then a summary. -/
def play (rules : Rules) (actions : List Action) (w : World) : Played :=
  let outcome := Action.applyAll rules actions w
  { outcome
    events := Event.ofTrace outcome.trace ++
      [.batchApplied w.turn actions.length (Action.batches actions).length] }

/-- Casts a skill. The events are those of the trace. -/
def cast (rules : Rules) (s : Skill) (caster : String) (target : CastTarget) (w : World) :
    Except CastError Played := do
  let outcome ← s.cast rules w caster target
  return { outcome, events := Event.ofTrace outcome.trace }

/-- A world after upkeep, the lines of the log and the events. -/
structure Ended where
  world : World
  log : List String
  events : List Event

def finish (rules : Rules) (w : World) : Ended :=
  let p := Upkeep.run rules w
  { world := p.world, log := p.trace.map TraceEvent.line, events := p.events }

/-- A whole turn: the actions, then upkeep. -/
structure Round where
  world : World
  trace : List TraceEvent
  log : List String
  events : List Event

def round (rules : Rules) (actions : List Action) (w : World) : Round :=
  let played := play rules actions w
  let ended := finish rules played.outcome.world
  { world := ended.world, trace := played.outcome.trace, log := ended.log
    events := played.events ++ ended.events }

end Skirmish.Turn
