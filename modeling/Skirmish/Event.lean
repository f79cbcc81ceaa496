import Skirmish.Trace

/-!
# Events

What a battle announces to its hosts, sorted by topic. Combat events repeat what traces record;
moves and notes have no counterpart.
-/

namespace Skirmish

/-- What an event is about. -/
inductive Topic where
  | turn
  | unit
  | combat
  deriving DecidableEq

namespace Topic

def all : List Topic := [turn, unit, combat]

def name : Topic → String
  | turn => "turn"
  | unit => "unit"
  | combat => "combat"

def title : Topic → String
  | turn => "Turn"
  | unit => "Unit"
  | combat => "Combat"

end Topic

/-- An announcement. -/
inductive Event where
  /-- A list of actions was applied; `batches` is the number of its batches. -/
  | batchApplied (turn : UInt64) (actions batches : Nat)
  | advanced (ended begun : UInt64)
  /-- The counter of a status ran out. -/
  | statusExpired (unit status : String)
  /-- A unit without health was removed. -/
  | died (unit : String) (position : Coord)
  | damaged (target : String) (amount : Int64) (flags : HitFlags)
  | healed (target : String) (amount : Int64) (flags : HitFlags)
  | evaded (attacker defender : String)
  | thresholdTriggered (unit skill : String)
  deriving DecidableEq

namespace Event

def topic : Event → Topic
  | batchApplied .. | advanced .. => .turn
  | statusExpired .. | died .. => .unit
  | damaged .. | healed .. | evaded .. | thresholdTriggered .. => .combat

/-- The combat event that repeats a recorded one. -/
def ofTrace? : TraceEvent → Option Event
  | .damaged target amount flags => some (damaged target amount flags)
  | .healed target amount flags => some (healed target amount flags)
  | .evaded attacker defender => some (evaded attacker defender)
  | .thresholdTriggered unit skill => some (thresholdTriggered unit skill)
  | .moved .. | .note _ => none

/-- The combat events of a trace, in order. -/
def ofTrace (trace : List TraceEvent) : List Event := trace.filterMap ofTrace?

theorem topic_of_ofTrace? {t : TraceEvent} {e : Event} (h : ofTrace? t = some e) :
    e.topic = .combat := by
  cases t <;> simp_all [ofTrace?] <;> subst h <;> rfl

end Event

end Skirmish
