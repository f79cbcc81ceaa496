import Skirmish.World

/-!
# Traces

What happens in a battle is recorded, event after event, beside the world that results. An
`Outcome` is a world together with the events that led to it; outcomes are chained by
`Outcome.andThen`, which never looks at the events recorded so far.
-/

namespace Skirmish

/-- What was special about one hit or heal. -/
structure HitFlags where
  evaded : Bool := false
  reversed : Bool := false
  absorbed : Bool := false
  undying : Bool := false
  lethal : Bool := false
  blocked : Bool := false
  threshold : Bool := false
  counter : Bool := false
  duel : Bool := false
  ignoredDefence : Bool := false
  deriving DecidableEq, Inhabited

namespace HitFlags

/-- The flags with their names, in the order of their bits. -/
def marks (f : HitFlags) : List (String × Bool) :=
  [ ("EVADED", f.evaded), ("REVERSED", f.reversed), ("ABSORBED", f.absorbed),
    ("UNDYING", f.undying), ("LETHAL", f.lethal), ("BLOCKED", f.blocked),
    ("THRESHOLD", f.threshold), ("COUNTER", f.counter), ("DUEL", f.duel),
    ("IGNORED_DEF", f.ignoredDefence) ]

def names (f : HitFlags) : List String :=
  (f.marks.filter Prod.snd).map Prod.fst

def text (f : HitFlags) : String :=
  String.intercalate " | " f.names

/-- The flags as the bits of a number. -/
def bits (f : HitFlags) : Nat :=
  f.marks.foldr (fun m n => 2 * n + m.2.toNat) 0

/-- The flags whose bits are set in a number. -/
def ofBits (n : Nat) : HitFlags :=
  { evaded := n.testBit 0, reversed := n.testBit 1, absorbed := n.testBit 2
    undying := n.testBit 3, lethal := n.testBit 4, blocked := n.testBit 5
    threshold := n.testBit 6, counter := n.testBit 7, duel := n.testBit 8
    ignoredDefence := n.testBit 9 }

end HitFlags

/-- Something that happened in a battle. -/
inductive TraceEvent where
  | damaged (target : String) (amount : Int64) (flags : HitFlags)
  | healed (target : String) (amount : Int64) (flags : HitFlags)
  | evaded (attacker defender : String)
  | moved (unit : String) (start goal : Coord)
  | thresholdTriggered (unit skill : String)
  | note (line : String)
  deriving DecidableEq

/-- The flags of a hit behind its line, if any are set. -/
def HitFlags.suffix (f : HitFlags) : String :=
  if f.names.isEmpty then "" else " [" ++ f.text ++ "]"

/-- The line that tells an event. -/
def TraceEvent.line : TraceEvent → String
  | damaged target amount flags => s!"{target} takes {amount.toInt} damage" ++ flags.suffix
  | healed target amount flags => s!"{target} heals {amount.toInt}" ++ flags.suffix
  | evaded attacker defender => s!"{defender} evades {attacker}"
  | moved unit start goal => s!"{unit} moves {start.text} -> {goal.text}"
  | thresholdTriggered unit skill => s!"{unit} crosses hp threshold, triggers {skill}"
  | note line => line

/-- A world and the events that led to it. -/
structure Outcome where
  world : World
  trace : List TraceEvent := []

namespace Outcome

/-- Records events after those recorded so far. -/
def record (o : Outcome) (events : List TraceEvent) : Outcome :=
  { o with trace := o.trace ++ events }

/-- Goes on from the world reached so far. -/
def andThen (o : Outcome) (next : World → Outcome) : Outcome :=
  let p := next o.world
  ⟨p.world, o.trace ++ p.trace⟩

/-- Goes through a list, each element on the world that the ones before it left. -/
def fold {α : Type} (step : α → World → Outcome) : List α → World → Outcome
  | [], w => ⟨w, []⟩
  | a :: rest, w => (step a w).andThen (fold step rest)

theorem fold_append {α : Type} (step : α → World → Outcome) (l m : List α) (w : World) :
    fold step (l ++ m) w = (fold step l w).andThen (fold step m) := by
  induction l generalizing w with
  | nil => rfl
  | cons a l ih =>
    simp only [List.cons_append, fold, andThen, ih, List.append_assoc]

end Outcome

end Skirmish
