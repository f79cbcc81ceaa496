import Skirmish.Combat.Hit
import Skirmish.Event

/-!
# Upkeep

What happens between two turns. Unit after unit, by id: timed statuses count down; a unit that is
alive then regains health and magic, changes by its changes per turn, and takes damage over time.
After that the dead are removed, the global toggles count down, and the next turn begins.

What happens is told in one list, in which records of the trace and announcements keep their order.
-/

namespace Skirmish.Upkeep

/-- A record of the trace, or an announcement. -/
inductive Entry where
  | recorded (e : TraceEvent)
  | announced (e : Event)
  deriving DecidableEq

namespace Entry

/-- The record of the trace that an entry is. -/
def trace? : Entry → Option TraceEvent
  | recorded e => some e
  | announced _ => none

/-- The event that an entry leads to. -/
def event? : Entry → Option Event
  | recorded e => Event.ofTrace? e
  | announced e => some e

def note (line : String) : Entry := recorded (.note line)

end Entry

/-- A world and what led to it. -/
structure Passage where
  world : World
  entries : List Entry := []

namespace Passage

/-- Goes on from the world reached so far. -/
def andThen (p : Passage) (next : World → Passage) : Passage :=
  let q := next p.world
  ⟨q.world, p.entries ++ q.entries⟩

/-- Goes through a list, each element on the world that the ones before it left. -/
def fold {α : Type} (step : α → World → Passage) : List α → World → Passage
  | [], w => ⟨w, []⟩
  | a :: rest, w => (step a w).andThen (fold step rest)

/-- The passage that an outcome is. -/
def ofOutcome (o : Outcome) : Passage := ⟨o.world, o.trace.map .recorded⟩

def trace (p : Passage) : List TraceEvent := p.entries.filterMap Entry.trace?

def events (p : Passage) : List Event := p.entries.filterMap Entry.event?

end Passage

/-! ## Timed statuses -/

/-- Counts one status of a unit down; at the end its tag and its companion go too. -/
def tickStatus (id : String) (status : Stat.TimedStatus) (unit : Bag) : Bag × List Entry :=
  let left := unit.int status.counter
  if left ≤ 0 then (unit, [])
  else if 1 < left then (unit.set status.counter (.int (left - 1)), [])
  else
    let ended := (unit.unset status.counter).untag status.tag
    let ended :=
      match status.companion? with
      | some value => ended.unset value
      | none => ended
    (ended, [.note s!"{id}: {status.tag} expired", .announced (.statusExpired id status.tag)])

/-- Counts statuses of a unit down, one after the other. -/
def tickStatuses (id : String) : List Stat.TimedStatus → Bag → Bag × List Entry
  | [], unit => (unit, [])
  | status :: rest, unit =>
    let (unit, entries) := tickStatus id status unit
    let (unit, more) := tickStatuses id rest unit
    (unit, entries ++ more)

/-! ## Regeneration -/

/-- Adds a rate to a variable: not below zero, and not above its greatest value unless it is there
already. -/
def regen (id name maxName rateName : String) (unit : Bag) : Bag × List Entry :=
  let rate := unit.int rateName
  let current := unit.int name
  let raised := max (Saturating.add current rate) 0
  let next := if unit.contains maxName then min raised (max (unit.int maxName) current) else raised
  if rate = 0 ∨ next = current then (unit, [])
  else
    (unit.set name (.int next),
      [.note s!"{id} regenerates {(next - current).toInt} {name}"])

/-- Regenerates magic, then health. -/
def regenerate (id : String) (unit : Bag) : Bag × List Entry :=
  let (unit, entries) := regen id Stat.mp Stat.maxMp Stat.mpRegen unit
  let (unit, more) := regen id Stat.hp Stat.maxHp Stat.hpRegen unit
  (unit, entries ++ more)

/-! ## Changes per turn -/

/-- What follows a beginning of a name. -/
def afterPrefix? (start name : String) : Option String :=
  if start.toList.isPrefixOf name.toList then
    some (String.ofList (name.toList.drop start.toList.length))
  else none

/-- The changes per turn of a unit: the variables that change, and by how much. -/
def changes (unit : Bag) : List (String × Value) :=
  unit.vars.entries.filterMap fun v =>
    match afterPrefix? Stat.perTurn v.1 with
    | some target => if target = "" then none else some (target, v.2)
    | none => none

/-- A vital value kept above zero and, if there is a greatest value, not above it unless it was
there already. -/
def capVital (unit : Bag) (name maxName : String) (next : Int64) : Int64 :=
  let next := max next 0
  match unit.get? maxName with
  | some cap => min next (max (max cap.asInt (unit.int name)) 0)
  | none => next

/-- A changed variable kept within its limits: the cap of its name if there is one, else the limits
that the rules know. -/
def clampChange (rules : Rules) (unit : Bag) (name : String) (value : Value) : Value :=
  match unit.get? (Stat.capOf name) with
  | some cap => if cap.asFloat < value.asFloat then cap else value
  | none =>
    if name = Stat.hp then .int (capVital unit name Stat.maxHp value.asInt)
    else if name = Stat.mp then .int (capVital unit name Stat.maxMp value.asInt)
    else if (afterPrefix? Stat.resist name).isSome then .float (rules.clampResist value.asFloat)
    else value

/-- Applies one change to a unit. -/
def applyChange (rules : Rules) (unit : Bag) (change : String × Value) : Bag :=
  let current := (unit.get? change.1).getD (.int 0)
  unit.set change.1 (clampChange rules unit change.1 (current.add change.2))

/-- Applies the changes per turn of a unit, in the order of their names. -/
def applyChanges (rules : Rules) (unit : Bag) : Bag :=
  (changes unit).foldl (applyChange rules) unit

/-! ## Damage over time -/

/-- A kind of damage over time. -/
structure Affliction where
  name : String
  turns : String
  amount : String
  tag : String
  deriving DecidableEq

def afflictions : List Affliction :=
  [ ⟨"bleed", Stat.bleedTurns, Stat.bleedPerTurn, Stat.bleeding⟩,
    ⟨"burn", Stat.burnTurns, Stat.burnPerTurn, Stat.burning⟩ ]

/-- What is left of an affliction after it has done its damage. -/
def Affliction.countDown (a : Affliction) (left : Int64) (unit : Bag) : Bag :=
  if 1 < left then unit.set a.turns (.int (left - 1))
  else ((unit.unset a.turns).unset a.amount).untag a.tag

/-- One affliction of a unit does its damage and counts down. -/
def suffer (rules : Rules) (id : String) (a : Affliction) (w : World) : Passage :=
  match w.unit? id with
  | none => ⟨w, []⟩
  | some unit =>
    let left := unit.int a.turns
    if left ≤ 0 then ⟨w, []⟩
    else
      let told : Passage := ⟨w, [.note s!"{id} suffers {a.name} ({left.toInt} turns left)"]⟩
      let hurt := told.andThen fun w =>
        .ofOutcome (Combat.damage rules w id (unit.int a.amount)).outcome
      hurt.andThen fun w =>
        ⟨w.updateUnit id (a.countDown left),
          if 1 < left then [] else [.note s!"{id}: {a.tag} expired"]⟩

/-! ## One unit -/

/-- Changes a unit and tells about it. -/
def onUnit (id : String) (step : Bag → Bag × List Entry) (w : World) : Passage :=
  match w.unit? id with
  | none => ⟨w, []⟩
  | some unit =>
    let (unit, entries) := step unit
    ⟨w.putUnit id unit, entries⟩

/-- The steps of a living unit: regeneration, changes per turn, damage over time. -/
def live (rules : Rules) (id : String) (w : World) : Passage :=
  ((onUnit id (regenerate id) w).andThen
    (onUnit id fun unit => (applyChanges rules unit, []))).andThen
      (Passage.fold (suffer rules id) afflictions)

/-- The upkeep of one unit. -/
def unitUpkeep (rules : Rules) (id : String) (w : World) : Passage :=
  (onUnit id (tickStatuses id Stat.timedStatuses) w).andThen fun w =>
    if ((w.unit? id).map Bag.isAlive).getD false then live rules id w else ⟨w, []⟩

/-! ## The world -/

/-- The units without health, with their places. -/
def dead (w : World) : List (String × Coord) :=
  (w.units.entries.filter fun u => !u.2.isAlive).map fun u => (u.1, u.2.position)

/-- Removes a dead unit and announces it. -/
def bury (d : String × Coord) (w : World) : Passage :=
  ⟨w.dropUnit d.1, [.note s!"{d.1} dies", .announced (.died d.1 d.2)]⟩

def buryDead (w : World) : Passage := Passage.fold bury (dead w) w

/-- The global toggles: counter and tag. -/
def toggles : List (String × String) :=
  [ (Stat.reverseHealTurns, Stat.reverseHeal), (Stat.reverseDamageTurns, Stat.reverseDamage) ]

/-- Counts a global toggle down. -/
def tickToggle (toggle : String × String) (w : World) : Passage :=
  let left := w.global.int toggle.1
  if left ≤ 0 then ⟨w, []⟩
  else if 1 < left then ⟨w.updateGlobal (·.set toggle.1 (.int (left - 1))), []⟩
  else
    ⟨w.updateGlobal fun g => (g.unset toggle.1).untag toggle.2, [.note s!"{toggle.2} ends"]⟩

def beginTurn (w : World) : Passage :=
  let next := w.turn + 1
  ⟨{ w with turn := next },
    [.note s!"turn {next.toNat} begins", .announced (.advanced w.turn next)]⟩

def run (rules : Rules) (w : World) : Passage :=
  (((Passage.fold (unitUpkeep rules) w.units.names w).andThen buryDead).andThen
    (Passage.fold tickToggle toggles)).andThen beginTurn

end Skirmish.Upkeep
