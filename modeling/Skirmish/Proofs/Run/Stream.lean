import Skirmish.Proofs.Upkeep.Announced
import Skirmish.Turn

/-!
# What the hosts hear

The hosts of a battle hear what its trace records of combat, and announcements between. A `Herald`
tells them as things happen: it keeps the trace as it grows, and before each announcement, and at the
end, it repeats what has been recorded since it last did. In this way nothing is lost, nothing is
told twice, and every announcement comes where it was made (`Herald.tell_eq`).

`Turn.stream_faithful` says this of all that the hosts can hear: of the end of a turn, of a whole
turn, and of a cast.
-/

namespace Skirmish

namespace Event

def isCombat (e : Event) : Bool := e.topic = .combat

/-- The combat events among some events. -/
def combat (events : List Event) : List Event := events.filter isCombat

theorem isCombat_of_ofTrace? {t : TraceEvent} {e : Event} (h : ofTrace? t = some e) :
    e.isCombat = true :=
  decide_eq_true (topic_of_ofTrace? h)

theorem ofTrace_append (trace later : List TraceEvent) :
    ofTrace (trace ++ later) = ofTrace trace ++ ofTrace later :=
  List.filterMap_append

end Event

namespace Upkeep

/-! ## A herald -/

/-- Tells the hosts what is recorded in a trace that grows. -/
structure Herald where
  trace : List TraceEvent := []
  /-- What the hosts have heard so far. -/
  heard : List Event := []
  /-- How much of the trace has been repeated. -/
  repeated : Nat := 0

namespace Herald

/-- Repeats what has been recorded since the last time. -/
def catchUp (h : Herald) : Herald :=
  { h with
    heard := h.heard ++ Event.ofTrace (h.trace.drop h.repeated)
    repeated := h.trace.length }

def step (h : Herald) : Entry → Herald
  | .recorded e => { h with trace := h.trace ++ [e] }
  | .announced e => { h.catchUp with heard := h.catchUp.heard ++ [e] }

/-- Tells about a list of things that happen, one after the other. -/
def tell (entries : List Entry) : Herald := (entries.foldl step {}).catchUp

/-- What the hosts would hear if the herald caught up. -/
def due (h : Herald) : List Event := h.heard ++ Event.ofTrace (h.trace.drop h.repeated)

/-- The herald does not run ahead of the trace. -/
def Behind (h : Herald) : Prop := h.repeated ≤ h.trace.length

theorem behind_step {h : Herald} (hbehind : h.Behind) (e : Entry) : (h.step e).Behind := by
  cases e with
  | recorded t =>
    have hlength : (h.step (.recorded t)).trace.length = h.trace.length + 1 := List.length_append
    rw [Behind, hlength]
    exact Nat.le_succ_of_le hbehind
  | announced e => exact Nat.le_refl _

theorem trace_step (h : Herald) (e : Entry) : (h.step e).trace = h.trace ++ e.trace?.toList := by
  cases e with
  | recorded t => rfl
  | announced e => exact (List.append_nil _).symm

/-- Each entry adds the event that it leads to, now or as soon as the herald catches up. -/
theorem due_step {h : Herald} (hbehind : h.Behind) (e : Entry) :
    (h.step e).due = h.due ++ e.event?.toList := by
  cases e with
  | recorded t =>
    have hdrop : (h.trace ++ [t]).drop h.repeated = h.trace.drop h.repeated ++ [t] :=
      List.drop_append_of_le_length hbehind
    have hlast : Event.ofTrace [t] = (Event.ofTrace? t).toList := by
      cases ht : Event.ofTrace? t <;> simp [Event.ofTrace, ht]
    show h.heard ++ Event.ofTrace ((h.trace ++ [t]).drop h.repeated) = _
    rw [hdrop, Event.ofTrace_append, hlast, ← List.append_assoc]
    rfl
  | announced e =>
    have hnothing : h.trace.drop h.trace.length = [] := List.drop_length
    show h.due ++ [e] ++ Event.ofTrace (h.trace.drop h.trace.length) = _
    rw [hnothing]
    exact List.append_nil _

theorem foldl_step {h : Herald} (hbehind : h.Behind) (entries : List Entry) :
    (entries.foldl step h).trace = h.trace ++ entries.filterMap Entry.trace? ∧
      (entries.foldl step h).due = h.due ++ entries.filterMap Entry.event? := by
  induction entries generalizing h with
  | nil => exact ⟨(List.append_nil _).symm, (List.append_nil _).symm⟩
  | cons e entries ih =>
    obtain ⟨htrace, hdue⟩ := ih (behind_step hbehind e)
    constructor
    · rw [List.foldl_cons, htrace, trace_step, List.append_assoc]
      cases e <;> rfl
    · rw [List.foldl_cons, hdue, due_step hbehind, List.append_assoc]
      cases he : e.event? <;> simp [he]

/-- In the end the herald has told everything once and in order. -/
theorem tell_eq (entries : List Entry) :
    (tell entries).trace = entries.filterMap Entry.trace? ∧
      (tell entries).heard = entries.filterMap Entry.event? := by
  have hbehind : Behind {} := Nat.le_refl 0
  exact foldl_step hbehind entries

end Herald

/-! ## Combat events and announcements -/

variable {entries : List Entry}

theorem combat_filterMap_event? (h : ∀ e, .announced e ∈ entries → e.isCombat = false) :
    Event.combat (entries.filterMap Entry.event?) =
      Event.ofTrace (entries.filterMap Entry.trace?) := by
  induction entries with
  | nil => rfl
  | cons entry entries ih =>
    have hrest := ih fun e he => h e (List.mem_cons_of_mem entry he)
    cases entry with
    | recorded t =>
      cases ht : Event.ofTrace? t with
      | none =>
        have hevent : (Entry.recorded t).event? = none := ht
        rw [List.filterMap_cons_none hevent, hrest]
        exact (List.filterMap_cons_none ht).symm
      | some e =>
        have hevent : (Entry.recorded t).event? = some e := ht
        have hfilter := List.filter_cons_of_pos (l := entries.filterMap Entry.event?)
          (Event.isCombat_of_ofTrace? ht)
        rw [List.filterMap_cons_some hevent, Event.combat, hfilter, ← Event.combat, hrest]
        exact (List.filterMap_cons_some ht).symm
    | announced e =>
      have hquiet : ¬e.isCombat = true := Bool.not_eq_true _ ▸ h e List.mem_cons_self
      exact (List.filter_cons_of_neg hquiet).trans hrest

/-- An event that is not about combat has been announced, after all that the hosts heard before it
and before all that they heard later. -/
theorem split_of_event {earlier later : List Event} {e : Event} (he : e.isCombat = false)
    (h : entries.filterMap Entry.event? = earlier ++ e :: later) :
    ∃ before after, entries = before ++ .announced e :: after ∧
      before.filterMap Entry.event? = earlier ∧ after.filterMap Entry.event? = later := by
  obtain ⟨start, rest, hentries, hearlier, hrest⟩ := List.filterMap_eq_append_iff.1 h
  obtain ⟨skipped, entry, after, hsplit, hskipped, hentry, hlater⟩ :=
    List.filterMap_eq_cons_iff.1 hrest
  have hannounced : entry = .announced e := by
    cases entry with
    | recorded t => exact absurd (Event.isCombat_of_ofTrace? hentry) (by simp [he])
    | announced e' => exact congrArg Entry.announced (Option.some.inj hentry)
  refine ⟨start ++ skipped, after, ?_, ?_, hlater⟩
  · rw [hentries, hsplit, hannounced, List.append_assoc]
  · rw [List.filterMap_append, hearlier, List.filterMap_eq_nil_iff.2 hskipped, List.append_nil]

theorem mem_announced_iff {p : Passage} {e : Event} :
    e ∈ p.announced ↔ .announced e ∈ p.entries := by
  rw [Passage.announced, List.mem_filterMap]
  constructor
  · rintro ⟨entry, hentry, hannounced⟩
    cases entry with
    | recorded t => cases hannounced
    | announced e' => exact Option.some.inj hannounced ▸ hentry
  · exact fun hentry => ⟨_, hentry, rfl⟩

theorem topic_of_announced_untilTurn {rules : Rules} {w : World} {e : Event}
    (h : e ∈ (untilTurn rules w).announced) : e.topic = .unit := by
  rw [announced_untilTurn] at h
  simp only [List.mem_append, List.mem_flatMap, List.mem_map, expiries] at h
  rcases h with ⟨u, -, status, -, rfl⟩ | ⟨d, -, rfl⟩ <;> rfl

theorem isCombat_of_announced_run (rules : Rules) (w : World) (e : Event)
    (h : .announced e ∈ (run rules w).entries) : e.isCombat = false := by
  rw [← mem_announced_iff, run_eq_untilTurn, Passage.announced_andThen, List.mem_append] at h
  rcases h with huntil | hturn
  · rw [Event.isCombat, topic_of_announced_untilTurn huntil]
    rfl
  · rw [mem_announced_iff, entries_beginTurn] at hturn
    simp only [Entry.note, List.mem_cons, List.not_mem_nil, reduceCtorEq, false_or, or_false] at hturn
    cases hturn
    rfl

/-! ## The end of a turn -/

/-- A stream of events repeats what is recorded of combat, once and in order, and has every other
event between the combat events of what was recorded before it and after it. -/
structure Faithful (entries : List Entry) (events : List Event) : Prop where
  combat_eq : Event.combat events = Event.ofTrace (entries.filterMap Entry.trace?)
  placed : ∀ earlier e later, events = earlier ++ e :: later → e.isCombat = false →
    ∃ before after, entries = before ++ .announced e :: after ∧
      Event.combat earlier = Event.ofTrace (before.filterMap Entry.trace?) ∧
      Event.combat later = Event.ofTrace (after.filterMap Entry.trace?)

theorem faithful_events (h : ∀ e, .announced e ∈ entries → e.isCombat = false) :
    Faithful entries (entries.filterMap Entry.event?) := by
  refine ⟨combat_filterMap_event? h, fun earlier e later hevents he => ?_⟩
  obtain ⟨before, after, rfl, rfl, rfl⟩ := split_of_event he hevents
  refine ⟨before, after, rfl, ?_, ?_⟩
  · exact combat_filterMap_event? fun e he => h e (List.mem_append_left _ he)
  · exact combat_filterMap_event? fun e he =>
      h e (List.mem_append_right _ (List.mem_cons_of_mem _ he))

theorem events_run (rules : Rules) (w : World) :
    ∃ earlier, (run rules w).events = earlier ++ [.advanced w.turn (w.turn + 1)] ∧
      ∀ e ∈ earlier, e.topic ≠ .turn := by
  refine ⟨(untilTurn rules w).events, ?_, fun e he => ?_⟩
  · rw [run_eq_untilTurn, Passage.events, Passage.andThen, List.filterMap_append,
      entries_beginTurn, (thinned_untilTurn rules w).turn]
    rfl
  · obtain ⟨entry, hentry, hevent⟩ := List.mem_filterMap.1 he
    cases entry with
    | recorded t =>
      rw [Event.topic_of_ofTrace? hevent]
      decide
    | announced e' =>
      cases hevent
      rw [topic_of_announced_untilTurn (mem_announced_iff.2 hentry)]
      decide

end Upkeep

namespace Turn

/-- What the hosts hear of a cast: nothing if it is not allowed. -/
def told : Except CastError Played → List Event
  | .ok played => played.events
  | .error _ => []

/-- The hosts hear of the end of a turn what a herald tells them as it happens, and this is faithful:
the combat events are those of the trace, every other event is where it was announced. The new turn
comes last and once. They hear of a turn what they hear of its actions and then of its end, and of a
cast the combat events of its trace, or nothing. -/
theorem stream_faithful (rules : Rules) (w : World) :
    let passage := Upkeep.run rules w
    let herald := Upkeep.Herald.tell passage.entries
    let ended := finish rules w
    (herald.trace = passage.trace ∧ herald.heard = ended.events ∧
      ended.log = passage.trace.map TraceEvent.line ∧
      Upkeep.Faithful passage.entries ended.events ∧
      ∃ earlier, ended.events = earlier ++ [.advanced w.turn (w.turn + 1)] ∧
        ∀ e ∈ earlier, e.topic ≠ .turn) ∧
    (∀ actions,
      let played := play rules actions w
      let ended := finish rules played.outcome.world
      let round := round rules actions w
      round.events = played.events ++ ended.events ∧ round.world = ended.world ∧
        round.trace = played.outcome.trace ∧ round.log = ended.log) ∧
    ∀ skill caster target,
      told (cast rules skill caster target w) =
        match skill.cast rules w caster target with
        | .ok outcome => Event.ofTrace outcome.trace
        | .error _ => [] := by
  intro passage herald ended
  obtain ⟨htrace, hheard⟩ := Upkeep.Herald.tell_eq passage.entries
  have hfaithful : Upkeep.Faithful passage.entries ended.events :=
    Upkeep.faithful_events (Upkeep.isCombat_of_announced_run rules w)
  refine ⟨⟨htrace, hheard, rfl, hfaithful, Upkeep.events_run rules w⟩,
    fun actions => ⟨rfl, rfl, rfl, rfl⟩, fun skill caster target => ?_⟩
  rw [cast]
  cases skill.cast rules w caster target <;> rfl

end Turn

end Skirmish
