import Mathlib.Data.List.Nodup
import Skirmish.Event.Bus

/-!
# The bus as one list

To a host an event bus is one list, the roster of the live subscriptions in the order in which they
were made. The bus keeps the roster cut up by topic (`Represents`). It finds a subscription by its
number in whatever order it searches, since no two live subscriptions have one number. So it answers
every sequence of requests as the roster does (`EventBus.run_eq_roster`).
-/

namespace Skirmish

/-- A subscription with its topic. -/
structure Listener (σ : Type) extends Subscription σ where
  topic : Topic

/-- The live subscriptions in the order in which they were made. -/
structure Roster (σ : Type) where
  /-- How many numbers have been given out. -/
  issued : Nat
  live : List (Listener σ)
  ordered : live.Pairwise fun l m => l.id < m.id
  id_lt : ∀ l ∈ live, l.id < issued

/-- What a host may ask of a bus. -/
inductive Request (σ : Type) where
  | subscribe (topic : Topic) (handler : Event → σ → σ)
  | subscribeAll (handler : Topic → Nat → Event → σ → σ) (topics : List Topic)
  | unsubscribe (id : Nat) (order : SearchOrder)
  | publish (event : Event)
  /-- Publishes events without asking who received them. -/
  | emit (events : List Event)
  | count (topic : Topic)

/-- What it is told. -/
inductive Reply where
  | issued (ids : List Nat)
  | removed (was : Bool)
  | received (handlers : Nat)
  | emitted
  | counted (subscriptions : Nat)
  deriving DecidableEq

/-- The numbers that a reply gives out. -/
def Reply.ids : Reply → List Nat
  | issued ids => ids
  | removed _ | received _ | emitted | counted _ => []

/-- What a host has heard from a keeper of subscriptions, with what became of the keeper and of the
state of the host. -/
structure Session (κ σ : Type) where
  replies : List Reply
  keeper : κ
  state : σ

variable {κ σ : Type}

/-- Requests that a keeper serves one after the other. -/
def Session.run (serve : κ → σ → Request σ → Reply × κ × σ) (keeper : κ) (state : σ) :
    List (Request σ) → Session κ σ
  | [] => ⟨[], keeper, state⟩
  | request :: rest =>
    let served := serve keeper state request
    let later := run serve served.2.1 served.2.2 rest
    { later with replies := served.1 :: later.replies }

/-! ## The roster -/

namespace Roster

def empty : Roster σ := ⟨0, [], .nil, fun _ hl => absurd hl List.not_mem_nil⟩

def subscribe (r : Roster σ) (topic : Topic) (handler : Event → σ → σ) : Nat × Roster σ :=
  (r.issued,
    { issued := r.issued + 1
      live := r.live ++ [{ id := r.issued, handler, topic }]
      ordered := by
        refine List.pairwise_append.2 ⟨r.ordered, List.pairwise_singleton .., fun l hl m hm => ?_⟩
        rw [List.mem_singleton.1 hm]
        exact r.id_lt l hl
      id_lt := by
        intro l hl
        rcases List.mem_append.1 hl with hl | hl
        · exact Nat.lt_succ_of_lt (r.id_lt l hl)
        · rw [List.mem_singleton.1 hl]
          exact Nat.lt_succ_self _ })

/-- One subscription for each topic of a list, in its order, each with a handler of its own. -/
def subscribeAll (r : Roster σ) (handler : Topic → Nat → Event → σ → σ) :
    List Topic → List Nat × Roster σ
  | [] => ([], r)
  | topic :: rest =>
    let (id, r) := r.subscribe topic (handler topic r.issued)
    let (ids, r) := r.subscribeAll handler rest
    (id :: ids, r)

/-- Whether a number was given out to a subscription that is still live. -/
def has (r : Roster σ) (id : Nat) : Bool := r.live.any fun l => l.id == id

/-- The roster without one subscription; the others keep their order. -/
def dismiss (r : Roster σ) (id : Nat) : Roster σ :=
  { r with
    live := r.live.filter fun l => l.id != id
    ordered := r.ordered.filter _
    id_lt := fun l hl => r.id_lt l (List.mem_of_mem_filter hl) }

/-- Who listens to a topic, in the order of subscription. -/
def listeners (r : Roster σ) (topic : Topic) : List (Listener σ) :=
  r.live.filter fun l => l.topic == topic

/-- Hands an event to all who listen to its topic, one after the other. -/
def announce (r : Roster σ) (event : Event) (state : σ) : σ :=
  (r.listeners event.topic).foldl (fun state l => l.handler event state) state

/-- Answers a request. -/
def serve (r : Roster σ) (state : σ) : Request σ → Reply × Roster σ × σ
  | .subscribe topic handler => let (id, r) := r.subscribe topic handler; (.issued [id], r, state)
  | .subscribeAll handler topics =>
    let (ids, r) := r.subscribeAll handler topics; (.issued ids, r, state)
  | .unsubscribe id _ => (.removed (r.has id), r.dismiss id, state)
  | .publish event =>
    (.received (r.listeners event.topic).length, r, r.announce event state)
  | .emit events => (.emitted, r, events.foldl (fun state e => r.announce e state) state)
  | .count topic => (.counted (r.listeners topic).length, r, state)

theorem nodup_ids (r : Roster σ) : (r.live.map fun l => l.id).Nodup :=
  List.pairwise_map.2 (r.ordered.imp Nat.ne_of_lt)

/-- A number stands for one live subscription. -/
theorem eq_of_id {r : Roster σ} {l m : Listener σ} (hl : l ∈ r.live) (hm : m ∈ r.live)
    (h : l.id = m.id) : l = m :=
  List.inj_on_of_nodup_map r.nodup_ids hl hm h

theorem mem_listeners {r : Roster σ} {topic : Topic} {l : Listener σ} :
    l ∈ r.listeners topic ↔ l ∈ r.live ∧ l.topic = topic := by
  rw [listeners, List.mem_filter, beq_iff_eq]

theorem listeners_subscribe (r : Roster σ) (topic other : Topic) (handler : Event → σ → σ) :
    (r.subscribe topic handler).2.listeners other =
      r.listeners other ++
        if other = topic then [{ id := r.issued, handler, topic }] else [] := by
  rw [listeners, subscribe, List.filter_append]
  refine congrArg _ ?_
  by_cases h : other = topic
  · simp [h]
  · simp [h, Ne.symm h]

/-- Who has a number leaves the one list it is in. -/
theorem listeners_dismiss (r : Roster σ) (id : Nat) (topic : Topic) :
    (r.dismiss id).listeners topic = (r.listeners topic).eraseP fun l => l.id == id := by
  have hnodup : ((r.listeners topic).map fun l => l.id).Nodup :=
    r.nodup_ids.sublist (List.Sublist.map _ List.filter_sublist)
  have hcomm : (r.dismiss id).listeners topic = (r.listeners topic).filter fun l => l.id != id := by
    simp only [listeners, dismiss, List.filter_filter, Bool.and_comm]
  rw [hcomm]
  generalize r.listeners topic = l at hnodup
  induction l with
  | nil => rfl
  | cons m l ih =>
    obtain ⟨hm, hl⟩ := List.nodup_cons.1 hnodup
    by_cases hid : m.id = id
    · -- No other one has the number, so the rest stays.
      have hrest : l.filter (fun l => l.id != id) = l := by
        refine List.filter_eq_self.2 fun other hother => ?_
        have hne : other.id ≠ id := fun h =>
          hm (List.mem_map.2 ⟨other, hother, h.trans hid.symm⟩)
        simpa using hne
      simp [hid, hrest]
    · simp [hid, ih hl]

/-! ## Numbers given out -/

theorem ids_subscribeAll (r : Roster σ) (handler : Topic → Nat → Event → σ → σ)
    (topics : List Topic) :
    (r.subscribeAll handler topics).1 = List.range' r.issued topics.length ∧
      (r.subscribeAll handler topics).2.issued = r.issued + topics.length := by
  induction topics generalizing r with
  | nil => exact ⟨rfl, rfl⟩
  | cons topic topics ih =>
    obtain ⟨hids, hissued⟩ := ih (r.subscribe topic (handler topic r.issued)).2
    refine ⟨?_, ?_⟩
    · exact congrArg (r.issued :: ·) hids
    · refine hissued.trans ?_
      simp only [subscribe, List.length_cons]
      omega

/-- A reply gives out the next numbers. -/
theorem ids_serve (r : Roster σ) (state : σ) (request : Request σ) :
    ∃ n, (r.serve state request).1.ids = List.range' r.issued n ∧
      (r.serve state request).2.1.issued = r.issued + n := by
  cases request with
  | subscribe topic handler => exact ⟨1, rfl, rfl⟩
  | subscribeAll handler topics => exact ⟨topics.length, r.ids_subscribeAll handler topics⟩
  | _ => exact ⟨0, rfl, rfl⟩

/-- All numbers ever given out are different: they are given out in order. -/
theorem ids_run (r : Roster σ) (state : σ) (requests : List (Request σ)) :
    ∃ n, (Session.run serve r state requests).replies.flatMap Reply.ids =
      List.range' r.issued n := by
  induction requests generalizing r state with
  | nil => exact ⟨0, rfl⟩
  | cons request rest ih =>
    obtain ⟨n, hids, hissued⟩ := r.ids_serve state request
    obtain ⟨m, hlater⟩ := ih (r.serve state request).2.1 (r.serve state request).2.2
    refine ⟨n + m, ?_⟩
    rw [Session.run, List.flatMap_cons, hids, hlater, hissued, List.range'_append_1]

end Roster

/-! ## The bus -/

namespace EventBus

/-- Answers a request. -/
def serve (bus : EventBus σ) (state : σ) : Request σ → Reply × EventBus σ × σ
  | .subscribe topic handler =>
    let (id, bus) := bus.subscribe topic handler; (.issued [id], bus, state)
  | .subscribeAll handler topics =>
    let (ids, bus) := bus.subscribeAll handler topics; (.issued ids, bus, state)
  | .unsubscribe id order =>
    let (was, bus) := bus.unsubscribe id order; (.removed was, bus, state)
  | .publish event => let (n, state) := bus.publish event state; (.received n, bus, state)
  | .emit events => (.emitted, bus, bus.publishAll events state)
  | .count topic => (.counted (bus.count topic), bus, state)

/-- A bus keeps the subscriptions of a roster, cut up by topic. -/
structure Represents (bus : EventBus σ) (r : Roster σ) : Prop where
  nextId : bus.nextId = r.issued
  subscriptions : ∀ topic,
    bus.subscriptions topic = (r.listeners topic).map Listener.toSubscription

theorem holds_iff {bus : EventBus σ} {id : Nat} {topic : Topic} :
    bus.holds id topic = true ↔ ∃ s ∈ bus.subscriptions topic, s.id = id := by
  simp [holds]

/-- The search finds a number that some topic has, whatever the order. -/
theorem fst_unsubscribe (bus : EventBus σ) (id : Nat) (order : SearchOrder) :
    (bus.unsubscribe id order).1 = true ↔ ∃ topic, bus.holds id topic = true := by
  rw [unsubscribe]
  split
  · next topic hfind => exact iff_of_true rfl ⟨topic, List.find?_some hfind⟩
  · next hnone =>
    refine iff_of_false Bool.false_ne_true ?_
    rintro ⟨topic, hholds⟩
    exact List.find?_eq_none.1 hnone topic (order.complete topic) hholds

/-- If one topic at most has the number, every topic loses it. -/
theorem subscriptions_unsubscribe {bus : EventBus σ} {id : Nat}
    (hunique : ∀ t u, bus.holds id t = true → bus.holds id u = true → t = u) (order : SearchOrder)
    (topic : Topic) :
    (bus.unsubscribe id order).2.subscriptions topic =
      (bus.subscriptions topic).eraseP fun s => s.id == id := by
  have hnone : bus.holds id topic ≠ true →
      (bus.subscriptions topic).eraseP (fun s => s.id == id) = bus.subscriptions topic := by
    intro h
    refine List.eraseP_of_forall_not fun s hs hid => h (holds_iff.2 ⟨s, hs, ?_⟩)
    exact beq_iff_eq.1 hid
  rw [unsubscribe]
  split
  · next found hfind =>
    rw [subscriptions_put]
    split
    · next heq => rw [heq]
    · next hne =>
      exact (hnone fun h => hne (hunique topic found h (List.find?_some hfind))).symm
  · next hfind =>
    exact (hnone (List.find?_eq_none.1 hfind topic (order.complete topic))).symm

namespace Represents

variable {bus : EventBus σ} {r : Roster σ}

protected theorem empty : (empty : EventBus σ).Represents Roster.empty := ⟨rfl, fun _ => rfl⟩

theorem count_eq (h : bus.Represents r) (topic : Topic) :
    bus.count topic = (r.listeners topic).length := by
  rw [count, h.subscriptions, List.length_map]

theorem publish_eq (h : bus.Represents r) (event : Event) (state : σ) :
    bus.publish event state = ((r.listeners event.topic).length, r.announce event state) := by
  rw [publish, h.count_eq, h.subscriptions, List.foldl_map]
  rfl

theorem publishAll_eq (h : bus.Represents r) (events : List Event) (state : σ) :
    bus.publishAll events state = events.foldl (fun state e => r.announce e state) state := by
  simp only [publishAll, h.publish_eq]

theorem subscribe (h : bus.Represents r) (topic : Topic) (handler : Event → σ → σ) :
    (bus.subscribe topic handler).1 = (r.subscribe topic handler).1 ∧
      (bus.subscribe topic handler).2.Represents (r.subscribe topic handler).2 := by
  refine ⟨h.nextId, congrArg (· + 1) h.nextId, fun other => ?_⟩
  refine (bus.subscriptions_put topic other _).trans ?_
  rw [r.listeners_subscribe, List.map_append, ← h.subscriptions, h.nextId]
  split
  · next heq =>
    rw [heq]
    rfl
  · exact (List.append_nil _).symm

theorem subscribeAll (h : bus.Represents r) (handler : Topic → Nat → Event → σ → σ)
    (topics : List Topic) :
    (bus.subscribeAll handler topics).1 = (r.subscribeAll handler topics).1 ∧
      (bus.subscribeAll handler topics).2.Represents (r.subscribeAll handler topics).2 := by
  induction topics generalizing bus r with
  | nil => exact ⟨rfl, h⟩
  | cons topic topics ih =>
    rw [EventBus.subscribeAll, Roster.subscribeAll, h.nextId]
    obtain ⟨hid, hnext⟩ := h.subscribe topic (handler topic r.issued)
    obtain ⟨hids, hlast⟩ := ih hnext
    exact ⟨congrArg₂ List.cons hid hids, hlast⟩

theorem holds_iff (h : bus.Represents r) {id : Nat} {topic : Topic} :
    bus.holds id topic = true ↔ ∃ l ∈ r.live, l.topic = topic ∧ l.id = id := by
  rw [EventBus.holds_iff, h.subscriptions]
  constructor
  · rintro ⟨s, hs, hid⟩
    obtain ⟨l, hl, rfl⟩ := List.mem_map.1 hs
    obtain ⟨hlive, htopic⟩ := Roster.mem_listeners.1 hl
    exact ⟨l, hlive, htopic, hid⟩
  · rintro ⟨l, hlive, htopic, hid⟩
    exact ⟨_, List.mem_map_of_mem (Roster.mem_listeners.2 ⟨hlive, htopic⟩), hid⟩

theorem unsubscribe (h : bus.Represents r) (id : Nat) (order : SearchOrder) :
    (bus.unsubscribe id order).1 = r.has id ∧
      (bus.unsubscribe id order).2.Represents (r.dismiss id) := by
  have hunique : ∀ t u, bus.holds id t = true → bus.holds id u = true → t = u := by
    intro t u ht hu
    obtain ⟨l, hl, rfl, hlid⟩ := h.holds_iff.1 ht
    obtain ⟨m, hm, rfl, hmid⟩ := h.holds_iff.1 hu
    rw [Roster.eq_of_id hl hm (hlid.trans hmid.symm)]
  refine ⟨?_, ?_, fun topic => ?_⟩
  · rw [Bool.eq_iff_iff, fst_unsubscribe, Roster.has, List.any_eq_true]
    simp only [h.holds_iff, beq_iff_eq]
    constructor
    · rintro ⟨topic, l, hl, -, hid⟩
      exact ⟨l, hl, hid⟩
    · rintro ⟨l, hl, hid⟩
      exact ⟨l.topic, l, hl, rfl, hid⟩
  · rw [EventBus.unsubscribe]
    split <;> exact h.nextId
  · rw [subscriptions_unsubscribe hunique order, h.subscriptions, List.eraseP_map,
      r.listeners_dismiss]
    rfl

/-- A bus answers a request as the roster that it represents does. -/
theorem serve (h : bus.Represents r) (state : σ) (request : Request σ) :
    (bus.serve state request).1 = (r.serve state request).1 ∧
      (bus.serve state request).2.1.Represents (r.serve state request).2.1 ∧
      (bus.serve state request).2.2 = (r.serve state request).2.2 := by
  cases request with
  | subscribe topic handler =>
    obtain ⟨hid, hnext⟩ := h.subscribe topic handler
    exact ⟨congrArg (fun id => Reply.issued [id]) hid, hnext, rfl⟩
  | subscribeAll handler topics =>
    obtain ⟨hids, hnext⟩ := h.subscribeAll handler topics
    exact ⟨congrArg Reply.issued hids, hnext, rfl⟩
  | unsubscribe id order =>
    obtain ⟨hwas, hnext⟩ := h.unsubscribe id order
    exact ⟨congrArg Reply.removed hwas, hnext, rfl⟩
  | publish event =>
    rw [EventBus.serve, h.publish_eq]
    exact ⟨rfl, h, rfl⟩
  | emit events => exact ⟨rfl, h, h.publishAll_eq events state⟩
  | count topic => exact ⟨congrArg Reply.counted (h.count_eq topic), h, rfl⟩

theorem run (h : bus.Represents r) (state : σ) (requests : List (Request σ)) :
    (Session.run EventBus.serve bus state requests).replies =
      (Session.run Roster.serve r state requests).replies ∧
    (Session.run EventBus.serve bus state requests).keeper.Represents
      (Session.run Roster.serve r state requests).keeper ∧
    (Session.run EventBus.serve bus state requests).state =
      (Session.run Roster.serve r state requests).state := by
  induction requests generalizing bus r state with
  | nil => exact ⟨rfl, h, rfl⟩
  | cons request rest ih =>
    obtain ⟨hreply, hnext, hstate⟩ := h.serve state request
    obtain ⟨hreplies, hlast, hend⟩ := ih hnext (r.serve state request).2.2
    simp only [Session.run, hstate]
    exact ⟨congrArg₂ List.cons hreply hreplies, hlast, hend⟩

end Represents

/-- Whatever a host asks of a new bus, and in whatever orders the bus searches for subscriptions, it
hears what the roster would tell it, and its state becomes what the roster would make of it. No
number is given out twice, and at the end the bus has just the live subscriptions to each topic, in
order. -/
theorem run_eq_roster (requests : List (Request σ)) (state : σ) :
    let bus := Session.run serve empty state requests
    let roster := Session.run Roster.serve .empty state requests
    bus.replies = roster.replies ∧ bus.state = roster.state ∧
    (bus.replies.flatMap Reply.ids).Nodup ∧
    ∀ topic,
      bus.keeper.subscriptions topic =
        (roster.keeper.listeners topic).map Listener.toSubscription ∧
      bus.keeper.count topic = (roster.keeper.listeners topic).length := by
  intro bus roster
  obtain ⟨hreplies, hlast, hstate⟩ := Represents.empty.run state requests
  obtain ⟨n, hids⟩ := Roster.empty.ids_run state requests
  refine ⟨hreplies, hstate, ?_, fun topic => ⟨hlast.subscriptions topic, hlast.count_eq topic⟩⟩
  rw [hreplies, hids]
  exact List.nodup_range'

end EventBus

end Skirmish
