import Skirmish.Event

/-!
# The event bus

Handlers subscribe to topics and are called in the order of their subscription. A handler may
change a state that the host keeps; publishing an event threads that state through the handlers.

A subscription is ended by its number alone, so the channels are searched for it, in an order that
nobody may rely on.
-/

namespace Skirmish

/-- A handler and the number under which it was subscribed. -/
structure Subscription (σ : Type) where
  id : Nat
  handler : Event → σ → σ

/-- The subscriptions by topic. A topic has a channel from its first subscription on. The numbers
are not bounded: no host gets to the end of a word with them. -/
structure EventBus (σ : Type) where
  nextId : Nat
  channel? : Topic → Option (List (Subscription σ))

/-- An order in which channels are searched: no topic is left out. -/
structure SearchOrder where
  topics : List Topic
  complete : ∀ topic, topic ∈ topics

def SearchOrder.standard : SearchOrder := ⟨Topic.all, fun topic => by cases topic <;> decide⟩

namespace EventBus

variable {σ : Type}

def empty : EventBus σ := ⟨0, fun _ => none⟩

def subscriptions (bus : EventBus σ) (topic : Topic) : List (Subscription σ) :=
  (bus.channel? topic).getD []

def count (bus : EventBus σ) (topic : Topic) : Nat := (bus.subscriptions topic).length

/-- The bus with the subscriptions to a topic replaced. -/
def put (bus : EventBus σ) (topic : Topic) (subscriptions : List (Subscription σ)) : EventBus σ :=
  { bus with channel? := fun t => if t = topic then some subscriptions else bus.channel? t }

/-- Subscribes a handler to a topic and tells its number. -/
def subscribe (bus : EventBus σ) (topic : Topic) (handler : Event → σ → σ) : Nat × EventBus σ :=
  let added := bus.subscriptions topic ++ [⟨bus.nextId, handler⟩]
  (bus.nextId, { bus.put topic added with nextId := bus.nextId + 1 })

/-- Subscribes one handler for each topic of a list and tells their numbers. -/
def subscribeAll (bus : EventBus σ) (handler : Topic → Nat → Event → σ → σ) :
    List Topic → List Nat × EventBus σ
  | [] => ([], bus)
  | topic :: rest =>
    let (id, bus) := bus.subscribe topic (handler topic bus.nextId)
    let (ids, bus) := bus.subscribeAll handler rest
    (id :: ids, bus)

/-- Whether a topic has a subscription of a number. -/
def holds (bus : EventBus σ) (id : Nat) (topic : Topic) : Bool :=
  (bus.subscriptions topic).any fun s => s.id == id

/-- Ends a subscription and tells whether it was there. The search stops at the first channel that
has one of the number, and that channel loses the first of them. -/
def unsubscribe (bus : EventBus σ) (id : Nat) (order : SearchOrder := .standard) :
    Bool × EventBus σ :=
  match order.topics.find? (bus.holds id) with
  | some topic =>
    (true, bus.put topic ((bus.subscriptions topic).eraseP fun s => s.id == id))
  | none => (false, bus)

/-- Hands an event to the handlers of its topic and tells how many there are. -/
def publish (bus : EventBus σ) (event : Event) (state : σ) : Nat × σ :=
  (bus.count event.topic,
    (bus.subscriptions event.topic).foldl (fun state s => s.handler event state) state)

def publishAll (bus : EventBus σ) (events : List Event) (state : σ) : σ :=
  events.foldl (fun state e => (bus.publish e state).2) state

/-- The number of subscriptions to each topic that has a channel. -/
def summary (bus : EventBus σ) : String :=
  let counts := (Topic.all.filter fun t => (bus.channel? t).isSome).map fun t =>
    "(" ++ t.title ++ ", " ++ toString (bus.count t) ++ ")"
  "EventBus \x7b subscribers: [" ++ String.intercalate ", " counts ++ "] \x7d"

/-! ## What a change of one channel does -/

theorem subscriptions_put (bus : EventBus σ) (topic other : Topic) (l : List (Subscription σ)) :
    (bus.put topic l).subscriptions other =
      if other = topic then l else bus.subscriptions other := by
  unfold subscriptions put
  dsimp only
  split <;> rfl

end EventBus

end Skirmish
