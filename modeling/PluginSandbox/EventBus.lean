import PluginSandbox.Delivery

/-!
# The event bus

Host events are handed to the plugins that subscribed to them. Publishing runs no handler; it puts
one notice into the queue of each.
-/

namespace PluginSandbox

structure EventBus where
  subscriptions : Topics := {}
deriving DecidableEq

namespace EventBus

def subscribe (b : EventBus) (event : String) (r : Registration) : EventBus :=
  ⟨b.subscriptions.insert event r⟩

def unsubscribe (b : EventBus) (id : SubscriptionId) : Bool × EventBus :=
  let (was, subscriptions) := b.subscriptions.erase id
  (was, ⟨subscriptions⟩)

def unsubscribePlugin (b : EventBus) (plugin : String) : Nat × EventBus :=
  let (n, subscriptions) := b.subscriptions.erasePlugin plugin
  (n, ⟨subscriptions⟩)

/-- Sends the payload to the subscribers of an event, in the order of their subscriptions. -/
def publish {σ : Type} (b : EventBus) (event : String) (payload : Json) (f : Fleet σ) :
    DispatchReport × Fleet σ :=
  f.deliver payload (b.subscriptions.handlers event)

def subscriberCount (b : EventBus) (event : String) : Nat :=
  (b.subscriptions.handlers event).length

def eventsFor (b : EventBus) (plugin : String) : List String :=
  b.subscriptions.topicsOf plugin

def summary (b : EventBus) : String :=
  "EventBus \x7b events: " ++ toString b.subscriptions.buckets.length ++ ", subscriptions: " ++
    toString b.subscriptions.all.length ++ " \x7d"

end EventBus

end PluginSandbox
