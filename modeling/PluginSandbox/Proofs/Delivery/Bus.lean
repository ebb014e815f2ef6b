import Mathlib.Data.List.Induction
import PluginSandbox.EventBus
import PluginSandbox.Proofs.Delivery.Attempts
import PluginSandbox.Proofs.Delivery.FlatList

/-!
# The event bus as one list

A bus behaves as the list of its live subscriptions in the order in which they
were made. Subscribing adds one at the end, unsubscribing takes out the one of
that id or all of a plugin, and publishing goes through those of the event from
front to back, past the ones whose queue takes nothing.
-/

namespace PluginSandbox.EventBus

variable {σ : Type}

/-- What can happen to a bus; `between` is all that happens to the fleet by other means. -/
inductive Op (σ : Type) where
  | subscribe (event : String) (r : Registration)
  | unsubscribe (id : SubscriptionId)
  | unsubscribePlugin (plugin : String)
  | publish (event : String) (payload : Json)
  | between (fleet : Fleet σ)

def Op.subscription? : Op σ → Option Subscription
  | subscribe event r => some ⟨event, r⟩
  | _ => none

/-! ## On the bus -/

structure Session (σ : Type) where
  bus : EventBus := {}
  fleet : Fleet σ

namespace Session

def step (s : Session σ) : Op σ → Session σ
  | .subscribe event r => { s with bus := s.bus.subscribe event r }
  | .unsubscribe id => { s with bus := (s.bus.unsubscribe id).2 }
  | .unsubscribePlugin plugin => { s with bus := (s.bus.unsubscribePlugin plugin).2 }
  | .publish event payload => { s with fleet := (s.bus.publish event payload s.fleet).2 }
  | .between fleet => { s with fleet }

def after (s : Session σ) (ops : List (Op σ)) : Session σ :=
  ops.foldl step s

end Session

/-! ## On the list -/

def relist (live : List Subscription) : Op σ → List Subscription
  | .subscribe event r => live ++ [⟨event, r⟩]
  | .unsubscribe id => live.eraseP (·.handler.id == id)
  | .unsubscribePlugin plugin => live.filter (·.handler.plugin != plugin)
  | .publish .. | .between _ => live

def live (ops : List (Op σ)) : List Subscription :=
  ops.foldl relist []

theorem live_concat (ops : List (Op σ)) (op : Op σ) : live (ops ++ [op]) = relist (live ops) op := by
  simp [live]

theorem live_sublist (ops : List (Op σ)) : (live ops).Sublist (ops.filterMap Op.subscription?) := by
  induction ops using List.reverseRecOn with
  | nil => exact .refl _
  | append_singleton ops op ih =>
    rw [live_concat, List.filterMap_append]
    cases op with
    | subscribe event r => exact ih.append (.refl _)
    | unsubscribe id => exact List.eraseP_sublist.trans (ih.trans (List.sublist_append_left _ _))
    | unsubscribePlugin plugin => exact List.filter_sublist.trans (ih.trans (List.sublist_append_left _ _))
    | _ => exact ih.trans (List.sublist_append_left _ _)

/-- Taking out the first of an id takes out all of them, as there is no other. -/
theorem eraseP_eq_filter {live : List Subscription} (h : (live.map (·.handler.id)).Nodup)
    (id : SubscriptionId) : live.eraseP (·.handler.id == id) = live.filter (·.handler.id != id) := by
  induction live with
  | nil => rfl
  | cons x live ih =>
    rw [List.map_cons, List.nodup_cons] at h
    by_cases hx : x.handler.id = id
    · have hrest : ∀ y ∈ live, y.handler.id ≠ id := fun y hy he =>
        h.1 (hx ▸ he ▸ List.mem_map_of_mem (f := (·.handler.id)) hy)
      have hall : live.filter (·.handler.id != id) = live := by simpa [List.filter_eq_self] using hrest
      simp [hx, hall]
    · simp [hx, ih h.2]

/-! ## One stands for the other -/

section
variable {b : EventBus} {live : List Subscription} (h : b.subscriptions.Represents live)
include h

theorem unsubscribe_iff (id : SubscriptionId) :
    (b.unsubscribe id).1 = true ↔ ∃ x ∈ live, x.handler.id = id := by
  have hany : b.subscriptions.all.any (·.id == id) = (live.map (·.handler)).any (·.id == id) := h.all_perm.any_eq
  show b.subscriptions.all.any (·.id == id) = true ↔ _
  rw [hany]
  simp

theorem unsubscribePlugin_eq (plugin : String) :
    (b.unsubscribePlugin plugin).1 = (live.filter (·.handler.plugin = plugin)).length := by
  have hcount : b.subscriptions.all.countP (·.plugin == plugin) =
      (live.map (·.handler)).countP (·.plugin == plugin) := h.all_perm.countP_eq _
  show b.subscriptions.all.countP (·.plugin == plugin) = _
  rw [hcount, List.countP_map, List.countP_eq_length_filter]
  rfl

theorem represents_unsubscribePlugin (plugin : String) :
    (b.unsubscribePlugin plugin).2.subscriptions.Represents (live.filter (·.handler.plugin != plugin)) :=
  h.keep (·.plugin != plugin)

theorem represents_unsubscribe (hids : (live.map (·.handler.id)).Nodup) (id : SubscriptionId) :
    (b.unsubscribe id).2.subscriptions.Represents (live.eraseP (·.handler.id == id)) := by
  rw [eraseP_eq_filter hids]
  exact h.keep (·.id != id)

end

theorem represents_after (fleet : Fleet σ) (ops : List (Op σ))
    (hfresh : ((ops.filterMap Op.subscription?).map (·.handler.id)).Nodup) :
    (Session.after { fleet } ops).bus.subscriptions.Represents (live ops) := by
  induction ops using List.reverseRecOn with
  | nil => exact Topics.represents_empty
  | append_singleton ops op ih =>
    rw [List.filterMap_append, List.map_append] at hfresh
    have hbefore := (List.nodup_append.mp hfresh).1
    have h := ih hbefore
    rw [live_concat, Session.after, List.foldl_concat]
    cases op with
    | subscribe event r => exact h.insert event r
    | unsubscribe id =>
      exact represents_unsubscribe h (hbefore.sublist ((live_sublist ops).map _)) id
    | unsubscribePlugin plugin => exact represents_unsubscribePlugin h plugin
    | _ => exact h

/-! ## What can be seen of a bus -/

structure StandsFor (b : EventBus) (live : List Subscription) : Prop where
  represents : b.subscriptions.Represents live
  complete : b.subscriptions.all.Perm (live.map (·.handler))
  distinct : (live.map (·.handler.id)).Nodup
  unsubscribed : ∀ id, (b.unsubscribe id).1 = true ↔ ∃ x ∈ live, x.handler.id = id
  dropped : ∀ plugin, (b.unsubscribePlugin plugin).1 = (live.filter (·.handler.plugin = plugin)).length
  sorted : ∀ plugin, (b.eventsFor plugin).Pairwise (· < ·)
  events : ∀ plugin event,
    event ∈ b.eventsFor plugin ↔ ∃ x ∈ live, x.topic = event ∧ x.handler.plugin = plugin

def attempts (b : EventBus) (event : String) (payload : Json) (f : Fleet σ) : List Attempt :=
  f.attempts payload (b.subscriptions.handlers event)

/-- Publishing makes one attempt for each subscription of the event. An attempt fails if the queue
takes nothing, with what the same payload has put into it before, and one that fails might as well
not have been made. -/
structure Publishes (b : EventBus) (live : List Subscription) (event : String) (payload : Json)
    (f : Fleet σ) : Prop where
  once : (b.attempts event payload f).map (·.handler) = (live.filter (·.topic = event)).map (·.handler)
  same : ∀ a ∈ b.attempts event payload f, a.payload = payload
  refusal : ∀ before a later, b.attempts event payload f = before ++ a :: later →
    ∀ i, f.get? a.handler.handle = some i →
      a.refusal = (i.enqueue (before.filterMap (·.message? a.handler.handle))).worker.refusal?
  apart : ∀ before a later, b.attempts event payload f = before ++ a :: later → ∀ e, a.refusal = some e →
    f.attempts payload ((before ++ later).map (·.handler)) = before ++ later ∧
      (f.deliver payload ((before ++ later).map (·.handler))).2 = (b.publish event payload f).2
  queues : ∀ handle, (b.publish event payload f).2.get? handle =
    (f.get? handle).map (·.enqueue ((b.attempts event payload f).filterMap (·.message? handle)))
  report : (b.publish event payload f).1 = .on (b.attempts event payload f)
  count : b.subscriberCount event = (live.filter (·.topic = event)).length
  total : (b.publish event payload f).1.queued + (b.publish event payload f).1.failures.length =
    b.subscriberCount event

theorem publishes_of_represents {b : EventBus} {live : List Subscription}
    (h : b.subscriptions.Represents live) (event : String) (payload : Json) (f : Fleet σ) :
    b.Publishes live event payload f := by
  have hreport : (b.publish event payload f).1 = .on (b.attempts event payload f) := f.deliver_report _ _
  have honce : (b.attempts event payload f).map (·.handler) = b.subscriptions.handlers event :=
    f.map_handler_attempts _ _
  refine ⟨?_, fun a => f.payload_of_mem_attempts _ _, ?_, ?_, f.get?_deliver _ _, hreport, ?_, ?_⟩
  · rw [honce, h.handlers]
    rfl
  · intro before a later hsplit i hi
    have hbefore := (Fleet.attempts_split hsplit).2.1
    rw [Fleet.refusal_of_attempts hsplit, Fleet.refusal?, f.get?_deliver, hi, hbefore]
    rfl
  · exact fun before a later hsplit e => Fleet.attempts_of_refused hsplit
  · rw [subscriberCount, h.handlers, Topics.onTopic, List.length_map]
  · rw [hreport, DispatchReport.on_total, ← List.length_map (f := (·.handler)), honce]
    rfl

/-- **A bus is a list of subscriptions.** After any run in which no id is given away twice, the bus
stands for the list of its live subscriptions, and publishes to those of the event. -/
theorem stands_for_live (fleet : Fleet σ) (ops : List (Op σ))
    (hfresh : ((ops.filterMap Op.subscription?).map (·.handler.id)).Nodup) :
    let s := Session.after { fleet } ops
    s.bus.StandsFor (live ops) ∧ ∀ event payload, s.bus.Publishes (live ops) event payload s.fleet := by
  intro s
  have h : s.bus.subscriptions.Represents (live ops) := represents_after fleet ops hfresh
  refine ⟨?_, fun event payload => publishes_of_represents h event payload s.fleet⟩
  exact {
    represents := h
    complete := h.all_perm
    distinct := hfresh.sublist ((live_sublist ops).map _)
    unsubscribed := unsubscribe_iff h
    dropped := unsubscribePlugin_eq h
    sorted := Topics.pairwise_topicsOf h.keyed
    events := fun _ _ => h.mem_topicsOf }

/-- The queue of `a` is full after the first of its two subscriptions, and `b` gets the payload
nevertheless. -/
theorem stands_for_live_saved :
    let fleet : Fleet Unit :=
      ⟨[⟨⟨{}, .start .unlimited 0⟩, (), .start "a" 1, []⟩, ⟨⟨{}, .start .unlimited 0⟩, (), .start "b" 8, []⟩]⟩
    let ops : List (Op Unit) :=
      [.subscribe "saved" ⟨⟨0⟩, "a", "first", 0⟩, .subscribe "closed" ⟨⟨1⟩, "b", "gone", 1⟩,
        .subscribe "saved" ⟨⟨2⟩, "a", "second", 0⟩, .unsubscribe ⟨0⟩, .publish "opened" .null,
        .subscribe "saved" ⟨⟨3⟩, "a", "third", 0⟩, .subscribe "saved" ⟨⟨4⟩, "b", "kept", 1⟩,
        .subscribe "closed" ⟨⟨5⟩, "c", "away", 7⟩, .unsubscribePlugin "c"]
    let s := Session.after { fleet } ops
    ((ops.filterMap Op.subscription?).map (·.handler.id)).Nodup ∧
      (s.bus.unsubscribe ⟨0⟩).1 ≠ true ∧
      (s.bus.unsubscribePlugin "b").1 = 2 ∧
      (s.bus.publish "saved" .null s.fleet).1 = ⟨2, [.queueFull "a"]⟩ := by
  intro fleet ops s
  have hfresh : ((ops.filterMap Op.subscription?).map (·.handler.id)).Nodup := by decide +kernel
  obtain ⟨hstands, hpublishes⟩ := stands_for_live fleet ops hfresh
  refine ⟨hfresh, ?_, ?_, ?_⟩
  · rw [ne_eq, hstands.unsubscribed]
    decide +kernel
  · exact (hstands.dropped "b").trans (by decide +kernel)
  · exact (hpublishes "saved" .null).report.trans (by decide +kernel)

end PluginSandbox.EventBus
