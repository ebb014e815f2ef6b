import PluginSandbox.ConfigStore
import PluginSandbox.EventBus
import PluginSandbox.Trial

/-!
# A trial of workers

Workers with scripts, an event bus and a configuration store, without a host. Their
scripts hold no capability, have no limits and see no modules. Workers, calls and registrations
go by names that the trial gives.
-/

namespace PluginSandbox

structure NamedCall where
  handle : Handle
  ticket : Ticket
  taken : Bool := false

/-- How a worker is shut down: waited for, waited for a moment only, just dropped, or by a job of
its own. -/
inductive Ending where
  | join
  | detach
  | drop
  | self
deriving DecidableEq

/-- `handles` are the workers by name, and `owned` those not yet shut down. -/
structure WorkerTrial where
  scene : Scene := {}
  fleet : Fleet Script := {}
  events : EventBus := {}
  config : ConfigStore := {}
  nextId : Nat := 0
  handles : List (String × Handle) := []
  owned : List (String × Handle) := []
  calls : List (String × NamedCall) := []
  ids : List (String × SubscriptionId) := []
  tried : List String := []
  seen : List (Handle × Nat) := []

namespace WorkerTrial

def handle? (t : WorkerTrial) (name : String) : Option Handle :=
  t.handles.lookup name

def settle (t : WorkerTrial) : WorkerTrial :=
  { t with fleet := t.fleet.settle Script.interpreter t.scene }

/-! ## Workers -/

/-- Starts a worker; the name is for the new one from now on. -/
def spawn (t : WorkerTrial) (name : String) (capacity : Nat) (recipe : Script.Recipe) :
    Except HostError Unit × WorkerTrial :=
  let t := { t with tried := name :: t.tried }
  let sandbox : Sandbox := ⟨{}, .start .unlimited t.scene.now⟩
  match t.fleet.spawn ⟨name, sandbox, []⟩ capacity recipe.factory with
  | (.error e, fleet) => (.error e, { t with fleet })
  | (.ok h, fleet) =>
    (.ok (), { t with fleet, handles := bind name h t.handles, owned := bind name h t.owned })

def submit (t : WorkerTrial) (h : Handle) (job : Job) : Except DispatchError WorkerTrial := do
  let fleet ← t.fleet.submit h job
  return { t with fleet }.settle

def hold (t : WorkerTrial) (h : Handle) (listens : Bool) : Except Unheld WorkerTrial := do
  let fleet ← t.fleet.hold Script.interpreter t.scene h listens
  return { t with fleet }

def release (t : WorkerTrial) (h : Handle) : WorkerTrial :=
  { t with fleet := t.fleet.release Script.interpreter t.scene h }

/-- Makes a call and names it; with `cancelled` it is cancelled before the worker gets to it. -/
def invoke (t : WorkerTrial) (h : Handle) (preparation : Preparation) (callback : String)
    (args : Json) (name : String) (cancelled : Bool) : Except DispatchError WorkerTrial :=
  match t.fleet.get? h with
  | none => .error (.workerStopped "")
  | some i => do
    let (ticket, w) ← i.worker.call preparation callback args
    let w := if cancelled then w.cancel ticket else w
    let fleet := t.fleet.modify h fun i => { i with worker := w }
    return { t with fleet, calls := bind name ⟨h, ticket, false⟩ t.calls }.settle

/-- Where a named call stands. A result is taken once; after that there is none. -/
def result? (t : WorkerTrial) (name : String) : Option (Worker.Reply × WorkerTrial) := do
  let c ← t.calls.lookup name
  if c.taken then return (.dropped, t)
  let i ← t.fleet.get? c.handle
  match i.worker.reply c.ticket with
  | .settled r =>
    return (.settled r, { t with calls := bind name { c with taken := true } t.calls })
  | r => return (r, t)

def forget (t : WorkerTrial) (name : String) : WorkerTrial :=
  { t with calls := t.calls.filter (·.1 != name) }

/-- Cancels a named call; says whether it was cancelled before and whether it is now. A worker
that is given is then let go of. -/
def cancel? (t : WorkerTrial) (name : String) (freed : Option Handle) :
    Option (Bool × Bool × WorkerTrial) := do
  let c ← t.calls.lookup name
  let i ← t.fleet.get? c.handle
  let w := i.worker.cancel c.ticket
  let t := { t with fleet := t.fleet.modify c.handle fun i => { i with worker := w } }.settle
  let t := freed.elim t t.release
  return (i.worker.isCancelled c.ticket, w.isCancelled c.ticket, t)

/-- Stops an owned worker. Says how many jobs were discarded, which is none where nobody waited
for the end, and whether it counts as stopped. A parked job outlives a detaching and is released
after any other ending. -/
def shutDown (t : WorkerTrial) (name : String) (h : Handle) (how : Ending) :
    Nat × Bool × WorkerTrial :=
  let t := { t with owned := t.owned.filter (·.1 != name) }
  let stop (t : WorkerTrial) : WorkerTrial :=
    { t with fleet := t.fleet.modify h fun i => { i with worker := i.worker.stop } }
  let ended :=
    match how with
    | .join => (stop t).settle.release h
    | .detach => (stop t).settle
    | .drop => (stop t).release h
    | .self =>
      match (t.release h).submit h (.task .stop) with
      | .ok t => t
      | .error _ => t.release h
  match ended.fleet.get? h with
  | none => (0, true, ended)
  | some i =>
    let waited := (how = .join ∨ how = .detach) ∧ i.worker.left
    (if waited then i.discarded Script.interpreter else 0, i.worker.isStopped, ended)

def log? (t : WorkerTrial) (name : String) : Option (List Event × WorkerTrial) :=
  if t.tried.contains name then
    let (events, seen) := t.fleet.news name t.seen
    some (events, { t with seen })
  else none

/-! ## Registrations -/

def register (t : WorkerTrial) (owner callback name : String) (h : Handle) :
    Registration × WorkerTrial :=
  let id : SubscriptionId := ⟨t.nextId⟩
  (⟨id, owner, callback, h⟩, { t with nextId := t.nextId + 1, ids := bind name id t.ids })

def subscribe (t : WorkerTrial) (h : Handle) (event callback owner name : String) : WorkerTrial :=
  let (r, t) := t.register owner callback name h
  { t with events := t.events.subscribe event r }

def watch (t : WorkerTrial) (h : Handle) (key callback owner name : String) : WorkerTrial :=
  let (r, t) := t.register owner callback name h
  { t with config := t.config.watch key r }

/-- A name that was never given stands for no subscription. -/
def unsubscribe (t : WorkerTrial) (name : String) : Bool × WorkerTrial :=
  match t.ids.lookup name with
  | none => (false, t)
  | some id =>
    let (was, events) := t.events.unsubscribe id
    (was, { t with events })

def unwatch (t : WorkerTrial) (name : String) : Bool × WorkerTrial :=
  match t.ids.lookup name with
  | none => (false, t)
  | some id =>
    let (was, config) := t.config.unwatch id
    (was, { t with config })

def unsubscribePlugin (t : WorkerTrial) (owner : String) : Nat × WorkerTrial :=
  let (n, events) := t.events.unsubscribePlugin owner
  (n, { t with events })

def unwatchPlugin (t : WorkerTrial) (owner : String) : Nat × WorkerTrial :=
  let (n, config) := t.config.unwatchPlugin owner
  (n, { t with config })

def publish (t : WorkerTrial) (event : String) (payload : Json) : DispatchReport × WorkerTrial :=
  let (report, fleet) := t.events.publish event payload t.fleet
  (report, { t with fleet }.settle)

def set (t : WorkerTrial) (key : String) (value : Json) : DispatchReport × WorkerTrial :=
  let (report, config, fleet) := t.config.set key value t.fleet
  (report, { t with config, fleet }.settle)

end WorkerTrial

end PluginSandbox
