import PluginSandbox.Host.Call
import PluginSandbox.Host.Routing
import PluginSandbox.Trial

/-!
# A trial of a host

A host with scripted plugins. The trial keeps the handle and the sandbox of each plugin's last
load, also after the plugin is gone, and gives names to registrations.
-/

namespace PluginSandbox

/-- `handles` are the last successful loads by plugin, and `tried` the plugins for which a load
was tried. -/
structure HostTrial where
  host : Host Script
  handles : List (String × Handle) := []
  ids : List (String × SubscriptionId) := []
  tried : List String := []
  seen : List (Handle × Nat) := []

inductive StartedCall where
  | failed (e : HostError)
  | abandoned
  | waiting (handle : Handle) (ticket : Ticket)

namespace HostTrial

/-! ## Operations of the host -/

/-- A trial goes on with what an operation leaves only if it succeeded. -/
def succeeded {α : Type} (r : Except HostError α × Host Script) :
    Except HostError (α × Host Script) :=
  r.1.map (·, r.2)

instance : CoeOut (Except HostError Unit × Host Script) (Except HostError (Host Script)) where
  coe r := (succeeded r).map (·.2)

/-! ## The plugins -/

def handle? (t : HostTrial) (plugin : String) : Option Handle :=
  t.handles.lookup plugin

def settle (t : HostTrial) : HostTrial :=
  { t with host := t.host.settle Script.interpreter }

def remember (t : HostTrial) (plugin : String) : HostTrial :=
  match t.host.find plugin with
  | .ok l => { t with handles := bind plugin l.handle t.handles }
  | .error _ => t

/-! ## Loading and unloading -/

def load (t : HostTrial) (plugin : String) (requested : PermissionSet) (recipe : Script.Recipe) :
    Except HostError Unit × HostTrial :=
  let t := { t with tried := plugin :: t.tried }
  let (r, host) := t.host.load plugin requested recipe.factory
  (r, { t with host }.remember plugin)

def reload (t : HostTrial) (plugin : String) (recipe : Script.Recipe) :
    Except HostError Unit × HostTrial :=
  let t := { t with tried := plugin :: t.tried }
  let (r, host) := t.host.reload Script.interpreter plugin recipe.factory
  (r, { t with host }.remember plugin)

def log? (t : HostTrial) (plugin : String) : Option (List Event × HostTrial) :=
  if t.tried.contains plugin then
    let (events, seen) := t.host.fleet.news plugin t.seen
    some (events, { t with seen })
  else none

/-! ## Calls -/

/-- A call would wait too long for a trial: the worker is blocked, or the callback waits, and the
deadline is not within 400 milliseconds. -/
def wouldWait (t : HostTrial) (plugin callback : String) (held : Bool) : Bool :=
  match t.host.incarnation plugin with
  | .error _ => false
  | .ok i =>
    let ms := i.sandbox.monitor.limits.timeoutMs
    ((i.isBlocked && !held) || callback == "busy") && (ms < 1 || 400 < ms)

def call (t : HostTrial) (plugin callback : String) (args : Json) :
    Option (Except HostError Json) × HostTrial :=
  if t.wouldWait plugin callback false then (none, t)
  else
    let (r, host) := t.host.call Script.interpreter plugin callback args
    (r, { t with host })

def start (t : HostTrial) (plugin callback : String) (args : Json) (abandon : Bool) :
    StartedCall × HostTrial :=
  match t.host.find plugin, t.host.enqueueCall plugin callback args with
  | .ok l, (.ok ticket, host) =>
    (if abandon then .abandoned else .waiting l.handle ticket, { t with host })
  | .error e, (_, host) => (.failed e, { t with host })
  | _, (.error e, host) => (.failed e, { t with host })

def collect (t : HostTrial) (plugin : String) :
    StartedCall → Option (Except HostError Json) × HostTrial
  | .failed e => (some (.error e), t)
  | .abandoned => (none, t)
  | .waiting h ticket =>
    let (r, host) := t.host.awaitCall Script.interpreter plugin h ticket
    (r, { t with host })

/-! ## The workers and sandboxes of plugins -/

def hold (t : HostTrial) (h : Handle) (listens : Bool) : Except Unheld HostTrial := do
  let fleet ← t.host.fleet.hold Script.interpreter t.host.scene h listens
  return { t with host := { t.host with fleet } }

def release (t : HostTrial) (h : Handle) : HostTrial :=
  { t with host := { t.host with fleet := t.host.fleet.release Script.interpreter t.host.scene h } }

def notify (t : HostTrial) (h : Handle) (callback : String) (args : Json) :
    Except DispatchError HostTrial := do
  let fleet ← t.host.fleet.notify h callback args
  return { t with host := { t.host with fleet } }.settle

def setChecker (t : HostTrial) (h : Handle) (k : Checker) : HostTrial :=
  { t with host := t.host.modify h fun i => { i with sandbox.checker := k } }

def setMonitor (t : HostTrial) (h : Handle) (m : Monitor) : HostTrial :=
  { t with host := t.host.modify h fun i => { i with sandbox.monitor := m } }

def inScene (t : HostTrial) (scene : Scene) : HostTrial :=
  { t with host := { t.host with scene } }

/-! ## Registrations -/

def subscribe (t : HostTrial) (plugin event callback name : String) :
    Except HostError HostTrial := do
  let (id, host) ← succeeded (t.host.subscribe plugin event callback)
  return { t with host, ids := bind name id t.ids }

def watch (t : HostTrial) (plugin key callback name : String) : Except HostError HostTrial := do
  let (id, host) ← succeeded (t.host.watchConfig plugin key callback)
  return { t with host, ids := bind name id t.ids }

/-- A name that was never given stands for no subscription. -/
def unsubscribe (t : HostTrial) (name : String) : Bool × HostTrial :=
  match t.ids.lookup name with
  | none => (false, t)
  | some id =>
    let (was, host) := t.host.unsubscribe id
    (was, { t with host })

def unwatch (t : HostTrial) (name : String) : Bool × HostTrial :=
  match t.ids.lookup name with
  | none => (false, t)
  | some id =>
    let (was, host) := t.host.unwatchConfig id
    (was, { t with host })

/-! ## Deliveries -/

def publish (t : HostTrial) (event : String) (payload : Json) : DispatchReport × HostTrial :=
  let (report, host) := t.host.publish event payload
  (report, { t with host }.settle)

def setConfig (t : HostTrial) (key : String) (value : Json) : DispatchReport × HostTrial :=
  let (report, host) := t.host.setConfig key value
  (report, { t with host }.settle)

def setPluginConfig (t : HostTrial) (plugin key : String) (value : Json) :
    Except HostError (DispatchReport × HostTrial) := do
  let (report, host) ← succeeded (t.host.setPluginConfig plugin key value)
  return (report, { t with host }.settle)

end HostTrial

end PluginSandbox
