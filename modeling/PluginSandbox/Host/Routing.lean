import PluginSandbox.Host

/-!
# Events and configuration

What plugins register with the host and read from it needs a capability; what the host itself
publishes or writes does not.
-/

namespace PluginSandbox.Host

variable {σ : Type}

/-- The plugin, if it is loaded and holds `c`. -/
def holder (h : Host σ) (plugin : String) (c : Capability) : Except HostError Loaded := do
  let l ← h.find plugin
  let i ← h.incarnation plugin
  match i.sandbox.checker.checkCapability c with
  | .ok () => .ok l
  | .error d => .error (.permissionDenied d)

/-- Acts for a plugin that is loaded and holds `c`, and for no other. -/
def onBehalf {α : Type} (h : Host σ) (plugin : String) (c : Capability) (act : Loaded → α × Host σ) :
    Except HostError α × Host σ :=
  match h.holder plugin c with
  | .error e => (.error e, h)
  | .ok l =>
    let (a, h) := act l
    (.ok a, h)

def subscribe (h : Host σ) (plugin event callback : String) :
    Except HostError SubscriptionId × Host σ :=
  h.onBehalf plugin .events fun l =>
    let id := ⟨h.nextId⟩
    let events := h.events.subscribe event { id, plugin, callback, handle := l.handle }
    (id, { h with events, nextId := h.nextId + 1 })

def unsubscribe (h : Host σ) (id : SubscriptionId) : Bool × Host σ :=
  let (was, events) := h.events.unsubscribe id
  (was, { h with events })

def publish (h : Host σ) (event : String) (payload : Json) : DispatchReport × Host σ :=
  let (report, fleet) := h.events.publish event payload h.fleet
  (report, { h with fleet })

def watchConfig (h : Host σ) (plugin key callback : String) :
    Except HostError SubscriptionId × Host σ :=
  h.onBehalf plugin .configRead fun l =>
    let id := ⟨h.nextId⟩
    let config := h.config.watch key { id, plugin, callback, handle := l.handle }
    (id, { h with config, nextId := h.nextId + 1 })

def unwatchConfig (h : Host σ) (id : SubscriptionId) : Bool × Host σ :=
  let (was, config) := h.config.unwatch id
  (was, { h with config })

def getConfig (h : Host σ) (plugin key : String) : Except HostError (Option Json) := do
  let _ ← h.holder plugin .configRead
  return h.config.get? key

/-- A write by the host itself. -/
def setConfig (h : Host σ) (key : String) (value : Json) : DispatchReport × Host σ :=
  let (report, config, fleet) := h.config.set key value h.fleet
  (report, { h with config, fleet })

def setPluginConfig (h : Host σ) (plugin key : String) (value : Json) :
    Except HostError DispatchReport × Host σ :=
  h.onBehalf plugin .configWrite fun _ => h.setConfig key value

end PluginSandbox.Host
