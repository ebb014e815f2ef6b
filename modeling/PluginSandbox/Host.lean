import PluginSandbox.ConfigStore
import PluginSandbox.EventBus
import PluginSandbox.Policy

/-!
# The plugin host

The host loads plugins under its policy and hands each its sandbox and its worker. Unloading first
drops the plugin's registrations, then stops its worker, then wipes its sandbox. An operation that
may fail answers together with the host that it leaves behind, also where it fails.
-/

namespace PluginSandbox

/-- A loaded plugin: where it is reached, and what its manifest asked for. -/
structure Loaded where
  handle : Handle
  requested : PermissionSet
deriving DecidableEq

/-- The host. Ids of registrations are numbered from `nextId`. -/
structure Host (σ : Type) where
  policy : Policy
  modules : ModuleRegistry := .standard
  graceMs : Nat := 2000
  workspace : Option String := none
  scene : Scene := {}
  fleet : Fleet σ := {}
  plugins : List (String × Loaded) := []
  events : EventBus := {}
  config : ConfigStore := {}
  nextId : Nat := 0

namespace Host

variable {σ : Type} (interp : Interpreter σ)

/-! ## Access -/

def find (h : Host σ) (plugin : String) : Except HostError Loaded :=
  match h.plugins.lookup plugin with
  | some l => .ok l
  | none => .error (.pluginNotFound plugin)

def incarnation (h : Host σ) (plugin : String) : Except HostError (Incarnation σ) := do
  let l ← h.find plugin
  match h.fleet.get? l.handle with
  | some i => .ok i
  | none => .error (.pluginNotFound plugin)

def isLoaded (h : Host σ) (plugin : String) : Bool :=
  (h.plugins.lookup plugin).isSome

def list (h : Host σ) : List String :=
  (h.plugins.map (·.1)).mergeSort fun a b => (compare a b).isLE

/-- The modules a plugin may import under its present grants. -/
def exposedModules (h : Host σ) (plugin : String) : Except HostError (List HostModule) := do
  let i ← h.incarnation plugin
  return h.modules.exposedTo i.sandbox.checker

def modify (h : Host σ) (handle : Handle) (change : Incarnation σ → Incarnation σ) : Host σ :=
  { h with fleet := h.fleet.modify handle change }

def settle (h : Host σ) : Host σ :=
  { h with fleet := h.fleet.settle interp h.scene }

/-- Confines the file access of every plugin, loaded now or later. -/
def setWorkspace (h : Host σ) (path : String) : Host σ :=
  let confine (i : Incarnation σ) : Incarnation σ :=
    { i with sandbox.checker := i.sandbox.checker.setWorkspace h.scene.cwd path }
  let fleet := h.plugins.foldl (fun f (_, l) => f.modify l.handle confine) h.fleet
  { h with fleet, workspace := some path }

/-! ## Loading and unloading -/

def sandboxFor (h : Host σ) (plugin : String) (requested : PermissionSet) : Sandbox :=
  let checker := Checker.ofPermissions h.scene.cwd (h.policy.filter requested)
  { checker := h.workspace.elim checker fun w => checker.setWorkspace h.scene.cwd w
    monitor := .start (h.policy.limitsFor plugin) h.scene.now }

def contextFor (h : Host σ) (plugin : String) (requested : PermissionSet) : Context :=
  let sandbox := h.sandboxFor plugin requested
  { plugin, sandbox, modules := h.modules.exposedTo sandbox.checker }

/-- Loads a plugin. It is entered into the table when its worker has started. -/
def load (h : Host σ) (plugin : String) (requested : PermissionSet) (factory : Factory σ) :
    Except HostError Unit × Host σ :=
  if !h.policy.admits plugin then
    (.error (.policyDenied ("plugin '" ++ plugin ++ "' blocked by policy")), h)
  else if h.isLoaded plugin then
    (.error (.pluginAlreadyLoaded plugin), h)
  else
    let context := h.contextFor plugin requested
    match h.fleet.spawn context h.policy.effectiveQueueCapacity factory with
    | (.error e, fleet) => (.error e, { h with fleet })
    | (.ok handle, fleet) =>
      (.ok (), { h with fleet, plugins := h.plugins ++ [(plugin, ⟨handle, requested⟩)] })

/-- Takes a plugin out of the table, if it is there. -/
def remove (h : Host σ) (plugin : String) : Host σ :=
  { h with plugins := h.plugins.filter (·.1 != plugin) }

/-- Stops a worker. One that is still busy after the grace period is left to itself. -/
def shutDown (h : Host σ) (handle : Handle) : Host σ :=
  let stopped := h.modify handle fun i => { i with worker := i.worker.stop }.settle interp h.scene
  match stopped.fleet.get? handle with
  | some i => if i.worker.left then stopped else { stopped with scene := h.scene.pass h.graceMs }
  | none => stopped

/-- Takes a plugin out of the table, drops its registrations, stops its worker and wipes its
sandbox. -/
def tearDown (h : Host σ) (plugin : String) (handle : Handle) : Host σ :=
  let h := h.remove plugin
  let h := { h with
    events := (h.events.unsubscribePlugin plugin).2
    config := (h.config.unwatchPlugin plugin).2 }
  let h := h.shutDown interp handle
  h.modify handle (·.wipe h.scene)

/-- Unloads a plugin. Only when it has been taken out of the table is it known whether it was
there. -/
def unload (h : Host σ) (plugin : String) : Except HostError Unit × Host σ :=
  match h.find plugin with
  | .error e => (.error e, h.remove plugin)
  | .ok l => (.ok (), h.tearDown interp plugin l.handle)

/-- Unloads a plugin and loads it again with its first request. If the loading fails, it stays
unloaded. -/
def reload (h : Host σ) (plugin : String) (factory : Factory σ) : Except HostError Unit × Host σ :=
  match h.find plugin with
  | .error e => (.error e, h.remove plugin)
  | .ok l => (h.tearDown interp plugin l.handle).load plugin l.requested factory

def unloadAll (h : Host σ) : Host σ :=
  h.plugins.foldl (fun h (plugin, l) => h.tearDown interp plugin l.handle) h

def resetMonitor (h : Host σ) (plugin : String) : Except HostError Unit × Host σ :=
  match h.find plugin with
  | .error e => (.error e, h)
  | .ok l =>
    (.ok (), h.modify l.handle fun i =>
      { i with sandbox.monitor := i.sandbox.monitor.reset h.scene.now })

end Host

end PluginSandbox
