import PluginSandbox.Proofs.Host.Outcomes

/-!
# Runs of a host

Everything that can happen to a host, one operation after another, with the
moves of the workers and the passing of time between them. Of a run is kept
which operations succeeded; from these it can be told what a plugin asked for
when it was loaded, and which workspace was set last.
-/

namespace PluginSandbox.Host

variable {σ : Type} (interp : Interpreter σ)

def start (policy : Policy) (modules : ModuleRegistry) (config : ConfigStore) (graceMs : Nat)
    (scene : Scene) : Host σ :=
  { policy, modules, config, graceMs, scene }

/-- What can happen to a host. `call` is a whole call on a settled host; `startCall`, `awaitCall`,
`moveWorker` and `elapse` are its parts, between which other things may happen. -/
inductive Op (σ : Type) where
  | load (plugin : String) (requested : PermissionSet) (factory : Factory σ)
  | unload (plugin : String)
  | reload (plugin : String) (factory : Factory σ)
  | unloadAll
  | setWorkspace (path : String)
  | subscribe (plugin event callback : String)
  | unsubscribe (id : SubscriptionId)
  | publish (event : String) (payload : Json)
  | watchConfig (plugin key callback : String)
  | unwatchConfig (id : SubscriptionId)
  | setConfig (key : String) (value : Json)
  | setPluginConfig (plugin key : String) (value : Json)
  | resetMonitor (plugin : String)
  | call (plugin callback : String) (args : Json)
  | startCall (plugin callback : String) (args : Json)
  | awaitCall (plugin : String) (handle : Handle) (ticket : Ticket)
  | moveWorker (handle : Handle)
  | elapse (ms : Nat)

namespace Op

/-- The request that the operation loads `plugin` with. A reload brings none of its own. -/
def request? (plugin : String) : Op σ → Option PermissionSet
  | load p requested _ => if p = plugin then some requested else none
  | _ => none

def workspace? : Op σ → Option String
  | setWorkspace path => some path
  | _ => none

/-- It neither loads nor unloads, and sets no workspace. -/
def isQuiet : Op σ → Bool
  | load .. | unload _ | reload .. | unloadAll | setWorkspace _ => false
  | _ => true

end Op

/-- Whether it fails, and how, but not with what it succeeds. -/
def outcome {α : Type} (r : Except HostError α) : Except HostError Unit :=
  r.map fun _ => ()

def perform (h : Host σ) : Op σ → Except HostError Unit × Host σ
  | .load plugin requested factory => h.load plugin requested factory
  | .unload plugin => h.unload interp plugin
  | .reload plugin factory => h.reload interp plugin factory
  | .unloadAll => (.ok (), h.unloadAll interp)
  | .setWorkspace path => (.ok (), h.setWorkspace path)
  | .subscribe plugin event callback => (h.subscribe plugin event callback).map outcome id
  | .unsubscribe id => (.ok (), (h.unsubscribe id).2)
  | .publish event payload => (.ok (), (h.publish event payload).2)
  | .watchConfig plugin key callback => (h.watchConfig plugin key callback).map outcome id
  | .unwatchConfig id => (.ok (), (h.unwatchConfig id).2)
  | .setConfig key value => (.ok (), (h.setConfig key value).2)
  | .setPluginConfig plugin key value => (h.setPluginConfig plugin key value).map outcome id
  | .resetMonitor plugin => h.resetMonitor plugin
  | .call plugin callback args =>
    let (r, h) := h.call interp plugin callback args
    match r with
    | some (.error e) => (.error e, h)
    | _ => (.ok (), h)
  | .startCall plugin callback args => (h.enqueueCall plugin callback args).map outcome id
  | .awaitCall plugin handle ticket => (.ok (), (h.awaitCall interp plugin handle ticket).2)
  | .moveWorker handle => (.ok (), h.modify handle fun i => (i.advance? interp h.scene).getD i)
  | .elapse ms => (.ok (), { h with scene := h.scene.pass ms })

structure Run (σ : Type) where
  host : Host σ
  succeeded : List (Op σ) := []

def Run.step (r : Run σ) (op : Op σ) : Run σ :=
  match r.host.perform interp op with
  | (.ok (), host) => { host, succeeded := r.succeeded ++ [op] }
  | (.error _, host) => { r with host }

def run (h : Host σ) (ops : List (Op σ)) : Run σ :=
  ops.foldl (Run.step interp) { host := h }

/-! ## Looking back -/

def lastRequest (plugin : String) (ops : List (Op σ)) : Option PermissionSet :=
  (ops.filterMap (Op.request? plugin)).getLast?

def lastWorkspace (ops : List (Op σ)) : Option String :=
  (ops.filterMap Op.workspace?).getLast?

theorem run_concat (h : Host σ) (ops : List (Op σ)) (op : Op σ) :
    run interp h (ops ++ [op]) = (run interp h ops).step interp op := by
  unfold run
  rw [List.foldl_append, List.foldl_cons, List.foldl_nil]

theorem lastRequest_concat (plugin : String) (ops : List (Op σ)) (op : Op σ) :
    lastRequest plugin (ops ++ [op]) = (op.request? plugin).or (lastRequest plugin ops) := by
  unfold lastRequest
  rw [List.filterMap_append, List.getLast?_append]
  cases h : op.request? plugin <;> simp [h]

theorem lastWorkspace_concat (ops : List (Op σ)) (op : Op σ) :
    lastWorkspace (ops ++ [op]) = op.workspace?.or (lastWorkspace ops) := by
  unfold lastWorkspace
  rw [List.filterMap_append, List.getLast?_append]
  cases h : op.workspace? <;> simp [h]

theorem Run.host_step (r : Run σ) (op : Op σ) : (r.step interp op).host = (r.host.perform interp op).2 := by
  unfold step
  split
  next h => rw [h]
  next h => rw [h]

theorem Run.lastRequest_step {plugin : String} {op : Op σ} (h : op.request? plugin = none) (r : Run σ) :
    lastRequest plugin (r.step interp op).succeeded = lastRequest plugin r.succeeded := by
  unfold step
  split
  · rw [lastRequest_concat, h, Option.none_or]
  · rfl

theorem Run.lastWorkspace_step {op : Op σ} (h : op.workspace? = none) (r : Run σ) :
    lastWorkspace (r.step interp op).succeeded = lastWorkspace r.succeeded := by
  unfold step
  split
  · rw [lastWorkspace_concat, h, Option.none_or]
  · rfl

end PluginSandbox.Host
