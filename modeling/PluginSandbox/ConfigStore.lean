import PluginSandbox.Delivery

/-!
# The configuration store

Values by key, and the plugins that watch a key. A watcher is told the key, the old value and the
new one, each time the value changes.
-/

namespace PluginSandbox

/-- The values, each key once, and the watchers of each key. -/
structure ConfigStore where
  values : List (String × Json) := []
  watchers : Topics := {}

namespace ConfigStore

def put (key : String) (value : Json) : List (String × Json) → List (String × Json)
  | [] => [(key, value)]
  | (k, v) :: rest => if k = key then (k, value) :: rest else (k, v) :: put key value rest

/-- Initial values, which no watcher is told of; the last of a key counts. -/
def ofList (values : List (String × Json)) : ConfigStore :=
  { values := values.foldl (fun acc kv => put kv.1 kv.2 acc) [] }

def get? (c : ConfigStore) (key : String) : Option Json :=
  c.values.lookup key

/-- What a watcher is told; a key that had no value had `null`. -/
def change (key : String) (old : Option Json) (new : Json) : Json :=
  .object [("key", .str key), ("old", old.getD .null), ("new", new)]

/-- Stores a value and tells the watchers of the key, unless it is the value already there. The
value is stored even if a watcher cannot be told. -/
def set {σ : Type} (c : ConfigStore) (key : String) (value : Json) (f : Fleet σ) :
    DispatchReport × ConfigStore × Fleet σ :=
  let old := c.get? key
  if old = some value then ({}, c, f)
  else
    let c := { c with values := put key value c.values }
    let (report, f) := f.deliver (change key old value) (c.watchers.handlers key)
    (report, c, f)

def watch (c : ConfigStore) (key : String) (r : Registration) : ConfigStore :=
  { c with watchers := c.watchers.insert key r }

def unwatch (c : ConfigStore) (id : SubscriptionId) : Bool × ConfigStore :=
  let (was, watchers) := c.watchers.erase id
  (was, { c with watchers })

def unwatchPlugin (c : ConfigStore) (plugin : String) : Nat × ConfigStore :=
  let (n, watchers) := c.watchers.erasePlugin plugin
  (n, { c with watchers })

def watcherCount (c : ConfigStore) (key : String) : Nat :=
  (c.watchers.handlers key).length

def summary (c : ConfigStore) : String :=
  "ConfigWatcher \x7b keys: " ++ toString c.values.length ++ ", .. \x7d"

end ConfigStore

end PluginSandbox
