import PluginSandbox.Fleet
import PluginSandbox.SubscriptionId

/-!
# Registrations and deliveries

A registration names a callback and the incarnation it was made for. Registrations are kept by
topic, which is an event or a configuration key. A payload is handed to the handlers of a topic,
and a report says how many got it and which refused it.
-/

namespace PluginSandbox

/-! ## Registrations -/

structure Registration where
  id : SubscriptionId
  plugin : String
  callback : String
  handle : Handle
deriving DecidableEq

/-- Handlers by topic, in the order in which they registered. No topic is without one. -/
structure Topics where
  buckets : List (String × List Registration) := []
deriving DecidableEq

namespace Topics

def insertInto (topic : String) (r : Registration) :
    List (String × List Registration) → List (String × List Registration)
  | [] => [(topic, [r])]
  | (t, rs) :: rest =>
    if t = topic then (t, rs ++ [r]) :: rest else (t, rs) :: insertInto topic r rest

def insert (ts : Topics) (topic : String) (r : Registration) : Topics :=
  ⟨insertInto topic r ts.buckets⟩

def handlers (ts : Topics) (topic : String) : List Registration :=
  (ts.buckets.lookup topic).getD []

def all (ts : Topics) : List Registration :=
  ts.buckets.flatMap (·.2)

/-- Keeps the handlers that pass, and the topics that still have one. -/
def keep (p : Registration → Bool) (ts : Topics) : Topics :=
  ⟨(ts.buckets.map fun (t, rs) => (t, rs.filter p)).filter (!·.2.isEmpty)⟩

/-- Drops the handler of that id and says whether there was one. -/
def erase (ts : Topics) (id : SubscriptionId) : Bool × Topics :=
  (ts.all.any (·.id == id), ts.keep (·.id != id))

/-- Drops the handlers of a plugin and says how many there were. -/
def erasePlugin (ts : Topics) (plugin : String) : Nat × Topics :=
  (ts.all.countP (·.plugin == plugin), ts.keep (·.plugin != plugin))

def topicsOf (ts : Topics) (plugin : String) : List String :=
  ((ts.buckets.filter (·.2.any (·.plugin == plugin))).map (·.1)).mergeSort
    fun a b => (compare a b).isLE

end Topics

/-! ## Deliveries -/

structure DispatchReport where
  queued : Nat := 0
  failures : List DispatchError := []
deriving DecidableEq

namespace DispatchReport

def isComplete (r : DispatchReport) : Bool :=
  r.failures.isEmpty

end DispatchReport

/-- Sends the payload to each handler in turn; one that fails does not keep it from the others. -/
def Fleet.deliver {σ : Type} (payload : Json) :
    List Registration → Fleet σ → DispatchReport × Fleet σ
  | [], f => ({}, f)
  | r :: rest, f =>
    match f.notify r.handle r.callback payload with
    | .ok f =>
      let (report, f) := deliver payload rest f
      ({ report with queued := report.queued + 1 }, f)
    | .error e =>
      let (report, f) := deliver payload rest f
      ({ report with failures := e :: report.failures }, f)

end PluginSandbox
