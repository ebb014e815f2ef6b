import PluginSandbox.Fleet
import PluginSandbox.Script

/-!
# Trying out workers

What a trial can do to one worker from outside: hold it in a parked job, let it go on, and look at
it.
-/

namespace PluginSandbox

inductive Unheld where
  | missing
  | blocked
  | refused (e : DispatchError)

namespace Incarnation

variable {σ : Type}

def isBlocked (i : Incarnation σ) : Bool :=
  i.worker.running.isSome

def handleSummary (i : Incarnation σ) : String :=
  "WorkerHandle \x7b plugin_id: " ++ Text.quote i.plugin ++ ", stopping: " ++
    toString i.worker.stopping ++ " \x7d"

def workerSummary (i : Incarnation σ) : String :=
  "PluginWorker \x7b plugin_id: " ++ Text.quote i.plugin ++ ", running: true \x7d"

end Incarnation

namespace Fleet

variable {σ : Type} (interp : Interpreter σ) (scene : Scene)

def submit (f : Fleet σ) (h : Handle) (job : Job) : Except DispatchError (Fleet σ) :=
  match f.get? h with
  | none => .error (.workerStopped "")
  | some i => do
    let w ← i.worker.submit job
    return f.modify h fun i => { i with worker := w }

/-- Parks an idle worker in a job, where it stays until it is released or, if it listens, until it
is interrupted. -/
def hold (f : Fleet σ) (h : Handle) (listens : Bool) : Except Unheld (Fleet σ) :=
  match f.get? h with
  | none => .error .missing
  | some i =>
    if i.isBlocked then .error .blocked
    else
      match f.submit h (.task (.park listens)) with
      | .ok f => .ok (f.settle interp scene)
      | .error e => .error (.refused e)

def release (f : Fleet σ) (h : Handle) : Fleet σ :=
  (f.modify h (·.release)).settle interp scene

/-- What happened to a plugin since the last look, and how far each incarnation has been looked
at by then. -/
def news (f : Fleet σ) (plugin : String) (seen : List (Handle × Nat)) :
    List Event × List (Handle × Nat) :=
  let own := f.ofPlugin plugin
  let fresh := own.flatMap fun (h, i) => i.events.drop ((seen.lookup h).getD 0)
  (fresh, own.map (fun (h, i) => (h, i.events.length)) ++ seen)

end Fleet

def bind {α : Type} (name : String) (a : α) (bindings : List (String × α)) : List (String × α) :=
  (name, a) :: bindings.filter (·.1 != name)

end PluginSandbox
