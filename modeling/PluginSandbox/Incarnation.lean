import PluginSandbox.Interpreter
import PluginSandbox.ModuleRegistry
import PluginSandbox.Worker

/-!
# Incarnations

An incarnation is one life of a plugin, from load to unload: its sandbox, the state of its
interpreter, its worker, and the record of what happened on it.
-/

namespace PluginSandbox

inductive Event where
  | entered (callback : String) (args : Json)
  | interrupted
  | job (label : Json)
  | sent (accepted : Bool)
  | disposed

/-- One life of a plugin. `events` is everything that happened, in order. -/
structure Incarnation (σ : Type) where
  sandbox : Sandbox
  state : σ
  worker : Worker
  events : List Event := []

/-- What an interpreter is built from. -/
structure Context where
  plugin : String
  sandbox : Sandbox
  modules : List HostModule

/-- Builds an interpreter, or fails or panics with a text. -/
abbrev Factory (σ : Type) := Context → Except String σ

namespace Incarnation

variable {σ : Type} (interp : Interpreter σ) (scene : Scene)

def plugin (i : Incarnation σ) : String :=
  i.worker.plugin

def record (i : Incarnation σ) (e : Event) : Incarnation σ :=
  { i with events := i.events ++ [e] }

/-- The interrupt as the interpreter sees it. -/
def heard (i : Incarnation σ) : Bool :=
  i.worker.interrupted && interp.hears i.state

/-- The interpreter is built first, and the worker serves only if that succeeds. -/
def start? (context : Context) (capacity : Nat) (factory : Factory σ) :
    Except HostError (Incarnation σ) :=
  match factory context with
  | .error text => .error (.initializationFailed context.plugin text)
  | .ok state =>
    .ok { sandbox := context.sandbox, state, worker := .start context.plugin capacity }

/-! ## Running jobs -/

/-- Enters the interpreter. A callback that waits has not ended yet. -/
def enter (i : Incarnation σ) (callback : String) (args : Json) : Option Completion × Incarnation σ :=
  let i := i.record (.entered callback args)
  match interp.invoke scene (i.heard interp) callback args i.sandbox i.state with
  | .ends o sandbox state => (some (.returned o.result), { i with sandbox, state })
  | .waits sandbox state => (none, { i with sandbox, state })

def sendOwn (i : Incarnation σ) : Option (String × Json) → Incarnation σ
  | none => i
  | some (callback, args) =>
    match i.worker.notify callback args with
    | .ok w => { i with worker := w }.record (.sent true)
    | .error _ => i.record (.sent false)

/-- Runs a job up to its end or its wait. A call cancelled by then is skipped. A preparation that
panics leaves the call without a result and the interrupt with its token. -/
def run (i : Incarnation σ) : Job → Option Completion × Incarnation σ
  | .call t preparation callback args =>
    if i.worker.isCancelled t then (some .skipped, i)
    else
      let i := { i with worker := i.worker.watch t }
      match preparation with
      | .pass => i.enter interp scene callback args
      | .refuse e => (some (.returned (.error e)), i)
      | .panic => (some .panicked, i)
      | .budget =>
        match i.sandbox.monitor.reason? with
        | some reason => (some (.returned (.error (.resourceLimit reason))), i)
        | none =>
          let i := { i with sandbox.monitor := i.sandbox.monitor.resetInstructions }
          i.enter interp scene callback args
  | .notice callback args => i.enter interp scene callback args
  | .task (.park _) => (none, i)
  | .task (.chain label notify invoke) =>
    let i := (i.record (.job label)).sendOwn notify
    match invoke with
    | some (callback, args) => i.enter interp scene callback args
    | none => (some .done, i)
  | .task .stop => (some .done, { i with worker := i.worker.stop })

def complete (i : Incarnation σ) (job : Job) (c : Completion) : Incarnation σ :=
  { i with worker := i.worker.complete job c }

/-- Runs the job that was chosen; one that waits stays. -/
def begin (i : Incarnation σ) (job : Job) : Incarnation σ :=
  match i.run interp scene job with
  | (some c, i) => i.complete job c
  | (none, i) => { i with worker.stage := .running job }

/-- How a job that waits for an interrupt ends once that has come. -/
def awake? (i : Incarnation σ) : Job → Option (Completion × Incarnation σ)
  | .task (.park listens) => if listens && i.worker.interrupted then some (.done, i) else none
  | _ =>
    if i.heard interp then
      let (o, state) := interp.awake i.state
      some (.returned o.result, { i with state }.record .interrupted)
    else none

def release (i : Incarnation σ) : Incarnation σ :=
  match i.worker.running with
  | some (.task (.park listens)) => i.complete (.task (.park listens)) .done
  | _ => i

/-! ## Moves -/

def advance? (i : Incarnation σ) : Option (Incarnation σ) :=
  match i.worker.stage with
  | .chosen job => some (i.begin interp scene job)
  | .running job => (i.awake? interp job).map fun (c, i) => i.complete job c
  | _ =>
    i.worker.turn?.map fun w =>
      if w.left then { i with worker := w }.record .disposed else { i with worker := w }

def advanceFor (interp : Interpreter σ) (scene : Scene) : Nat → Incarnation σ → Incarnation σ
  | 0, i => i
  | fuel + 1, i =>
    match i.advance? interp scene with
    | some i => advanceFor interp scene fuel i
    | none => i

/-- Moves until the worker is idle, waits, or is gone. A message takes four moves at most and sends
one notice at most, and some moves are left to end the job at hand and to leave. -/
def settle (i : Incarnation σ) : Incarnation σ :=
  advanceFor interp scene (8 * i.worker.queue.length + 16) i

/-! ## The end -/

/-- The jobs discarded by a worker that is gone; none are reported if destruction panicked. -/
def discarded (i : Incarnation σ) : Nat :=
  if interp.breaks i.state then 0 else i.worker.discarded

def wipe (i : Incarnation σ) : Incarnation σ :=
  { i with sandbox := ⟨{}, i.sandbox.monitor.reset scene.now⟩ }

end Incarnation

end PluginSandbox
