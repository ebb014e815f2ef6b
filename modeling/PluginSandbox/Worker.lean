import PluginSandbox.Worker.Job

/-!
# The worker of a plugin

A plugin's script runs on one worker, which takes jobs from a bounded queue, one at a time and in
the order in which they were accepted. Nobody waits to put a job in: a full queue refuses it.
Stopping raises the interrupt, refuses new jobs, and discards what waits.
-/

namespace PluginSandbox

/-- What the worker does at the moment. It looks at the stop flag when it holds a message, and a
`chosen` job is run whatever comes. On `leaving` its loop it closes the queue and then empties it. -/
inductive Stage where
  | idle
  | holding (m : Message)
  | chosen (job : Job)
  | running (job : Job)
  | leaving
  | closing
  | gone

def Stage.job? : Stage → Option Job
  | holding m => m.job?
  | chosen job => some job
  | running job => some job
  | _ => none

/-- The queue and what runs. `current` is the call whose token the interrupt watches, and
`discarded` counts the jobs that will never run. -/
structure Worker where
  plugin : String
  capacity : Nat
  queue : List Message := []
  stage : Stage := .idle
  stopping : Bool := false
  current : Option Ticket := none
  issued : Nat := 0
  cancelled : List Ticket := []
  results : List (Ticket × CallResult) := []
  discarded : Nat := 0

namespace Worker

def start (plugin : String) (capacity : Nat) : Worker :=
  { plugin, capacity := max capacity 1 }

/-- Raised for good by stopping, and while the current call is cancelled. -/
def interrupted (w : Worker) : Bool :=
  w.stopping || w.current.any (w.cancelled.contains ·)

def isClosed (w : Worker) : Bool :=
  match w.stage with
  | .closing | .gone => true
  | _ => false

def isStopped (w : Worker) : Bool :=
  w.stopping || w.isClosed

def left (w : Worker) : Bool :=
  match w.stage with
  | .gone => true
  | _ => false

def running (w : Worker) : Option Job :=
  match w.stage with
  | .running job => some job
  | _ => none

def queued (w : Worker) : Nat :=
  w.queue.length

/-! ## From outside -/

def send (w : Worker) (m : Message) : Except DispatchError Worker :=
  if w.isClosed then .error (.workerStopped w.plugin)
  else if w.capacity ≤ w.queue.length then .error (.queueFull w.plugin)
  else .ok { w with queue := w.queue ++ [m] }

def submit (w : Worker) (job : Job) : Except DispatchError Worker :=
  if w.stopping then .error (.workerStopped w.plugin) else w.send (.run job)

def issue (w : Worker) : Worker :=
  { w with issued := w.issued + 1 }

def call (w : Worker) (preparation : Preparation) (callback : String) (args : Json) :
    Except DispatchError (Ticket × Worker) := do
  let w' ← w.issue.submit (.call w.issued preparation callback args)
  return (w.issued, w')

def notify (w : Worker) (callback : String) (args : Json) : Except DispatchError Worker :=
  w.submit (.notice callback args)

def isCancelled (w : Worker) (t : Ticket) : Bool :=
  w.cancelled.contains t

/-- A queued call will be skipped; a running one is interrupted. -/
def cancel (w : Worker) (t : Ticket) : Worker :=
  { w with cancelled := t :: w.cancelled }

def raise (w : Worker) : Worker :=
  { w with stopping := true }

/-- Raises the stop flag and wakes an idle worker; a full queue has no room for that and needs
none. -/
def stop (w : Worker) : Worker :=
  match w.raise.send .wake with
  | .ok w => w
  | .error _ => w.raise

/-! ## On the worker -/

/-- Counts a message that will not be run, if it is a job. -/
def discard (w : Worker) (m : Message) : Worker :=
  { w with discarded := w.discarded + m.job?.toList.length }

/-- What is done with the message at hand. After the stop flag is set nothing more is chosen. -/
def judge (w : Worker) (m : Message) : Worker :=
  if w.stopping then { w.discard m with stage := .leaving }
  else
    match m with
    | .wake => { w with stage := .leaving }
    | .run job => { w with stage := .chosen job }

/-- One turn of the worker's loop and of its end, as far as no job runs. -/
def turn? (w : Worker) : Option Worker :=
  match w.stage, w.queue with
  | .idle, m :: rest => some { w with stage := .holding m, queue := rest }
  | .holding m, _ => some (w.judge m)
  | .leaving, _ => some { w with stage := .closing }
  | .closing, m :: rest => some ({ w with queue := rest }.discard m)
  | .closing, [] => some { w with stage := .gone }
  | _, _ => none

def watch (w : Worker) (t : Ticket) : Worker :=
  { w with current := some t }

def finish (w : Worker) : Worker :=
  { w with stage := .idle }

/-- Ends the running call with its result, and the interrupt no longer watches it. -/
def settle (w : Worker) (t : Ticket) (r : CallResult) : Worker :=
  { w with stage := .idle, current := none, results := (t, r) :: w.results }

/-- Ends a job. A call that was skipped or panicked has no result, and the interrupt is left as it
was. -/
def complete (w : Worker) (job : Job) : Completion → Worker
  | .returned r => job.ticket?.elim w.finish fun t => w.settle t r
  | _ => w.finish

/-! ## Results -/

inductive Reply where
  | pending
  | settled (r : CallResult)
  | dropped

def waiting (w : Worker) : List Job :=
  w.queue.filterMap Message.job?

/-- A call that is neither settled nor still to run was skipped, discarded, or ended without a
result. -/
def reply (w : Worker) (t : Ticket) : Reply :=
  match w.results.lookup t with
  | some r => .settled r
  | none =>
    if (w.stage.job?.toList ++ w.waiting).any (·.ticket? == some t) then .pending else .dropped

end Worker

end PluginSandbox
