import PluginSandbox.Incarnation

/-!
# Chronicles

An incarnation as producers, the owner of its worker and the worker itself act
on it, in any order, and with it the record of what has become of every job.
Between any two of its moves the worker may be overtaken by all others: after
it has taken a message and before it looks at the stop flag, after it has chosen
a job and before it runs it, and between the steps of its leaving.
-/

namespace PluginSandbox

variable {σ : Type}

/-! ## Jobs in hand -/

def Stage.held : Stage → List Job
  | holding m => m.job?.toList
  | _ => []

def Stage.underway : Stage → List Job
  | chosen job => [job]
  | running job => [job]
  | _ => []

def Stage.isOver : Stage → Bool
  | leaving | closing | gone => true
  | _ => false

namespace Worker

def chooses (w : Worker) : List Job :=
  match w.stage with
  | .holding m => if w.stopping then [] else m.job?.toList
  | _ => []

def throws (w : Worker) : List Job :=
  match w.stage, w.queue with
  | .holding m, _ => if w.stopping then m.job?.toList else []
  | .closing, m :: _ => m.job?.toList
  | _, _ => []

end Worker

namespace Incarnation

/-- The notice that a job puts into its own queue when it runs. -/
def sends (i : Incarnation σ) : Job → List Job
  | .task (.chain _ (some (callback, args)) _) =>
    match i.worker.notify callback args with
    | .ok _ => [.notice callback args]
    | .error _ => []
  | _ => []

def accepts (i : Incarnation σ) : List Job :=
  match i.worker.stage with
  | .chosen job => i.sends job
  | _ => []

/-- The job that the next move ends, and how. -/
def ends (interp : Interpreter σ) (scene : Scene) (i : Incarnation σ) : List (Job × Completion) :=
  match i.worker.stage with
  | .chosen job => ((i.run interp scene job).1.map (job, ·)).toList
  | .running job => ((i.awake? interp job).map fun r => (job, r.1)).toList
  | _ => []

end Incarnation

/-! ## Steps -/

/-- An incarnation and its jobs: those whose producers have found the stop flag down and are about
to send them, and those that were accepted, that were chosen to be run, that were discarded, and
that have ended, in the order in which it happened. -/
structure Chronicle (σ : Type) where
  now : Incarnation σ
  enlisted : List Job := []
  accepted : List Job := []
  begun : List Job := []
  thrown : List Job := []
  ended : List (Job × Completion) := []

namespace Chronicle

def waiting (c : Chronicle σ) : List Job :=
  c.now.worker.stage.held ++ c.now.worker.waiting

def start (plugin : String) (capacity : Nat) (sandbox : Sandbox) (state : σ) : Chronicle σ where
  now := { sandbox, state, worker := .start plugin capacity }

/-- What may happen next. Others than the worker may change the sandbox at any time. A parked job
stands for any piece of work on the interpreter; while it is at it everything else may happen, also
on its behalf, and it may end in a panic. -/
inductive Step (interp : Interpreter σ) : Chronicle σ → Chronicle σ → Prop where
  | enlist (c : Chronicle σ) (job : Job) (hjob : job.ticket? = none) (h : c.now.worker.stopping = false) :
      Step interp c { c with enlisted := c.enlisted ++ [job] }
  | enlistCall (c : Chronicle σ) (preparation : Preparation) (callback : String) (args : Json)
      (h : c.now.worker.stopping = false) :
      Step interp c { c with
        now.worker := c.now.worker.issue
        enlisted := c.enlisted ++ [.call c.now.worker.issued preparation callback args] }
  | send (c : Chronicle σ) (before after : List Job) (job : Job) (w : Worker)
      (h : c.enlisted = before ++ job :: after) (hw : c.now.worker.send (.run job) = .ok w) :
      Step interp c { c with
        now.worker := w
        enlisted := before ++ after
        accepted := c.accepted ++ [job] }
  | refuse (c : Chronicle σ) (before after : List Job) (job : Job) (e : DispatchError)
      (h : c.enlisted = before ++ job :: after) (hw : c.now.worker.send (.run job) = .error e) :
      Step interp c { c with enlisted := before ++ after }
  | cancel (c : Chronicle σ) (t : Ticket) : Step interp c { c with now.worker := c.now.worker.cancel t }
  | raise (c : Chronicle σ) : Step interp c { c with now.worker := c.now.worker.raise }
  | wake (c : Chronicle σ) (w : Worker) (h : c.now.worker.stopping = true)
      (hw : c.now.worker.send .wake = .ok w) : Step interp c { c with now.worker := w }
  | touch (c : Chronicle σ) (sandbox : Sandbox) : Step interp c { c with now.sandbox := sandbox }
  | work (c : Chronicle σ) (listens : Bool) (state : σ)
      (h : c.now.worker.stage = .running (.task (.park listens))) : Step interp c { c with now.state := state }
  | release (c : Chronicle σ) (listens : Bool) (comp : Completion)
      (h : c.now.worker.stage = .running (.task (.park listens))) (hcomp : comp = .done ∨ comp = .panicked) :
      Step interp c { c with
        now := c.now.complete (.task (.park listens)) comp
        ended := c.ended ++ [(.task (.park listens), comp)] }
  | advance (c : Chronicle σ) (scene : Scene) (i : Incarnation σ)
      (h : c.now.advance? interp scene = some i) :
      Step interp c { c with
        now := i
        accepted := c.accepted ++ c.now.accepts
        begun := c.begun ++ c.now.worker.chooses
        thrown := c.thrown ++ c.now.worker.throws
        ended := c.ended ++ c.now.ends interp scene }

inductive Steps (interp : Interpreter σ) : Chronicle σ → Chronicle σ → Prop where
  | refl (c : Chronicle σ) : Steps interp c c
  | tail {c c' c'' : Chronicle σ} (h : Steps interp c c') (hs : Step interp c' c'') : Steps interp c c''

def Reachable (interp : Interpreter σ) (c : Chronicle σ) : Prop :=
  ∃ plugin capacity sandbox state, Steps interp (start plugin capacity sandbox state) c

end Chronicle

end PluginSandbox
