import PluginSandbox.Error

/-!
# Jobs

What a plugin's worker is asked to do: a call whose result somebody waits for, a notice, or a task
that is no callback.
-/

namespace PluginSandbox

/-- The number of a call on its worker, by which it is cancelled and its result is found. -/
abbrev Ticket := Nat

/-- What runs on the worker right before a call enters the interpreter. `budget` refuses once the
monitor has latched, and otherwise starts the instruction count afresh. -/
inductive Preparation where
  | pass
  | refuse (e : ScriptError)
  | panic
  | budget

/-- Work that is not a callback. `park` stays until it is released or, if it listens, until the
interrupt is raised. `chain` may send its own plugin a notice and then run a callback itself.
`stop` stops the worker that runs it. -/
inductive Task where
  | park (listens : Bool)
  | chain (label : Json) (notify invoke : Option (String × Json))
  | stop

/-- Work for a plugin's interpreter. Nobody waits for what comes of a notice or a task. -/
inductive Job where
  | call (ticket : Ticket) (preparation : Preparation) (callback : String) (args : Json)
  | notice (callback : String) (args : Json)
  | task (t : Task)

def Job.ticket? : Job → Option Ticket
  | call t _ _ _ => some t
  | _ => none

/-- `wake` makes an idle worker see that it is to stop. -/
inductive Message where
  | run (job : Job)
  | wake

def Message.job? : Message → Option Job
  | run j => some j
  | wake => none

/-- How a job ends: it comes to an end of its own, which for a callback has a result, it is skipped
because its call was cancelled, or it panics outside the interpreter. -/
inductive Completion where
  | returned (r : CallResult)
  | done
  | skipped
  | panicked

end PluginSandbox
