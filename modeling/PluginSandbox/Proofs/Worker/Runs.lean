import PluginSandbox.Incarnation

/-!
# Turns and runs

What a worker can do in a turn of its loop, how a job is run, and how one that
waits ends. A job is skipped, or it is over before the interpreter is entered,
or it enters the interpreter, once and last. What holds of every turn and of
every job is read from these lists of cases.
-/

namespace PluginSandbox

/-! ## Turns of the loop -/

namespace Worker

inductive Turns (w : Worker) : Worker → Prop where
  | taken (m : Message) (rest : List Message) (hs : w.stage = .idle) (hq : w.queue = m :: rest) :
      Turns w { w with stage := .holding m, queue := rest }
  | chose (job : Job) (hs : w.stage = .holding (.run job)) (hflag : w.stopping = false) :
      Turns w { w with stage := .chosen job }
  | woken (hs : w.stage = .holding .wake) (hflag : w.stopping = false) : Turns w { w with stage := .leaving }
  | dropped (m : Message) (hs : w.stage = .holding m) (hflag : w.stopping = true) :
      Turns w { w.discard m with stage := .leaving }
  | closed (hs : w.stage = .leaving) : Turns w { w with stage := .closing }
  | discarded (m : Message) (rest : List Message) (hs : w.stage = .closing) (hq : w.queue = m :: rest) :
      Turns w ({ w with queue := rest }.discard m)
  | gone (hs : w.stage = .closing) (hq : w.queue = []) : Turns w { w with stage := .gone }

theorem turns_of_turn? {w w' : Worker} (h : w.turn? = some w') : w.Turns w' := by
  unfold turn? at h
  split at h
  next m rest hs hq =>
    cases h
    exact .taken m rest hs hq
  next m hs =>
    cases h
    unfold judge
    by_cases hflag : w.stopping = true
    · rw [if_pos hflag]
      exact .dropped m hs hflag
    · rw [if_neg hflag]
      have hopen : w.stopping = false := eq_false_of_ne_true hflag
      cases m with
      | wake => exact .woken hs hopen
      | run job => exact .chose job hs hopen
  next hs =>
    cases h
    exact .closed hs
  next m rest hs hq =>
    cases h
    exact .discarded m rest hs hq
  next hs hq =>
    cases h
    exact .gone hs hq
  next => cases h

end Worker

namespace Incarnation

variable {σ : Type} (interp : Interpreter σ) (scene : Scene) (i : Incarnation σ)

/-! ## Jobs from their start -/

/-- A run of a job, with the end or the wait it gets to and what it leaves. -/
inductive Runs : Job → Option Completion × Incarnation σ → Prop where
  | skipped (t : Ticket) (preparation : Preparation) (callback : String) (args : Json)
      (hcancelled : i.worker.isCancelled t = true) :
      Runs (.call t preparation callback args) (some .skipped, i)
  | refused (t : Ticket) (e : ScriptError) (callback : String) (args : Json)
      (hkept : i.worker.isCancelled t = false) :
      Runs (.call t (.refuse e) callback args)
        (some (.returned (.error e)), { i with worker := i.worker.watch t })
  | panicked (t : Ticket) (callback : String) (args : Json) (hkept : i.worker.isCancelled t = false) :
      Runs (.call t .panic callback args) (some .panicked, { i with worker := i.worker.watch t })
  | overBudget (t : Ticket) (callback : String) (args : Json) (reason : String)
      (hkept : i.worker.isCancelled t = false) (hlatched : i.sandbox.monitor.reason? = some reason) :
      Runs (.call t .budget callback args)
        (some (.returned (.error (.resourceLimit reason))), { i with worker := i.worker.watch t })
  | passed (t : Ticket) (callback : String) (args : Json) (hkept : i.worker.isCancelled t = false) :
      Runs (.call t .pass callback args)
        (enter interp scene { i with worker := i.worker.watch t } callback args)
  | budgeted (t : Ticket) (callback : String) (args : Json) (hkept : i.worker.isCancelled t = false)
      (hlatched : i.sandbox.monitor.reason? = none) :
      Runs (.call t .budget callback args)
        (enter interp scene
          { i with
            worker := i.worker.watch t
            sandbox.monitor := i.sandbox.monitor.resetInstructions } callback args)
  | noticed (callback : String) (args : Json) :
      Runs (.notice callback args) (i.enter interp scene callback args)
  | parked (listens : Bool) : Runs (.task (.park listens)) (none, i)
  | stopped : Runs (.task .stop) (some .done, { i with worker := i.worker.stop })
  | done (label : Json) (notice : Option (String × Json)) :
      Runs (.task (.chain label notice none)) (some .done, (i.record (.job label)).sendOwn notice)
  | chained (label : Json) (notice : Option (String × Json)) (callback : String) (args : Json) :
      Runs (.task (.chain label notice (some (callback, args))))
        (((i.record (.job label)).sendOwn notice).enter interp scene callback args)

theorem runs (job : Job) : Runs interp scene i job (i.run interp scene job) := by
  cases job with
  | call t preparation callback args =>
    unfold run
    dsimp only
    split
    next hc => exact .skipped t preparation callback args hc
    next hc =>
      have hkept : i.worker.isCancelled t = false := Bool.eq_false_iff.mpr hc
      cases preparation with
      | pass => exact .passed t callback args hkept
      | refuse e => exact .refused t e callback args hkept
      | panic => exact .panicked t callback args hkept
      | budget =>
        dsimp only
        split
        next reason hreason => exact .overBudget t callback args reason hkept hreason
        next hreason => exact .budgeted t callback args hkept hreason
  | notice callback args => exact .noticed callback args
  | task task =>
    cases task with
    | park listens => exact .parked listens
    | stop => exact .stopped
    | chain label notice invoke =>
      cases invoke with
      | none => exact .done label notice
      | some invoke => exact .chained label notice invoke.1 invoke.2

/-! ## Jobs after an interrupt -/

inductive Awakes : Job → Completion × Incarnation σ → Prop where
  | parked (listens : Bool) : Awakes (.task (.park listens)) (.done, i)
  | inside (job : Job) :
      Awakes job
        (.returned (interp.awake i.state).1.result,
          { i with state := (interp.awake i.state).2 }.record .interrupted)

variable {interp i}

theorem awakes_of_awake? {job : Job} {r : Completion × Incarnation σ} (h : i.awake? interp job = some r) :
    Awakes interp i job r := by
  unfold awake? at h
  split at h
  next listens =>
    split at h
    · cases h
      exact .parked listens
    · cases h
  next =>
    split at h
    · cases h
      exact .inside job
    · cases h

end Incarnation

end PluginSandbox
