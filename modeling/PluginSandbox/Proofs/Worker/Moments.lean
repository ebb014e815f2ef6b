import Mathlib.Logic.Relation
import PluginSandbox.Proofs.Worker.Results

/-!
# Moments of a call

A worker as it carries out a job, in steps as fine as anybody can tell them
apart by its interrupt: others act between any two of them, also while a
preparation is at work and while the interpreter is. Whatever a chronicle does
is done in such steps.
-/

namespace PluginSandbox

variable {σ : Type}

/-! ## Steps -/

inductive Phase where
  | outside
  | admitted (t : Ticket)
  | preparing (t : Ticket)
  | inside (t : Ticket)

def Phase.call? : Phase → Option Ticket
  | preparing t | inside t => some t
  | _ => none

def Phase.ticket? : Phase → Option Ticket
  | outside => none
  | admitted t | preparing t | inside t => some t

/-- A worker at some moment, and the jobs that have ended on it, in the order in which they did. -/
structure Moment where
  worker : Worker
  phase : Phase := .outside
  ended : List (Job × Completion) := []

namespace Moment

def conclude (m : Moment) (job : Job) (comp : Completion) : Moment where
  worker := m.worker.complete job comp
  ended := m.ended ++ [(job, comp)]

/-- What may happen next. A job may be sent whenever the queue takes it, a preparation and an
interpreter may take any end, and so may a job that is no call. The token of a call is looked at
before the interrupt watches it. -/
inductive Step : Moment → Moment → Prop where
  | issue (m : Moment) : Step m { m with worker := m.worker.issue }
  | send (m : Moment) (job : Job) (w : Worker) (hw : m.worker.send (.run job) = .ok w) :
      Step m { m with worker := w }
  | wake (m : Moment) (w : Worker) (h : m.worker.stopping = true) (hw : m.worker.send .wake = .ok w) :
      Step m { m with worker := w }
  | cancel (m : Moment) (t : Ticket) : Step m { m with worker := m.worker.cancel t }
  | raise (m : Moment) : Step m { m with worker := m.worker.raise }
  | turn (m : Moment) (w : Worker) (hw : m.worker.turn? = some w) : Step m { m with worker := w }
  | begin (m : Moment) (job : Job) (hs : m.worker.stage = .chosen job) :
      Step m { m with worker.stage := .running job }
  | skip (m : Moment) (t : Ticket) (preparation : Preparation) (callback : String) (args : Json)
      (hs : m.worker.stage = .running (.call t preparation callback args)) (hp : m.phase = .outside)
      (hc : m.worker.isCancelled t = true) : Step m (m.conclude (.call t preparation callback args) .skipped)
  | proceed (m : Moment) (t : Ticket) (preparation : Preparation) (callback : String) (args : Json)
      (hs : m.worker.stage = .running (.call t preparation callback args)) (hp : m.phase = .outside)
      (hc : m.worker.isCancelled t = false) : Step m { m with phase := .admitted t }
  | watch (m : Moment) (t : Ticket) (hp : m.phase = .admitted t) :
      Step m { m with worker := m.worker.watch t, phase := .preparing t }
  | enter (m : Moment) (t : Ticket) (hp : m.phase = .preparing t) : Step m { m with phase := .inside t }
  | refuse (m : Moment) (t : Ticket) (preparation : Preparation) (callback : String) (args : Json)
      (hs : m.worker.stage = .running (.call t preparation callback args)) (hp : m.phase = .preparing t)
      (e : ScriptError) : Step m (m.conclude (.call t preparation callback args) (.returned (.error e)))
  | panic (m : Moment) (t : Ticket) (preparation : Preparation) (callback : String) (args : Json)
      (hs : m.worker.stage = .running (.call t preparation callback args)) (hp : m.phase = .preparing t) :
      Step m (m.conclude (.call t preparation callback args) .panicked)
  | return (m : Moment) (t : Ticket) (preparation : Preparation) (callback : String) (args : Json)
      (hs : m.worker.stage = .running (.call t preparation callback args)) (hp : m.phase = .inside t)
      (r : CallResult) : Step m (m.conclude (.call t preparation callback args) (.returned r))
  | finish (m : Moment) (job : Job) (hjob : job.ticket? = none) (hs : m.worker.stage = .running job)
      (hp : m.phase = .outside) (comp : Completion) : Step m (m.conclude job comp)

abbrev Steps : Moment → Moment → Prop :=
  Relation.ReflTransGen Step

def start (plugin : String) (capacity : Nat) : Moment where
  worker := .start plugin capacity

def Reachable (m : Moment) : Prop :=
  ∃ plugin capacity, Steps (start plugin capacity) m

end Moment

/-! ## Chronicles -/

/-- A job that waits on the worker is inside the interpreter if it is a call. -/
def Stage.phase : Stage → Phase
  | running (.call t _ _ _) => .inside t
  | _ => .outside

def Chronicle.moment (c : Chronicle σ) : Moment where
  worker := c.now.worker
  phase := c.now.worker.stage.phase
  ended := c.ended

namespace Worker

theorem send_running {w w' : Worker} {m : Message} (h : w.send m = .ok w') (job : Job) :
    ({ w with stage := .running job } : Worker).send m = .ok { w' with stage := .running job } := by
  have hopen := isClosed_of_send h
  unfold send at h
  rw [hopen, if_neg Bool.false_ne_true] at h
  split at h
  · cases h
  next hroom =>
    cases h
    exact (if_neg Bool.false_ne_true).trans (if_neg hroom)

theorem complete_running (w : Worker) (job : Job) (comp : Completion) :
    ({ w with stage := .running job } : Worker).complete job comp = w.complete job comp := by
  cases comp with
  | returned r => cases job <;> rfl
  | _ => rfl

theorem phase_of_turn? {w w' : Worker} (h : w.turn? = some w') :
    w.stage.phase = .outside ∧ w'.stage.phase = .outside := by
  cases turns_of_turn? h with
  | discarded m rest hs =>
    rw [discard, hs]
    exact ⟨rfl, rfl⟩
  | taken _ _ hs | chose _ hs | woken hs | dropped _ hs | closed hs | gone hs =>
    rw [hs]
    exact ⟨rfl, rfl⟩

end Worker

namespace Incarnation

variable (interp : Interpreter σ) (scene : Scene)

theorem completion_enter (i : Incarnation σ) (callback : String) (args : Json) :
    (i.enter interp scene callback args).1 = none ∨
      ∃ r, (i.enter interp scene callback args).1 = some (.returned r) := by
  unfold enter
  dsimp only
  split
  · exact .inr ⟨_, rfl⟩
  · exact .inl rfl

end Incarnation

namespace Moment

variable (interp : Interpreter σ) (scene : Scene) (ended : List (Job × Completion))

def busy (w : Worker) (job : Job) (phase : Phase) : Moment where
  worker := { w with stage := .running job }
  phase := phase
  ended := ended

def outcome (job : Job) : Option Completion × Incarnation σ → Moment
  | (some comp, i) => (busy ended i.worker job .outside).conclude job comp
  | (none, i) => busy ended i.worker job (Stage.running job).phase

variable {ended}

theorem steps_send {w w' : Worker} {sent : Job} (h : w.send (.run sent) = .ok w') (job : Job) (phase : Phase) :
    Steps (busy ended w job phase) (busy ended w' job phase) :=
  .single (.send _ sent _ (Worker.send_running h job))

theorem steps_stop (w : Worker) (job : Job) (phase : Phase) :
    Steps (busy ended w job phase) (busy ended w.stop job phase) := by
  have hraised : Steps (busy ended w job phase) (busy ended w.raise job phase) := .single (.raise _)
  unfold Worker.stop
  split
  next w' h => exact hraised.tail (.wake _ _ rfl (Worker.send_running h job))
  next => exact hraised

theorem steps_enter (i : Incarnation σ) (t : Ticket) (preparation : Preparation) (callback : String)
    (args : Json) :
    Steps (busy ended i.worker (.call t preparation callback args) (.preparing t))
      (outcome ended (.call t preparation callback args) (i.enter interp scene callback args)) := by
  have hinside : Steps (busy ended i.worker (.call t preparation callback args) (.preparing t))
      (busy ended i.worker (.call t preparation callback args) (.inside t)) := .single (.enter _ t rfl)
  have hworker := i.worker_enter interp scene callback args
  have hend := i.completion_enter interp scene callback args
  generalize i.enter interp scene callback args = run at hworker hend ⊢
  obtain ⟨comp, i'⟩ := run
  -- the interpreter leaves its worker alone, so its end or its wait is all there is to say
  rw [← (hworker : i'.worker = i.worker)] at hinside ⊢
  rcases hend with rfl | ⟨r, rfl⟩
  · exact hinside
  · exact hinside.tail (.return _ t preparation callback args rfl rfl r)

theorem steps_watch (i : Incarnation σ) {t : Ticket} (hkept : i.worker.isCancelled t = false)
    (preparation : Preparation) (callback : String) (args : Json) :
    Steps (busy ended i.worker (.call t preparation callback args) .outside)
      (busy ended (i.worker.watch t) (.call t preparation callback args) (.preparing t)) :=
  .tail (.single (.proceed _ t preparation callback args rfl rfl hkept)) (.watch _ t rfl)

theorem steps_apart (i : Incarnation σ) {job : Job} (hjob : job.ticket? = none)
    {oc : Option Completion × Incarnation σ}
    (hworker : Steps (busy ended i.worker job .outside) (busy ended oc.2.worker job .outside)) :
    Steps (busy ended i.worker job .outside) (outcome ended job oc) := by
  obtain ⟨comp, i'⟩ := oc
  cases comp with
  | none =>
    cases job with
    | call => cases hjob
    | notice => exact hworker
    | task => exact hworker
  | some comp => exact hworker.tail (.finish _ job hjob rfl rfl comp)

theorem steps_sendOwn (i : Incarnation σ) (notice : Option (String × Json)) (job : Job) :
    Steps (busy ended i.worker job .outside) (busy ended (i.sendOwn notice).worker job .outside) := by
  unfold Incarnation.sendOwn
  split
  · exact .refl
  · split
    next w hw => exact steps_send (Worker.submit_eq_ok hw).2 job .outside
    next => exact .refl

variable (ended) in
theorem steps_run (i : Incarnation σ) (job : Job) :
    Steps (busy ended i.worker job .outside) (outcome ended job (i.run interp scene job)) := by
  have hruns := i.runs interp scene job
  generalize i.run interp scene job = r at hruns ⊢
  cases hruns with
  | skipped t preparation callback args hcancelled =>
    exact .single (.skip _ t preparation callback args rfl rfl hcancelled)
  | refused t e callback args hkept =>
    exact (steps_watch i hkept _ callback args).tail (.refuse _ t _ callback args rfl rfl e)
  | panicked t callback args hkept =>
    exact (steps_watch i hkept _ callback args).tail (.panic _ t _ callback args rfl rfl)
  | overBudget t callback args reason hkept =>
    exact (steps_watch i hkept _ callback args).tail (.refuse _ t _ callback args rfl rfl (.resourceLimit reason))
  | passed t callback args hkept =>
    exact (steps_watch i hkept _ callback args).trans
      (steps_enter interp scene { i with worker := i.worker.watch t } t _ callback args)
  | budgeted t callback args hkept =>
    exact (steps_watch i hkept _ callback args).trans
      (steps_enter interp scene
        { i with
          worker := i.worker.watch t
          sandbox.monitor := i.sandbox.monitor.resetInstructions } t _ callback args)
  | noticed =>
    refine steps_apart i rfl ?_
    rw [Incarnation.worker_enter]
  | parked => exact steps_apart i rfl .refl
  | stopped => exact steps_apart i rfl (steps_stop _ _ _)
  | done label notice => exact steps_apart i rfl (steps_sendOwn (i.record (.job label)) notice _)
  | chained label notice =>
    refine steps_apart i rfl ?_
    rw [Incarnation.worker_enter]
    exact steps_sendOwn (i.record (.job label)) notice _

end Moment

namespace Chronicle

variable {interp : Interpreter σ} {c c' : Chronicle σ}

theorem moment_of_chosen {job : Job} (hs : c.now.worker.stage = .chosen job) :
    Moment.Step c.moment (Moment.busy c.ended c.now.worker job .outside) := by
  have hphase : c.moment.phase = .outside := by rw [moment, hs]; rfl
  have hbegun := Moment.Step.begin c.moment job hs
  rw [hphase] at hbegun
  exact hbegun

theorem moment_of_running {job : Job} (hs : c.now.worker.stage = .running job) :
    c.moment = Moment.busy c.ended c.now.worker job (Stage.running job).phase := by
  unfold moment Moment.busy
  rw [← hs]

theorem moments_of_conclude {w : Worker} {job : Job} {comp : Completion} (phase : Phase)
    (hworker : c'.now.worker = w.complete job comp) (hended : c'.ended = c.ended ++ [(job, comp)])
    (hsteps : Moment.Steps c.moment ((Moment.busy c.ended w job phase).conclude job comp)) :
    Moment.Steps c.moment c'.moment := by
  have hconclude : c'.moment = (Moment.busy c.ended w job phase).conclude job comp := by
    unfold moment Moment.conclude Moment.busy
    obtain ⟨current, hidle⟩ := w.complete_eq job comp
    rw [hworker, hended, Worker.complete_running, hidle]
    rfl
  rw [hconclude]
  exact hsteps

theorem moments_of_awoken {job : Job} {comp : Completion} {i : Incarnation σ}
    (hs : c.now.worker.stage = .running job) (ha : c.now.awake? interp job = some (comp, i)) :
    Moment.Step c.moment (c.moment.conclude job comp) := by
  unfold Incarnation.awake? at ha
  have hm := moment_of_running hs
  cases job with
  | call t preparation callback args =>
    dsimp only at ha
    split at ha
    · cases ha
      exact .return _ t preparation callback args hs (congrArg Moment.phase hm) _
    · cases ha
  | notice | task => exact .finish _ _ rfl hs (congrArg Moment.phase hm) comp

theorem moments_of_advance {scene : Scene} {sent chosen thrown : List Job} {ended : List (Job × Completion)}
    (h : Incarnation.Advance interp scene c.now c'.now sent chosen thrown ended)
    (hended : c'.ended = c.ended ++ ended) : Moment.Steps c.moment c'.moment := by
  generalize hi : c'.now = i at h
  cases h with
  | @ended job comp i' hs hr =>
    have hrun := Moment.steps_run interp scene c.ended c.now job
    rw [hr] at hrun
    exact moments_of_conclude .outside (congrArg Incarnation.worker hi) hended (.head (moment_of_chosen hs) hrun)
  | @waits job i' hs hr =>
    have hrun := Moment.steps_run interp scene c.ended c.now job
    rw [hr] at hrun
    have hwaits : c'.moment = Moment.outcome c.ended job (none, i') := by
      rw [moment, hi, hended, List.append_nil]
      rfl
    rw [hwaits]
    exact .head (moment_of_chosen hs) hrun
  | @awoken job comp i' hs ha =>
    have hstep := moments_of_awoken hs ha
    rw [moment_of_running hs] at hstep
    have hworker : c'.now.worker = c.now.worker.complete job comp := by
      rw [hi, ← Incarnation.worker_awake? ha]
      rfl
    refine moments_of_conclude (Stage.running job).phase hworker hended ?_
    rw [moment_of_running hs]
    exact .single hstep
  | turned hw _ =>
    have hturned := Moment.Step.turn c.moment i.worker hw
    obtain ⟨hbefore, hafter⟩ := Worker.phase_of_turn? hw
    unfold moment at hturned ⊢
    rw [hbefore] at hturned ⊢
    rw [hi, hafter, hended, List.append_nil]
    exact .single hturned

/-- Every step of a chronicle is made of moments. -/
theorem Step.moments (h : Step interp c c') : Moment.Steps c.moment c'.moment := by
  cases h with
  | enlist | refuse | touch | work => exact .refl
  | enlistCall => exact .single (.issue _)
  | cancel t => exact .single (.cancel _ t)
  | raise => exact .single (.raise _)
  | send before after job w henlisted hw =>
    have hsent := Moment.Step.send c.moment job w hw
    cases Worker.send_eq_ok hw
    exact .single hsent
  | wake w hstop hw =>
    have hwoken := Moment.Step.wake c.moment w hstop hw
    cases Worker.send_eq_ok hw
    exact .single hwoken
  | release listens comp hs hcomp =>
    refine moments_of_conclude .outside rfl rfl ?_
    rw [moment_of_running hs]
    exact .single (.finish _ _ rfl rfl rfl comp)
  | advance scene i hi => exact moments_of_advance (Incarnation.advance_of_advance? hi) rfl

theorem Steps.moments (h : Steps interp c c') : Moment.Steps c.moment c'.moment := by
  induction h with
  | refl => exact .refl
  | tail _ hs ih => exact ih.trans hs.moments

theorem Reachable.moment (h : Reachable interp c) : c.moment.Reachable := by
  obtain ⟨plugin, capacity, sandbox, state, hsteps⟩ := h
  exact ⟨plugin, capacity, hsteps.moments⟩

end Chronicle

end PluginSandbox
