import PluginSandbox.Proofs.Monitor.Budget
import PluginSandbox.Proofs.Worker.Acts
import PluginSandbox.Proofs.Worker.ExactlyOnce
import PluginSandbox.Proofs.Worker.Sandboxes

/-!
# The start of a call

A call that starts is skipped if it was cancelled and refused if the monitor
has latched; otherwise it enters the interpreter with a budget of its own, on
which nothing but its own spending counts.
-/

namespace PluginSandbox

variable {σ : Type}

/-- The interpreter reaches the monitor through its operations only. -/
def Interpreter.Accountable (interp : Interpreter σ) : Prop :=
  ∀ scene heard callback args box s, ∃ ops : List Monitor.Op,
    (interp.invoke scene heard callback args box s).sandbox.monitor = box.monitor.after ops

/-- What the act does to the monitor, short of what a callback does that begins with it. -/
def Act.op? : Act σ → Option Monitor.Op
  | spend op => some op
  | reset now => some (.reset now)
  | setLimits limits now => some (.setLimits limits now)
  | _ => none

theorem Worker.isCancelled_iff {w : Worker} {t : Ticket} : w.isCancelled t = true ↔ t ∈ w.cancelled :=
  List.contains_iff_mem

namespace Incarnation

section
variable {interp : Interpreter σ} {i : Incarnation σ}

theorem act_move_of_chosen {job : Job} (h : i.worker.stage = .chosen job) (scene : Scene) :
    i.act interp (.move scene) = i.begin interp scene job := by
  rw [act, advance?, h]
  rfl

/-! ## The three ways to start -/

section
variable (interp) (i) (scene : Scene) (t : Ticket) (callback : String) (args : Json)

def conduct : Conduct σ :=
  interp.invoke scene ((i.worker.watch t).interrupted && interp.hears i.state) callback args i.sandbox.afresh
    i.state

structure Refuses (b : Breach) (i' : Incarnation σ) : Prop where
  events : i'.events = i.events
  sandbox : i'.sandbox = i.sandbox
  state : i'.state = i.state
  result : i'.worker.results.lookup t = some (.error (.resourceLimit b.reason))

structure Enters (i' : Incarnation σ) : Prop where
  uncounted : i.sandbox.afresh.monitor.instructions = 0
  events : i'.events = i.events ++ [.entered callback args]
  sandbox : i'.sandbox = (conduct interp i scene t callback args).sandbox
  state : i'.state = (conduct interp i scene t callback args).state
  stage : i'.worker.stage =
    match conduct interp i scene t callback args with
    | .ends .. => .idle
    | .waits .. => .running (.call t .budget callback args)

variable {interp i t}

theorem begin_of_cancelled (h : t ∈ i.worker.cancelled) :
    i.begin interp scene (.call t .budget callback args) = { i with worker := i.worker.finish } := by
  unfold begin
  rw [run_of_cancelled h]
  rfl

theorem run_of_latched (h : t ∉ i.worker.cancelled) {b : Breach} (hb : i.sandbox.monitor.latch = some b) :
    i.run interp scene (.call t .budget callback args) =
      (some (.returned (.error (.resourceLimit b.reason))), { i with worker := i.worker.watch t }) := by
  have hreason : i.sandbox.monitor.reason? = some b.reason := by rw [Monitor.reason?, hb]; rfl
  unfold run
  dsimp only
  rw [if_neg (Worker.isCancelled_iff.not.mpr h), hreason]

theorem run_of_unlatched (h : t ∉ i.worker.cancelled) (hb : i.sandbox.monitor.latch = none) :
    i.run interp scene (.call t .budget callback args) =
      ({ i with worker := i.worker.watch t, sandbox := i.sandbox.afresh } : Incarnation σ).enter interp scene
        callback args := by
  have hreason : i.sandbox.monitor.reason? = none := by rw [Monitor.reason?, hb]; rfl
  unfold run
  dsimp only
  rw [if_neg (Worker.isCancelled_iff.not.mpr h), hreason]
  rfl

theorem refuses_begin (h : t ∉ i.worker.cancelled) {b : Breach} (hb : i.sandbox.monitor.latch = some b) :
    i.Refuses t b (i.begin interp scene (.call t .budget callback args)) := by
  unfold begin
  rw [run_of_latched scene callback args h hb]
  exact ⟨rfl, rfl, rfl, List.lookup_cons_self⟩

theorem enters_begin (h : t ∉ i.worker.cancelled) (hb : i.sandbox.monitor.latch = none) :
    i.Enters interp scene t callback args (i.begin interp scene (.call t .budget callback args)) := by
  have henter : ({ i with worker := i.worker.watch t, sandbox := i.sandbox.afresh } : Incarnation σ).enter interp
      scene callback args =
      match conduct interp i scene t callback args with
      | .ends o box s =>
        (some (.returned o.result), ⟨box, s, i.worker.watch t, i.events ++ [.entered callback args]⟩)
      | .waits box s => (none, ⟨box, s, i.worker.watch t, i.events ++ [.entered callback args]⟩) := rfl
  unfold begin
  rw [run_of_unlatched scene callback args h hb, henter]
  cases hc : conduct interp i scene t callback args with
  | ends o box s =>
    exact ⟨rfl, rfl, congrArg Conduct.sandbox hc.symm, congrArg Conduct.state hc.symm, by rw [hc]; rfl⟩
  | waits box s =>
    exact ⟨rfl, rfl, congrArg Conduct.sandbox hc.symm, congrArg Conduct.state hc.symm, by rw [hc]⟩

end

/-! ## The monitor from act to act -/

theorem sandbox_act_call (callback : String) (args : Json) :
    (i.act interp (.call callback args)).sandbox = i.sandbox := by
  rcases i.act_call interp callback args with ⟨t, w, _, hi⟩ | hi
  · rw [hi]
  · rw [hi]

theorem sandbox_act_notify (callback : String) (args : Json) :
    (i.act interp (.notify callback args)).sandbox = i.sandbox := by
  rcases i.act_notify interp callback args with ⟨w, _, hi⟩ | hi
  · rw [hi]
  · rw [hi]

theorem sandbox_act_finish (r : CallResult) (state : σ) :
    (i.act interp (.finish r state)).sandbox = i.sandbox := by
  rcases i.act_finish interp r state with ⟨job, _, hi⟩ | hi
  · rw [hi]
    rfl
  · rw [hi]

theorem sandbox_act_move_of_running {job : Job} (h : i.worker.stage = .running job) (scene : Scene) :
    (i.act interp (.move scene)).sandbox = i.sandbox := by
  rw [act, advance?, h]
  dsimp only
  cases ha : i.awake? interp job with
  | none => rfl
  | some r => exact sandbox_awake? ha

/-- While a job runs the monitor changes by what is spent and reset, and not by what is queued. -/
theorem monitor_act_of_running {job : Job} (h : i.worker.stage = .running job) (a : Act σ) :
    (i.act interp a).sandbox.monitor = i.sandbox.monitor.after a.op?.toList := by
  cases a with
  | call callback args => exact congrArg Sandbox.monitor (sandbox_act_call callback args)
  | notify callback args => exact congrArg Sandbox.monitor (sandbox_act_notify callback args)
  | finish r state => exact congrArg Sandbox.monitor (sandbox_act_finish r state)
  | move scene => exact congrArg Sandbox.monitor (sandbox_act_move_of_running h scene)
  | spend op =>
    rw [act, h]
    rfl
  | _ => rfl

def RunsThrough (interp : Interpreter σ) (i : Incarnation σ) (job : Job) (acts : List (Act σ)) : Prop :=
  ∀ n < acts.length, (i.after interp (acts.take n)).worker.stage = .running job

theorem monitor_after_of_running {job : Job} {acts : List (Act σ)} (h : i.RunsThrough interp job acts) :
    (i.after interp acts).sandbox.monitor = i.sandbox.monitor.after (acts.filterMap Act.op?) := by
  induction acts generalizing i with
  | nil => rfl
  | cons a acts ih =>
    have hfirst : i.worker.stage = .running job := h 0 (Nat.succ_pos _)
    have hrest : (i.act interp a).RunsThrough interp job acts := fun n hn => h (n + 1) (Nat.succ_lt_succ hn)
    have hops : (a :: acts).filterMap Act.op? = a.op?.toList ++ acts.filterMap Act.op? := by
      rw [List.filterMap_cons]
      cases a.op? <;> rfl
    calc (i.after interp (a :: acts)).sandbox.monitor
        = (i.act interp a).sandbox.monitor.after (acts.filterMap Act.op?) := ih hrest
      _ = i.sandbox.monitor.after ((a :: acts).filterMap Act.op?) := by
        rw [monitor_act_of_running hfirst, hops, Monitor.after_append]

section
variable (haccountable : interp.Accountable)
include haccountable

theorem mirrored_act (h : i.sandbox.monitor.Mirrored) (a : Act σ) :
    (i.act interp a).sandbox.monitor.Mirrored := by
  cases a with
  | call callback args => exact (sandbox_act_call callback args).symm ▸ h
  | notify callback args => exact (sandbox_act_notify callback args).symm ▸ h
  | finish r state => exact (sandbox_act_finish r state).symm ▸ h
  | setLimits limits now => exact h.perform (.setLimits limits now)
  | spend op =>
    rcases i.act_spend interp op with ⟨job, _, hi⟩ | hi
    · rw [hi]
      exact h.perform op
    · rw [hi]
      exact h
  | move scene =>
    rcases i.act_move interp scene with ⟨i', ha, hi⟩ | hi
    · rw [hi]
      refine sandbox_advance? (fun box => box.monitor.Mirrored) ?_ ?_ scene h ha
      · exact fun _ hbox => hbox
      · intro scene heard callback args box s hbox
        obtain ⟨ops, hops⟩ := haccountable scene heard callback args box s
        rw [hops]
        exact hbox.after ops
    · rw [hi]
      exact h
  | _ => exact h

theorem mirrored_after (h : i.sandbox.monitor.Mirrored) (acts : List (Act σ)) :
    (i.after interp acts).sandbox.monitor.Mirrored := by
  induction acts generalizing i with
  | nil => exact h
  | cons a acts ih => exact ih (mirrored_act haccountable h a)

end

/-! ## The budget of a call -/

/-- The instructions of a call are counted from its start, so if it spends no more than the limit
then at no time is it the limit of instructions that latches the monitor. -/
theorem Enters.unbroken {scene : Scene} {t : Ticket} {callback : String} {args : Json} {i' : Incarnation σ}
    (h : i.Enters interp scene t callback args i') (hm : i.sandbox.monitor.Mirrored)
    (hb : i.sandbox.monitor.latch = none) {ops : List Monitor.Op}
    (hops : (conduct interp i scene t callback args).sandbox.monitor = i.sandbox.afresh.monitor.after ops)
    {acts : List (Act σ)} (hacts : i'.RunsThrough interp (.call t .budget callback args) acts)
    (hkeeps : ∀ op ∈ ops ++ acts.filterMap Act.op?, op.keepsLimits = true)
    (hroom : i.sandbox.monitor.limits.instructions = 0 ∨
      Monitor.cost (ops ++ acts.filterMap Act.op?) ≤ i.sandbox.monitor.limits.instructions.toNat) :
    (i'.after interp acts).sandbox.monitor = i.sandbox.afresh.monitor.after (ops ++ acts.filterMap Act.op?) ∧
      ∀ done, done <+: ops ++ acts.filterMap Act.op? →
        (i.sandbox.afresh.monitor.after done).latch ≠ some .instructions := by
  constructor
  · rw [monitor_after_of_running hacts, h.sandbox, hops, Monitor.after_append]
  · intro done hdone
    obtain ⟨rest, hrest⟩ := hdone
    have hstart : i.sandbox.afresh.monitor.Within i.sandbox.monitor.limits.instructions 0 := by
      refine ⟨congrArg Ceilings.instructions hm, Nat.le_refl _, ?_⟩
      show i.sandbox.monitor.latch ≠ some .instructions
      rw [hb]
      exact fun hnone => by cases hnone
    rw [← hrest] at hkeeps hroom
    rw [Monitor.cost_append] at hroom
    refine (hstart.after (fun op hop => hkeeps op (List.mem_append_left _ hop)) ?_).unbroken
    exact hroom.imp_right (by omega)

end

end Incarnation

end PluginSandbox
