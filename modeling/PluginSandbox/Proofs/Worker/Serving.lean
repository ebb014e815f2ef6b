import PluginSandbox.Proofs.Worker.Acts

/-!
# Workers that serve

A worker to which only callbacks are submitted, and which nobody stops, never
leaves its loop: it closes its queue for nobody.
-/

namespace PluginSandbox

variable {σ : Type}

def Job.isCallback : Job → Bool
  | task _ => false
  | _ => true

def Message.isCallback : Message → Bool
  | run job => job.isCallback
  | wake => false

def Stage.serves : Stage → Bool
  | idle => true
  | holding m => m.isCallback
  | chosen job => job.isCallback
  | running job => job.isCallback
  | _ => false

/-- What the host does to the incarnation of a plugin as long as that is loaded. -/
def Act.isRoutine : Act σ → Bool
  | call .. | notify .. | cancel _ | reset _ | move _ => true
  | _ => false

namespace Worker

structure Serving (plugin : String) (w : Worker) : Prop where
  plugin : w.plugin = plugin
  stopping : w.stopping = false
  queue : ∀ m ∈ w.queue, m.isCallback = true
  stage : w.stage.serves = true

variable {plugin : String} {w : Worker}

theorem serving_start (plugin : String) (capacity : Nat) : (start plugin capacity).Serving plugin where
  plugin := rfl
  stopping := rfl
  queue := by simp [start]
  stage := rfl

theorem Serving.isStopped (h : w.Serving plugin) : w.isStopped = false := by
  have hopen : w.isClosed = false := by
    have hstage := h.stage
    unfold isClosed
    cases hs : w.stage <;> simp [hs, Stage.serves] at hstage ⊢
  simp [Worker.isStopped, h.stopping, hopen]

theorem Serving.submit (h : w.Serving plugin) {w' : Worker} {job : Job} (hjob : job.isCallback = true)
    (hs : w.submit job = .ok w') : w'.Serving plugin := by
  rw [send_eq_ok (submit_eq_ok hs).2]
  refine ⟨h.plugin, h.stopping, fun m hm => ?_, h.stage⟩
  rcases List.mem_append.mp hm with hm | hm
  · exact h.queue m hm
  · rw [List.mem_singleton.mp hm]
    exact hjob

theorem Serving.complete (h : w.Serving plugin) (job : Job) (c : Completion) :
    (w.complete job c).Serving plugin := by
  obtain ⟨current, hw⟩ := w.complete_eq job c
  rw [hw]
  exact ⟨h.plugin, h.stopping, h.queue, rfl⟩

theorem Serving.turn? (h : w.Serving plugin) {w' : Worker} (ht : w.turn? = some w') : w'.Serving plugin := by
  have hstage := h.stage
  cases turns_of_turn? ht with
  | taken m rest hs hq =>
    have hqueue := h.queue
    rw [hq, List.forall_mem_cons] at hqueue
    exact ⟨h.plugin, h.stopping, hqueue.2, hqueue.1⟩
  | chose job hs hflag =>
    rw [hs] at hstage
    exact ⟨h.plugin, h.stopping, h.queue, hstage⟩
  | dropped m hs hflag => cases h.stopping.symm.trans hflag
  | woken hs | closed hs | discarded _ _ hs | gone hs =>
    rw [hs] at hstage
    cases hstage

end Worker

namespace Incarnation

variable {interp : Interpreter σ} {plugin : String} {i : Incarnation σ}

variable (interp) in
/-- A callback leaves its own worker alone, but for the token that the interrupt watches. -/
theorem serving_run (h : i.worker.Serving plugin) (scene : Scene) {job : Job} (hjob : job.isCallback = true) :
    (i.run interp scene job).2.worker.Serving plugin := by
  have hwatch (t : Ticket) : (i.worker.watch t).Serving plugin := ⟨h.plugin, h.stopping, h.queue, h.stage⟩
  have hruns := i.runs interp scene job
  generalize i.run interp scene job = r at hruns ⊢
  cases hruns with
  | skipped => exact h
  | refused t | panicked t | overBudget t => exact hwatch t
  | passed t | budgeted t =>
    rw [worker_enter]
    exact hwatch t
  | noticed =>
    rw [worker_enter]
    exact h
  | parked | stopped | done | chained => cases hjob

theorem serving_advance (h : i.worker.Serving plugin) {scene : Scene} {i' : Incarnation σ}
    {sent chosen thrown : List Job} {ended : List (Job × Completion)}
    (hi : Advance interp scene i i' sent chosen thrown ended) : i'.worker.Serving plugin := by
  have hstage := h.stage
  cases hi with
  | ended hs hr =>
    rw [hs] at hstage
    have hrun := serving_run interp h scene hstage
    rw [hr] at hrun
    exact hrun.complete _ _
  | waits hs hr =>
    rw [hs] at hstage
    have hrun := serving_run interp h scene hstage
    rw [hr] at hrun
    exact ⟨hrun.plugin, hrun.stopping, hrun.queue, hstage⟩
  | awoken hs ha =>
    have hsame := worker_awake? ha
    dsimp only at hsame
    refine Worker.Serving.complete ?_ _ _
    rw [hsame]
    exact h
  | turned hw _ => exact h.turn? hw

theorem serving_act (h : i.worker.Serving plugin) {a : Act σ} (ha : a.isRoutine = true) :
    (i.act interp a).worker.Serving plugin := by
  cases a with
  | call callback args =>
    rcases i.act_call interp callback args with ⟨t, w, hc, hi⟩ | hi
    · have hissued : i.worker.issue.Serving plugin := ⟨h.plugin, h.stopping, h.queue, h.stage⟩
      rw [hi]
      exact hissued.submit rfl (Worker.call_eq_ok hc).2
    · rw [hi]; exact h
  | notify callback args =>
    rcases i.act_notify interp callback args with ⟨w, hn, hi⟩ | hi
    · rw [hi]
      exact h.submit rfl hn
    · rw [hi]; exact h
  | cancel t => exact ⟨h.plugin, h.stopping, h.queue, h.stage⟩
  | reset now => exact h
  | move scene =>
    rcases i.act_move interp scene with ⟨i', hm, hi⟩ | hi
    · rw [hi]
      exact serving_advance h (advance_of_advance? hm)
    · rw [hi]; exact h
  | _ => cases ha

theorem serving_after (h : i.worker.Serving plugin) {acts : List (Act σ)}
    (hacts : ∀ a ∈ acts, a.isRoutine = true) : (i.after interp acts).worker.Serving plugin := by
  induction acts generalizing i with
  | nil => exact h
  | cons a acts ih =>
    rw [List.forall_mem_cons] at hacts
    exact ih (serving_act h hacts.1) hacts.2

end Incarnation

end PluginSandbox
