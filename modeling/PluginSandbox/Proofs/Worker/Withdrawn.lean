import PluginSandbox.Proofs.Worker.Lived
import PluginSandbox.Proofs.Worker.Order
import PluginSandbox.Proofs.Worker.Sandboxes

/-!
# Incarnations that are withdrawn

Once its worker is stopped an incarnation chooses no job any more. Once its
sandbox is wiped it holds no capability, whatever else happens to it, until
somebody grants it one.
-/

namespace PluginSandbox

variable {σ : Type}

/-! ## Stopped workers -/

namespace Worker

theorem stopping_stop (w : Worker) : w.stop.stopping = true := by
  unfold stop
  split
  next w' h =>
    rw [send_eq_ok h]
    rfl
  next => rfl

theorem underway_of_turn? {w w' : Worker} (h : w.turn? = some w') : w.stage.underway = [] := by
  cases turns_of_turn? h with
  | taken _ _ hs | chose _ hs | woken hs | dropped _ hs | closed hs | discarded _ _ hs | gone hs =>
    rw [hs]
    rfl

theorem not_chosen_of_turn? {w w' : Worker} (hstop : w.stopping = true) (h : w.turn? = some w') (job : Job) :
    w'.stage ≠ .chosen job := by
  have hm := moves_turn? h
  have hunder := hm.underway
  rw [underway_of_turn? h, (hm.stopping hstop).2] at hunder
  intro hs
  rw [hs] at hunder
  cases hunder

theorem not_submit_of_stopping {w w' : Worker} (hstop : w.stopping = true) {job : Job} : w.submit job ≠ .ok w' := by
  intro hs
  have hopen := (submit_eq_ok hs).1
  rw [hstop] at hopen
  cases hopen

end Worker

namespace Incarnation

variable {interp : Interpreter σ} {i j k : Incarnation σ}

structure Shut (i : Incarnation σ) : Prop where
  stopping : i.worker.stopping = true
  unchosen : ∀ job, i.worker.stage ≠ .chosen job

theorem shut_complete (h : i.worker.stopping = true) (job : Job) (c : Completion) : (i.complete job c).Shut := by
  obtain ⟨current, hcomplete⟩ := i.worker.complete_eq job c
  unfold complete
  rw [hcomplete]
  exact ⟨h, fun _ hs => by cases hs⟩

theorem shut_begin (h : i.worker.stopping = true) (scene : Scene) (job : Job) : (i.begin interp scene job).Shut := by
  have hstop := (grows_run interp scene i job).stopping h
  unfold begin
  split
  next c j hr =>
    rw [hr] at hstop
    exact shut_complete hstop job c
  next j hr =>
    rw [hr] at hstop
    exact ⟨hstop, fun _ hs => by cases hs⟩

/-- A job that was chosen before the worker was stopped begins with the next move. -/
theorem shut_advance? (h : i.worker.stopping = true) {scene : Scene} (hi : i.advance? interp scene = some j) :
    j.Shut := by
  unfold advance? at hi
  split at hi
  next job _ =>
    cases hi
    exact shut_begin h scene job
  next job _ =>
    obtain ⟨r, hr, rfl⟩ := Option.map_eq_some_iff.mp hi
    exact shut_complete (worker_awake? hr ▸ h) job r.1
  next =>
    obtain ⟨w, hw, rfl⟩ := Option.map_eq_some_iff.mp hi
    have hshut : Shut { i with worker := w } :=
      ⟨((Worker.moves_turn? hw).stopping h).1, Worker.not_chosen_of_turn? h hw⟩
    split
    · exact ⟨hshut.stopping, hshut.unchosen⟩
    · exact hshut

/-! ## Rest -/

/-- The steps from `i` lead on to `j`, which is shut, and leave the grants alone. -/
structure Rests (interp : Interpreter σ) (i j : Incarnation σ) : Prop where
  leads : i.LeadsTo interp j
  shut : j.Shut
  checker : j.sandbox.checker = i.sandbox.checker

theorem Rests.refl (h : i.Shut) : i.Rests interp i :=
  ⟨.refl i, h, rfl⟩

theorem Rests.trans (a : i.Rests interp j) (b : j.Rests interp k) : i.Rests interp k :=
  ⟨a.leads.trans b.leads, b.shut, b.checker.trans a.checker⟩

theorem rests_advance? (h : i.Shut) {scene : Scene} (hi : i.advance? interp scene = some j) : i.Rests interp j := by
  refine ⟨leadsTo_advance? hi, shut_advance? h.stopping hi, ?_⟩
  unfold advance? at hi
  split at hi
  next job hs => exact absurd hs (h.unchosen job)
  next job _ =>
    obtain ⟨r, hr, rfl⟩ := Option.map_eq_some_iff.mp hi
    exact congrArg Sandbox.checker (sandbox_awake? hr)
  next =>
    obtain ⟨w, -, rfl⟩ := Option.map_eq_some_iff.mp hi
    split <;> rfl

theorem rests_advanceFor (h : i.Shut) (scene : Scene) (fuel : Nat) :
    i.Rests interp (advanceFor interp scene fuel i) := by
  induction fuel generalizing i with
  | zero => exact .refl h
  | succ fuel ih =>
    unfold advanceFor
    split
    next j hj =>
      have hmove := rests_advance? h hj
      exact hmove.trans (ih hmove.shut)
    next => exact .refl h

theorem shut_settle (h : i.worker.stopping = true) (scene : Scene) : (i.settle interp scene).Shut := by
  -- There is fuel for one move at least, and with that a job that was chosen has begun.
  unfold settle advanceFor
  split
  next j hj => exact (rests_advanceFor (shut_advance? h hj) scene _).shut
  next hnone =>
    refine ⟨h, fun job hs => ?_⟩
    simp [advance?, hs] at hnone

theorem rests_act (h : i.Shut) {a : Act σ} (ha : a.isRoutine = true) : i.Rests interp (i.act interp a) := by
  have hsame {j : Incarnation σ} (hj : j = i) : i.Rests interp j := by
    rw [hj]
    exact .refl h
  cases a with
  | call callback args =>
    rcases i.act_call interp callback args with ⟨t, w, hc, -⟩ | hi
    · have hissued : i.worker.issue.stopping = true := h.stopping
      exact absurd (Worker.call_eq_ok hc).2 (Worker.not_submit_of_stopping hissued)
    · exact hsame hi
  | notify callback args =>
    rcases i.act_notify interp callback args with ⟨w, hn, -⟩ | hi
    · exact absurd hn (Worker.not_submit_of_stopping h.stopping)
    · exact hsame hi
  | cancel t => exact ⟨i.leadsTo_cancel t, ⟨h.stopping, h.unchosen⟩, rfl⟩
  | reset now => exact ⟨i.leadsTo_touch _, ⟨h.stopping, h.unchosen⟩, rfl⟩
  | move scene =>
    rcases i.act_move interp scene with ⟨j, hj, hi⟩ | hi
    · rw [hi]
      exact rests_advance? h hj
    · exact hsame hi
  | _ => cases ha

theorem rests_after (h : i.Shut) {acts : List (Act σ)} (hacts : ∀ a ∈ acts, a.isRoutine = true) :
    i.Rests interp (i.after interp acts) := by
  induction acts generalizing i with
  | nil => exact .refl h
  | cons a acts ih =>
    rw [List.forall_mem_cons] at hacts
    have ha : i.Rests interp (i.act interp a) := rests_act h hacts.1
    exact ha.trans (ih ha.shut hacts.2)

theorem rests_release (h : i.Shut) : i.Rests interp i.release := by
  refine ⟨i.leadsTo_release, ?_, ?_⟩
  · unfold release
    split
    · exact shut_complete h.stopping _ .done
    · exact h
  · unfold release
    split <;> rfl

/-! ## Withdrawal -/

def stopped (i : Incarnation σ) : Incarnation σ :=
  { i with worker := i.worker.stop }

theorem rests_stopped (h : i.Shut) : i.Rests interp i.stopped where
  leads := i.leadsTo_stop
  shut := ⟨i.worker.stopping_stop, fun job hs => h.unchosen job (i.worker.grows_stop.stage ▸ hs)⟩
  checker := rfl

/-- `j` is what has become of `i` since its worker was stopped and its sandbox wiped. Unless it is
`bare`, something may have been granted to it since. -/
structure Withdrawn (interp : Interpreter σ) (bare : Prop) (i j : Incarnation σ) : Prop where
  leads : LeadsTo interp { i with worker := i.worker.raise } j
  shut : j.Shut
  granted : bare → j.sandbox.checker.granted = []

variable {bare : Prop}

theorem Withdrawn.rests (h : i.Withdrawn interp bare j) (hr : j.Rests interp k) : i.Withdrawn interp bare k :=
  ⟨h.leads.trans hr.leads, hr.shut, fun hb => hr.checker ▸ h.granted hb⟩

theorem Withdrawn.touch (h : i.Withdrawn interp bare j) {box : Sandbox}
    (hbox : bare → box.checker.granted = []) : i.Withdrawn interp bare { j with sandbox := box } :=
  ⟨h.leads.trans (j.leadsTo_touch box), ⟨h.shut.stopping, h.shut.unchosen⟩, hbox⟩

theorem withdrawn_wipe (interp : Interpreter σ) (bare : Prop) (i : Incarnation σ) (scene late : Scene) :
    i.Withdrawn interp bare ((i.stopped.settle interp scene).wipe late) := by
  have hstopped : LeadsTo interp { i with worker := i.worker.raise } i.stopped := leadsTo_stop _
  have hshut : (i.stopped.settle interp scene).Shut := shut_settle i.worker.stopping_stop scene
  exact {
    leads := (hstopped.trans (i.stopped.leadsTo_settle interp scene)).trans (leadsTo_touch _ _)
    shut := ⟨hshut.stopping, hshut.unchosen⟩
    granted := fun _ => rfl }

theorem Withdrawn.history (h : i.Withdrawn interp bare j) {c : Chronicle σ} (hc : c.now = i) :
    ∃ c', Chronicle.Steps interp c c' ∧ c'.now = j ∧ c'.begun = c.begun := by
  subst hc
  have hraised : Chronicle.Step interp c { c with now.worker := c.now.worker.raise } := .raise c
  obtain ⟨c', hsteps, hj⟩ := h.leads { c with now.worker := c.now.worker.raise } rfl
  exact ⟨c', hraised.single.trans hsteps, hj, (hsteps.begun_of_stopping rfl).2⟩

end Incarnation

end PluginSandbox
