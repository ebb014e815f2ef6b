import PluginSandbox.Proofs.Worker.Serving

/-!
# Incarnations that come about

The operations on an incarnation are made of the steps of its chronicle, so
what holds of all chronicles holds of every incarnation that is ever reached.
-/

namespace PluginSandbox

variable {σ : Type} {interp : Interpreter σ}

namespace Chronicle

theorem Steps.trans {c c' c'' : Chronicle σ} (h : Steps interp c c') (h' : Steps interp c' c'') :
    Steps interp c c'' := by
  induction h' with
  | refl => exact h
  | tail _ hs ih => exact ih.tail hs

theorem Step.single {c c' : Chronicle σ} (hs : Step interp c c') : Steps interp c c' :=
  .tail (.refl c) hs

end Chronicle

namespace Incarnation

/-- Whatever has become of the jobs of `i` by then, the steps of its chronicle may lead on to `j`. -/
def LeadsTo (interp : Interpreter σ) (i j : Incarnation σ) : Prop :=
  ∀ c : Chronicle σ, c.now = i → ∃ c', Chronicle.Steps interp c c' ∧ c'.now = j

theorem LeadsTo.refl (i : Incarnation σ) : i.LeadsTo interp i :=
  fun c hc => ⟨c, .refl c, hc⟩

theorem LeadsTo.trans {i j k : Incarnation σ} (h : i.LeadsTo interp j) (h' : j.LeadsTo interp k) :
    i.LeadsTo interp k := by
  intro c hc
  obtain ⟨c', hsteps, hj⟩ := h c hc
  obtain ⟨c'', hmore, hk⟩ := h' c' hj
  exact ⟨c'', hsteps.trans hmore, hk⟩

/-! ## From outside -/

theorem leadsTo_submit {i : Incarnation σ} {job : Job} (hjob : job.ticket? = none) {w : Worker}
    (h : i.worker.submit job = .ok w) : i.LeadsTo interp { i with worker := w } := by
  rintro c rfl
  obtain ⟨hstop, hsend⟩ := Worker.submit_eq_ok h
  have henlisted : Chronicle.Step interp c _ := .enlist c job hjob hstop
  exact ⟨_, henlisted.single.tail (.send _ c.enlisted [] job w rfl hsend), rfl⟩

theorem leadsTo_call {i : Incarnation σ} {preparation : Preparation} {callback : String} {args : Json}
    {r : Ticket × Worker} (h : i.worker.call preparation callback args = .ok r) :
    i.LeadsTo interp { i with worker := r.2 } := by
  rintro c rfl
  unfold Worker.call at h
  cases hs : c.now.worker.issue.submit (.call c.now.worker.issued preparation callback args) with
  | error e => rw [hs] at h; cases h
  | ok w =>
    rw [hs] at h
    cases h
    obtain ⟨hstop, hsend⟩ := Worker.submit_eq_ok hs
    have henlisted : Chronicle.Step interp c _ := .enlistCall c preparation callback args hstop
    exact ⟨_, henlisted.single.tail (.send _ c.enlisted [] _ w rfl hsend), rfl⟩

theorem leadsTo_cancel (i : Incarnation σ) (t : Ticket) :
    i.LeadsTo interp { i with worker := i.worker.cancel t } := by
  rintro c rfl
  exact ⟨_, (Chronicle.Step.cancel c t).single, rfl⟩

theorem leadsTo_stop (i : Incarnation σ) : i.LeadsTo interp { i with worker := i.worker.stop } := by
  rintro c rfl
  have hraised : Chronicle.Step interp c _ := .raise c
  unfold Worker.stop
  split
  next w hsend => exact ⟨_, hraised.single.tail (.wake _ w rfl hsend), rfl⟩
  next => exact ⟨_, hraised.single, rfl⟩

theorem leadsTo_touch (i : Incarnation σ) (sandbox : Sandbox) : i.LeadsTo interp { i with sandbox } := by
  rintro c rfl
  exact ⟨_, (Chronicle.Step.touch c sandbox).single, rfl⟩

theorem leadsTo_release (i : Incarnation σ) : i.LeadsTo interp i.release := by
  unfold release Worker.running
  cases hs : i.worker.stage with
  | running job =>
    dsimp only
    split
    next listens hj =>
      cases hj
      rintro c rfl
      exact ⟨_, (Chronicle.Step.release c listens .done hs (.inl rfl)).single, rfl⟩
    next => exact .refl i
  | _ => exact .refl i

/-! ## On the worker -/

theorem leadsTo_advance? {scene : Scene} {i i' : Incarnation σ} (h : i.advance? interp scene = some i') :
    i.LeadsTo interp i' := by
  rintro c rfl
  exact ⟨_, (Chronicle.Step.advance c scene i' h).single, rfl⟩

theorem leadsTo_advanceFor (interp : Interpreter σ) (scene : Scene) (fuel : Nat) (i : Incarnation σ) :
    i.LeadsTo interp (advanceFor interp scene fuel i) := by
  induction fuel generalizing i with
  | zero => exact .refl i
  | succ fuel ih =>
    unfold advanceFor
    split
    next i' h => exact (leadsTo_advance? h).trans (ih i')
    next => exact .refl i

theorem leadsTo_settle (interp : Interpreter σ) (scene : Scene) (i : Incarnation σ) :
    i.LeadsTo interp (i.settle interp scene) :=
  leadsTo_advanceFor interp scene _ i

theorem leadsTo_act (i : Incarnation σ) {a : Act σ} (ha : a.isRoutine = true) :
    i.LeadsTo interp (i.act interp a) := by
  have hsame {j : Incarnation σ} (hj : j = i) : i.LeadsTo interp j := by
    rw [hj]
    exact .refl i
  cases a with
  | call callback args =>
    rcases i.act_call interp callback args with ⟨t, w, hc, hi⟩ | hi
    · rw [hi]
      exact leadsTo_call hc
    · exact hsame hi
  | notify callback args =>
    rcases i.act_notify interp callback args with ⟨w, hn, hi⟩ | hi
    · rw [hi]
      exact leadsTo_submit rfl hn
    · exact hsame hi
  | cancel t => exact i.leadsTo_cancel t
  | reset now => exact i.leadsTo_touch _
  | move scene =>
    rcases i.act_move interp scene with ⟨j, hj, hi⟩ | hi
    · rw [hi]
      exact leadsTo_advance? hj
    · exact hsame hi
  | _ => cases ha

theorem leadsTo_after (i : Incarnation σ) {acts : List (Act σ)} (hacts : ∀ a ∈ acts, a.isRoutine = true) :
    i.LeadsTo interp (i.after interp acts) := by
  induction acts generalizing i with
  | nil => exact .refl i
  | cons a acts ih =>
    rw [List.forall_mem_cons] at hacts
    exact (i.leadsTo_act hacts.1).trans (ih (i.act interp a) hacts.2)

/-! ## Lives -/

def Lived (interp : Interpreter σ) (i : Incarnation σ) : Prop :=
  ∃ c : Chronicle σ, Chronicle.Reachable interp c ∧ c.now = i

theorem lived_start? {context : Context} {capacity : Nat} {factory : Factory σ} {i : Incarnation σ}
    (h : start? context capacity factory = .ok i) : i.Lived interp := by
  unfold start? at h
  split at h
  · cases h
  · cases h
    exact ⟨_, ⟨_, _, _, _, .refl _⟩, rfl⟩

theorem Lived.leadsTo {i j : Incarnation σ} (hl : i.Lived interp) (h : i.LeadsTo interp j) : j.Lived interp := by
  obtain ⟨c, ⟨plugin, capacity, sandbox, state, hc⟩, hi⟩ := hl
  obtain ⟨c', hsteps, hj⟩ := h c hi
  exact ⟨c', ⟨plugin, capacity, sandbox, state, hc.trans hsteps⟩, hj⟩

end Incarnation

end PluginSandbox
