import Mathlib.Data.List.Nodup
import Mathlib.Data.List.Pairwise
import PluginSandbox.Proofs.Worker.Order

/-!
# The results of calls

No two accepted calls have the same ticket, so a result that is kept under a
ticket is that of one call and comes from the run of that call.
-/

namespace PluginSandbox

variable {σ : Type}

/-- What a call of `callback` may come back with of its own. -/
inductive Yields (interp : Interpreter σ) (callback : String) (args : Json) :
    Preparation → CallResult → Prop where
  | refused (e : ScriptError) : Yields interp callback args (.refuse e) (.error e)
  | overBudget (reason : String) : Yields interp callback args .budget (.error (.resourceLimit reason))
  | ended {preparation : Preparation} (hp : preparation = .pass ∨ preparation = .budget)
      {scene : Scene} {interrupted : Bool} {box box' : Sandbox} {s s' : σ} {o : Outcome}
      (h : interp.invoke scene interrupted callback args box s = .ends o box' s') :
      Yields interp callback args preparation o.result
  | awoken {preparation : Preparation} (hp : preparation = .pass ∨ preparation = .budget)
      {scene : Scene} {interrupted : Bool} {box box' : Sandbox} {s s' : σ}
      (h : interp.invoke scene interrupted callback args box s = .waits box' s') :
      Yields interp callback args preparation (interp.awake s').1.result

def Justified (interp : Interpreter σ) (w : Worker) : Job → Completion → Prop
  | .call _ preparation callback args, .returned r => Yields interp callback args preparation r
  | .call t _ _ _, .skipped => t ∈ w.cancelled
  | .call _ preparation _ _, .panicked => preparation = .panic
  | .call _ _ _ _, .done => False
  | _, _ => True

/-- The job has entered the interpreter, which has been waiting since in the state `s`. -/
def Waits (interp : Interpreter σ) (s : σ) : Job → Prop
  | .call _ preparation callback args =>
    (preparation = .pass ∨ preparation = .budget) ∧
      ∃ scene interrupted box box' s', interp.invoke scene interrupted callback args box s' = .waits box' s
  | _ => True

theorem Justified.mono {interp : Interpreter σ} {w w' : Worker} {job : Job} {comp : Completion}
    (h : Justified interp w job comp) (hc : ∀ t ∈ w.cancelled, t ∈ w'.cancelled) :
    Justified interp w' job comp := by
  cases job with
  | call t preparation callback args =>
    cases comp with
    | skipped => exact hc t h
    | _ => exact h
  | _ => trivial

theorem Worker.stage_ne_running_of_turn? {w w' : Worker} (h : w.turn? = some w') (job : Job) :
    w'.stage ≠ .running job := by
  intro hr
  cases turns_of_turn? h with
  | discarded m rest hs =>
    rw [discard, hs] at hr
    cases hr
  | taken | chose | woken | dropped | closed | gone => cases hr

namespace Incarnation

variable {interp : Interpreter σ} {scene : Scene}

theorem enter_yields {i : Incarnation σ} {t : Ticket} {preparation : Preparation} {callback : String}
    {args : Json} (hp : preparation = .pass ∨ preparation = .budget) (w : Worker) :
    match i.enter interp scene callback args with
    | (some comp, _) => Justified interp w (.call t preparation callback args) comp
    | (none, i') => Waits interp i'.state (.call t preparation callback args) := by
  unfold enter
  dsimp only
  split
  next h =>
    split at h
    next hi =>
      cases h
      exact .ended hp hi
    next => cases h
  next h =>
    split at h
    next => cases h
    next hi =>
      cases h
      exact ⟨hp, _, _, _, _, _, hi⟩

theorem run_justified (interp : Interpreter σ) (scene : Scene) (i : Incarnation σ) (job : Job) :
    match i.run interp scene job with
    | (some comp, _) => Justified interp i.worker job comp
    | (none, i') => Waits interp i'.state job := by
  have hruns := i.runs interp scene job
  cases job with
  | call t preparation callback args =>
    generalize i.run interp scene (.call t preparation callback args) = r at hruns ⊢
    cases hruns with
    | skipped _ _ _ _ hcancelled => exact List.contains_iff_mem.mp hcancelled
    | refused t e => exact .refused e
    | panicked => rfl
    | overBudget t _ _ reason => exact .overBudget reason
    | passed => exact enter_yields (.inl rfl) i.worker
    | budgeted => exact enter_yields (.inr rfl) i.worker
  | notice callback args =>
    cases i.run interp scene (.notice callback args) with
    | mk comp i' => cases comp <;> trivial
  | task t =>
    cases i.run interp scene (.task t) with
    | mk comp i' => cases comp <;> trivial

theorem awake?_justified {i : Incarnation σ} {job : Job} {r : Completion × Incarnation σ}
    (hw : Waits interp i.state job) (h : i.awake? interp job = some r) (w : Worker) :
    Justified interp w job r.1 := by
  cases job with
  | call t preparation callback args =>
    unfold awake? at h
    dsimp only at h
    split at h
    · cases h
      obtain ⟨hp, _, _, _, _, _, hi⟩ := hw
      exact .awoken hp hi
    · cases h
  | notice callback args => trivial
  | task t => trivial

theorem stage_complete (i : Incarnation σ) (job : Job) (comp : Completion) :
    (i.complete job comp).worker.stage = .idle := by
  obtain ⟨current, hc⟩ := i.worker.complete_eq job comp
  rw [complete, hc]

theorem Advance.justified {i i' : Incarnation σ} {sent chosen thrown : List Job}
    {ended : List (Job × Completion)} (h : Advance interp scene i i' sent chosen thrown ended)
    (hw : ∀ job, i.worker.stage = .running job → Waits interp i.state job) :
    (∀ p ∈ ended, Justified interp i.worker p.1 p.2) ∧
      ∀ job, i'.worker.stage = .running job → Waits interp i'.state job := by
  cases h with
  | @ended job _ _ hs hr =>
    have hj := run_justified interp scene i job
    rw [hr] at hj
    refine ⟨fun p hp => ?_, fun job hrun => ?_⟩
    · cases List.mem_singleton.mp hp
      exact hj
    · rw [stage_complete] at hrun
      cases hrun
  | @waits job _ hs hr =>
    have hj := run_justified interp scene i job
    rw [hr] at hj
    refine ⟨fun p hp => absurd hp List.not_mem_nil, fun job hrun => ?_⟩
    cases hrun
    exact hj
  | awoken hs ha =>
    refine ⟨fun p hp => ?_, fun job hrun => ?_⟩
    · cases List.mem_singleton.mp hp
      exact awake?_justified (hw _ hs) ha _
    · rw [stage_complete] at hrun
      cases hrun
  | turned hturn _ =>
    exact ⟨fun p hp => absurd hp List.not_mem_nil,
      fun job hrun => absurd hrun (Worker.stage_ne_running_of_turn? hturn job)⟩

end Incarnation

/-! ## Tickets -/

def tickets (jobs : List Job) : List Ticket :=
  jobs.filterMap Job.ticket?

theorem mem_tickets {job : Job} {t : Ticket} {jobs : List Job} (hm : job ∈ jobs) (ht : job.ticket? = some t) :
    t ∈ tickets jobs :=
  List.mem_filterMap.mpr ⟨job, hm, ht⟩

theorem eq_of_nodup_filterMap {α β : Type} {f : α → Option β} {l : List α} (hn : (l.filterMap f).Nodup) {a b : α}
    {t : β} (ha : a ∈ l) (hb : b ∈ l) (hat : f a = some t) (hbt : f b = some t) : a = b := by
  have hp := List.pairwise_filterMap.mp hn
  have : Std.Symm fun a b : α => ∀ t, f a = some t → ∀ u, f b = some u → t ≠ u :=
    ⟨fun _ _ h t ht u hu => (h u hu t ht).symm⟩
  by_cases hab : a = b
  · exact hab
  · exact absurd rfl (hp.forall ha hb hab t hat t hbt)

namespace Chronicle

variable {interp : Interpreter σ} {c c' : Chronicle σ}

structure Ticketed (c : Chronicle σ) : Prop where
  nodup : (tickets (c.accepted ++ c.enlisted)).Nodup
  issued : ∀ t ∈ tickets (c.accepted ++ c.enlisted), t < c.now.worker.issued

theorem ticket?_of_mem_accepts {i : Incarnation σ} {job : Job} (h : job ∈ i.accepts) : job.ticket? = none := by
  unfold Incarnation.accepts at h
  split at h
  · unfold Incarnation.sends at h
    split at h
    · split at h
      · rw [List.mem_singleton.mp h]; rfl
      · cases h
    · cases h
  · cases h

theorem Ticketed.of_perm (ht : c.Ticketed)
    (hp : (tickets (c'.accepted ++ c'.enlisted)).Perm (tickets (c.accepted ++ c.enlisted)))
    (hi : c.now.worker.issued ≤ c'.now.worker.issued) : c'.Ticketed where
  nodup := hp.nodup_iff.mpr ht.nodup
  issued := fun t hm => Nat.lt_of_lt_of_le (ht.issued t (hp.mem_iff.mp hm)) hi

theorem Step.issued_le (h : Step interp c c') : c.now.worker.issued ≤ c'.now.worker.issued := by
  obtain ⟨_, _, _, _, _, _, _, _, hm⟩ := h.moves
  exact hm.issued

theorem Ticketed.step (ht : c.Ticketed) (h : Step interp c c') : c'.Ticketed := by
  have hissued := h.issued_le
  cases h with
  | enlist job hjob hstop =>
    refine ht.of_perm (.of_eq ?_) hissued
    simp [tickets, hjob]
  | enlistCall preparation callback args hstop =>
    -- the next ticket lies beyond all that were given away
    have happend : tickets (c.accepted ++ (c.enlisted ++ [.call c.now.worker.issued preparation callback args])) =
        tickets (c.accepted ++ c.enlisted) ++ [c.now.worker.issued] := by
      simp [tickets, Job.ticket?]
    constructor
    · dsimp only
      rw [happend]
      refine List.nodup_append.mpr ⟨ht.nodup, List.nodup_singleton _, fun t hm u hu => ?_⟩
      rw [List.mem_singleton.mp hu]
      exact Nat.ne_of_lt (ht.issued t hm)
    · dsimp only
      rw [happend]
      intro t hm
      rcases List.mem_append.mp hm with hm | hm
      · exact Nat.lt_succ_of_lt (ht.issued t hm)
      · rw [List.mem_singleton.mp hm]
        exact Nat.lt_succ_self _
  | send before after job w henlisted hw =>
    refine ht.of_perm (List.Perm.filterMap _ ?_) hissued
    dsimp only
    rw [henlisted, List.append_assoc, List.singleton_append]
    exact List.perm_middle.symm.append_left _
  | refuse before after job e henlisted hw =>
    have hsub : (tickets (c.accepted ++ (before ++ after))).Sublist (tickets (c.accepted ++ c.enlisted)) := by
      rw [henlisted]
      exact (((List.sublist_cons_self job after).append_left before).append_left c.accepted).filterMap _
    exact ⟨ht.nodup.sublist hsub, fun t hm => ht.issued t (hsub.subset hm)⟩
  | advance scene i hi =>
    refine ht.of_perm (.of_eq ?_) hissued
    -- the worker itself sends notices only
    have hnone : c.now.accepts.filterMap Job.ticket? = [] :=
      List.filterMap_eq_nil_iff.mpr fun _ hm => ticket?_of_mem_accepts hm
    simp [tickets, hnone]
  | cancel t => exact ht.of_perm (.refl _) hissued
  | raise => exact ht.of_perm (.refl _) hissued
  | wake w hstop hw => exact ht.of_perm (.refl _) hissued
  | touch sandbox => exact ht.of_perm (.refl _) hissued
  | work listens state hs => exact ht.of_perm (.refl _) hissued
  | release listens comp hs hcomp => exact ht.of_perm (.refl _) hissued

theorem ticketed_start (plugin : String) (capacity : Nat) (sandbox : Sandbox) (state : σ) :
    (start plugin capacity sandbox state).Ticketed :=
  ⟨List.nodup_nil, fun _ h => absurd h List.not_mem_nil⟩

/-! ## Ends and results -/

/-- The results kept are those of the jobs that ended, and each job ended for a reason. -/
structure Explained (interp : Interpreter σ) (c : Chronicle σ) : Prop where
  results : c.now.worker.results = (c.ended.filterMap resultOf?).reverse
  justified : ∀ p ∈ c.ended, Justified interp c.now.worker p.1 p.2
  waits : ∀ job, c.now.worker.stage = .running job → Waits interp c.now.state job

theorem explained_start (plugin : String) (capacity : Nat) (sandbox : Sandbox) (state : σ) :
    (start plugin capacity sandbox state).Explained interp :=
  ⟨rfl, fun _ h => absurd h List.not_mem_nil, fun _ h => by cases h⟩

theorem Step.justified (h : Step interp c c')
    (hw : ∀ job, c.now.worker.stage = .running job → Waits interp c.now.state job) :
    (∃ ended, c'.ended = c.ended ++ ended ∧ ∀ p ∈ ended, Justified interp c.now.worker p.1 p.2) ∧
      ∀ job, c'.now.worker.stage = .running job → Waits interp c'.now.state job := by
  have hnone : ∃ ended, c.ended = c.ended ++ ended ∧ ∀ p ∈ ended, Justified interp c.now.worker p.1 p.2 :=
    ⟨[], (List.append_nil _).symm, fun _ h => absurd h List.not_mem_nil⟩
  cases h with
  | send before after job w henlisted hsend =>
    refine ⟨hnone, ?_⟩
    dsimp only
    rw [Worker.send_eq_ok hsend]
    exact hw
  | wake w hstop hsend =>
    refine ⟨hnone, ?_⟩
    dsimp only
    rw [Worker.send_eq_ok hsend]
    exact hw
  | work listens state hs =>
    refine ⟨hnone, fun job hrun => ?_⟩
    cases hs.symm.trans hrun
    trivial
  | release listens comp hs hcomp =>
    refine ⟨⟨_, rfl, fun p hp => ?_⟩, fun job hrun => ?_⟩
    · cases List.mem_singleton.mp hp
      trivial
    · rcases hcomp with h | h <;> subst h <;> cases hrun
  | advance scene i hi =>
    obtain ⟨hj, hwaits⟩ := (Incarnation.advance_of_advance? hi).justified hw
    exact ⟨⟨_, rfl, hj⟩, hwaits⟩
  | _ => exact ⟨hnone, hw⟩

theorem Explained.step (he : c.Explained interp) (h : Step interp c c') : c'.Explained interp := by
  obtain ⟨⟨ended, hended, hj⟩, hwaits⟩ := h.justified he.waits
  obtain ⟨_, _, _, ended', _, _, _, hended', hm⟩ := h.moves
  -- both accounts of the step speak of the same ends
  have hsame : ended' = ended := List.append_cancel_left (hended'.symm.trans hended)
  subst hsame
  refine ⟨?_, fun p hp => ?_, hwaits⟩
  · rw [hm.results, he.results, hended, List.filterMap_append, List.reverse_append]
  · rw [hended] at hp
    rcases List.mem_append.mp hp with hp | hp
    · exact (he.justified p hp).mono hm.cancelled
    · exact (hj p hp).mono hm.cancelled

theorem Reachable.ticketed_explained (h : Reachable interp c) : c.Ticketed ∧ c.Explained interp := by
  obtain ⟨plugin, capacity, sandbox, state, hs⟩ := h
  induction hs with
  | refl => exact ⟨ticketed_start .., explained_start ..⟩
  | tail _ hstep ih => exact ⟨ih.1.step hstep, ih.2.step hstep⟩

end Chronicle

end PluginSandbox
