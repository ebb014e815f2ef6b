import PluginSandbox.Proofs.Worker.Acts
import PluginSandbox.Proofs.Worker.ExactlyOnce
import PluginSandbox.Proofs.Worker.Interrupt
import PluginSandbox.Proofs.Worker.Lived

/-!
# Calls that are skipped

A call that is cancelled before the worker has begun with it is skipped, and
only such a call is. Its preparation is never at work, and it has no result.
-/

namespace PluginSandbox

variable {σ : Type} {interp : Interpreter σ}

namespace Incarnation

theorem skipped_of_run {i : Incarnation σ} {scene : Scene} {job : Job} (h : (i.run interp scene job).1 = some .skipped) :
    ∃ t ∈ job.ticket?, t ∈ i.worker.cancelled := by
  have hend (i' : Incarnation σ) (callback : String) (args : Json) :
      (i'.enter interp scene callback args).1 ≠ some .skipped := by
    rcases i'.completion_enter interp scene callback args with hnone | ⟨r, hr⟩
    · rw [hnone]
      nofun
    · rw [hr]
      nofun
  have hruns := i.runs interp scene job
  generalize i.run interp scene job = r at hruns h
  cases hruns with
  | skipped t _ _ _ hcancelled => exact ⟨t, rfl, List.contains_iff_mem.mp hcancelled⟩
  | refused | panicked | overBudget | parked | stopped | done => cases h
  | passed | budgeted | noticed | chained => exact absurd h (hend _ _ _)

theorem ne_skipped_of_awake? {i : Incarnation σ} {job : Job} {r : Completion × Incarnation σ}
    (h : i.awake? interp job = some r) : r.1 ≠ .skipped := by
  cases awakes_of_awake? h with
  | parked | inside => nofun

end Incarnation

/-! ## Moments -/

namespace Moment

variable {m m' : Moment} {t : Ticket}

structure Barred (t : Ticket) (m : Moment) : Prop where
  cancelled : t ∈ m.worker.cancelled
  phase : m.phase.ticket? ≠ some t

theorem cancelled_conclude (h : t ∈ m.worker.cancelled) (job : Job) (comp : Completion) :
    t ∈ (m.conclude job comp).worker.cancelled := by
  obtain ⟨current, hcomplete⟩ := m.worker.complete_eq job comp
  rw [conclude, hcomplete]
  exact h

theorem Barred.step (h : m.Barred t) (hs : Step m m') : m'.Barred t := by
  have hcancelled := h.cancelled
  have hphase := h.phase
  cases hs with
  | issue | raise | begin => exact ⟨hcancelled, hphase⟩
  | cancel u => exact ⟨List.mem_cons_of_mem u hcancelled, hphase⟩
  | send _ _ hw | wake _ _ hw =>
    rw [Worker.send_eq_ok hw]
    exact ⟨hcancelled, hphase⟩
  | turn _ hw => exact ⟨(Worker.moves_turn? hw).cancelled t hcancelled, hphase⟩
  | skip | refuse | panic | «return» | finish => exact ⟨cancelled_conclude hcancelled _ _, nofun⟩
  -- here alone a call is let in, and only if it is not cancelled
  | proceed u _ _ _ _ _ hc =>
    refine ⟨hcancelled, fun hu => ?_⟩
    cases hu
    exact Bool.eq_false_iff.mp hc (List.contains_iff_mem.mpr hcancelled)
  | watch u hp | enter u hp =>
    rw [hp] at hphase
    exact ⟨hcancelled, hphase⟩

theorem Barred.steps (h : m.Barred t) (hs : Steps m m') : m'.Barred t := by
  induction hs with
  | refl => exact h
  | tail _ hs ih => exact ih.step hs

end Moment

namespace Chronicle

variable {c c' : Chronicle σ} {t : Ticket} {job : Job}

/-! ## Calls cancelled before they begin -/

/-- The call was cancelled while it waited or before the worker began with it. -/
def CancelledInTime (interp : Interpreter σ) (c : Chronicle σ) (t : Ticket) : Prop :=
  ∃ (before : Chronicle σ) (job : Job), Reachable interp before ∧ Steps interp before c ∧
    job.ticket? = some t ∧ before.now.Placed job ∧ t ∈ before.now.worker.cancelled

theorem CancelledInTime.steps (h : CancelledInTime interp c t) (hs : Steps interp c c') :
    CancelledInTime interp c' t := by
  obtain ⟨before, job, hreach, hsteps, hrest⟩ := h
  exact ⟨before, job, hreach, hsteps.trans hs, hrest⟩

theorem eq_call_of_ticket? (h : job.ticket? = some t) :
    ∃ preparation callback args, job = .call t preparation callback args := by
  cases job with
  | call u preparation callback args =>
    cases h
    exact ⟨preparation, callback, args, rfl⟩
  | notice | task => cases h

section
variable (h : Reachable interp c) (hplace : c.now.Placed job)
include h hplace

theorem accepted_of_placed : job ∈ c.accepted := by
  refine h.orderly.mem_accepted_iff.mpr (.inr ?_)
  rcases hplace with hwaits | hchosen
  · exact .inr (.inr hwaits)
  · refine .inl ?_
    rw [hchosen]
    exact List.mem_singleton_self job

variable (hjob : job.ticket? = some t) (hcancelled : t ∈ c.now.worker.cancelled)
include hjob hcancelled

theorem keptOut_of_placed (hs : Steps interp c c') : c'.KeptOut t job := by
  obtain ⟨ht, -⟩ := h.ticketed_explained
  have hkept : c.KeptOut t job := keptOut_of_place h.orderly ht hjob hcancelled hplace.symm
  obtain ⟨preparation, callback, args, rfl⟩ := eq_call_of_ticket? hjob
  exact hkept.steps hs

theorem barred_of_placed : c.moment.Barred t := by
  refine ⟨hcancelled, fun hphase => ?_⟩
  have hkept : c.KeptOut t job := keptOut_of_placed h hplace hjob hcancelled (.refl c)
  obtain ⟨preparation, callback, args, hrunning⟩ := h.moment.watching.stage t hphase
  -- the job at hand would be another call under the same ticket
  have hunder : .call t preparation callback args ∈ c.accepted := by
    refine h.orderly.mem_accepted_iff.mpr (.inr (.inl ?_))
    rw [show c.now.worker.stage = _ from hrunning]
    exact List.mem_singleton_self _
  have hsame : .call t preparation callback args = job :=
    eq_of_nodup_filterMap h.ticketed_explained.1.accepted hunder (accepted_of_placed h hplace) rfl hjob
  exact hkept.running (hsame ▸ hrunning)

end

theorem Reachable.steps (h : Reachable interp c) (hs : Steps interp c c') : Reachable interp c' := by
  obtain ⟨plugin, capacity, sandbox, state, hstart⟩ := h
  exact ⟨plugin, capacity, sandbox, state, hstart.trans hs⟩

theorem Steps.mem_accepted (hs : Steps interp c c') (hm : job ∈ c.accepted) : job ∈ c'.accepted := by
  induction hs with
  | refl => exact hm
  | tail _ hstep ih =>
    obtain ⟨_, _, _, _, haccepted, _⟩ := hstep.moves
    rw [haccepted]
    exact List.mem_append_left _ ih

theorem CancelledInTime.keptOut (h : CancelledInTime interp c t) :
    ∃ job, job.ticket? = some t ∧ job ∈ c.accepted ∧ c.KeptOut t job := by
  obtain ⟨before, job, hreach, hsteps, hjob, hplace, hcancelled⟩ := h
  refine ⟨job, hjob, ?_, keptOut_of_placed hreach hplace hjob hcancelled hsteps⟩
  exact hsteps.mem_accepted (accepted_of_placed hreach hplace)

/-! ## Calls that are skipped -/

theorem cancelledInTime_of_advance {scene : Scene} {i : Incarnation σ} {sent chosen thrown : List Job}
    {ended : List (Job × Completion)} (h : Reachable interp c)
    (hi : Incarnation.Advance interp scene c.now i sent chosen thrown ended)
    (hended : (job, .skipped) ∈ ended) : ∃ t ∈ job.ticket?, CancelledInTime interp c t := by
  cases hi with
  | ended hs hr =>
    cases List.mem_singleton.mp hended
    obtain ⟨t, hjob, hcancelled⟩ := Incarnation.skipped_of_run (congrArg Prod.fst hr)
    exact ⟨t, hjob, c, job, h, .refl c, hjob, .inr hs, hcancelled⟩
  | awoken hs ha =>
    cases List.mem_singleton.mp hended
    exact absurd rfl (Incarnation.ne_skipped_of_awake? ha)
  | waits | turned => cases hended

theorem cancelledInTime_of_skipped (h : Reachable interp c) (hended : (job, .skipped) ∈ c.ended) :
    ∃ t ∈ job.ticket?, CancelledInTime interp c t := by
  obtain ⟨plugin, capacity, sandbox, state, hsteps⟩ := h
  induction hsteps with
  | refl => cases hended
  | @tail c c' hbefore hstep ih =>
    have hreach : Reachable interp c := ⟨plugin, capacity, sandbox, state, hbefore⟩
    have hnow : ∃ t ∈ job.ticket?, CancelledInTime interp c t := by
      cases hstep with
      | release listens comp hs hcomp =>
        rcases List.mem_append.mp hended with hended | hnew
        · exact ih hended
        · cases List.mem_singleton.mp hnew
          rcases hcomp with hcomp | hcomp <;> cases hcomp
      | advance scene i hi =>
        rcases List.mem_append.mp hended with hended | hnew
        · exact ih hended
        · exact cancelledInTime_of_advance hreach (Incarnation.advance_of_advance? hi) hnew
      | _ => exact ih hended
    obtain ⟨t, ht, hcancelled⟩ := hnow
    exact ⟨t, ht, hcancelled.steps hstep.single⟩

theorem skipped_iff_cancelledInTime (h : Reachable interp c) {comp : Completion} (hended : (job, comp) ∈ c.ended) :
    comp = .skipped ↔ ∃ t ∈ job.ticket?, CancelledInTime interp c t := by
  constructor
  · rintro rfl
    exact cancelledInTime_of_skipped h hended
  · rintro ⟨t, hjob, hcancelled⟩
    obtain ⟨other, hother, haccepted, hkept⟩ := hcancelled.keptOut
    have hmem : job ∈ c.accepted := h.orderly.mem_accepted_iff.mpr (.inl ⟨comp, hended⟩)
    cases eq_of_nodup_filterMap h.ticketed_explained.1.accepted hmem haccepted hjob hother
    exact hkept.ended comp hended

theorem left_out_of_placed (h : Reachable interp c) (hplace : c.now.Placed job) (hjob : job.ticket? = some t)
    (hcancelled : t ∈ c.now.worker.cancelled) :
    (∀ m, Moment.Steps c.moment m → m.phase.ticket? ≠ some t) ∧
      ∀ c', Steps interp c c' → c'.now.worker.stage ≠ .running job ∧
        (∀ comp, (job, comp) ∈ c'.ended → comp = .skipped) ∧ ∀ r, c'.now.worker.reply t ≠ .settled r := by
  refine ⟨fun m hm => ((barred_of_placed h hplace hjob hcancelled).steps hm).phase, fun c' hs => ?_⟩
  have hkept : c'.KeptOut t job := keptOut_of_placed h hplace hjob hcancelled hs
  refine ⟨hkept.running, hkept.ended, fun r hr => ?_⟩
  have hreach := h.steps hs
  obtain ⟨ht, he⟩ := hreach.ticketed_explained
  have haccepted : job ∈ c'.accepted := hs.mem_accepted (accepted_of_placed h hplace)
  cases hkept.ended _ ((reply_settled_iff hreach.orderly ht haccepted hjob he r).mp hr)

end Chronicle

end PluginSandbox
