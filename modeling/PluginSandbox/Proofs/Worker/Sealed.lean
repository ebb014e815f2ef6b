import Mathlib.Logic.Relation
import PluginSandbox.Proofs.Worker.Course

/-!
# Sealed runs

A run in which only jobs act on the sandbox and the interpreter. What it comes
to is the course of the jobs that were carried out, so two such runs that
carried out the same jobs agree, however they came to them.
-/

namespace PluginSandbox

variable {σ : Type} {interp : Interpreter σ} {works : Nat → Sandbox → σ → Sandbox × σ}

def wasSkipped : Job × Completion → Bool
  | (_, .skipped) => true
  | _ => false

def Completion.reply : Completion → Worker.Reply
  | returned r => .settled r
  | _ => .dropped

def Job.isAmong (calls : List Ticket) (job : Job) : Bool :=
  job.ticket?.any (calls.contains ·)

def verdict? : Job × Completion → Option Completion
  | (.task (.park _), _) => none
  | (_, comp) => some comp

theorem wasSkipped_eq_false {job : Job} {comp : Completion} (h : comp ≠ .skipped) :
    wasSkipped (job, comp) = false := by
  cases comp with
  | skipped => exact absurd rfl h
  | _ => rfl

theorem verdict?_of_not_isPark {job : Job} (h : job.isPark = false) (comp : Completion) :
    verdict? (job, comp) = some comp := by
  cases job with
  | call | notice => rfl
  | task task =>
    cases task with
    | park => cases h
    | chain | stop => rfl

theorem eq_park_of_isPark {job : Job} (h : job.isPark = true) : ∃ listens, job = .task (.park listens) := by
  cases job with
  | call | notice => cases h
  | task task =>
    cases task with
    | park listens => exact ⟨listens, rfl⟩
    | chain | stop => cases h

namespace Chronicle

variable {c c' : Chronicle σ}

/-- The jobs that have ended and were not skipped, in order. -/
def carried (c : Chronicle σ) : List (Job × Completion) :=
  c.ended.filter (!wasSkipped ·)

/-! ## Steps -/

/-- The sandbox, the interpreter and the record stay as they are, or a job that was chosen runs, or
raw work ends and is done. -/
inductive Sealed (interp : Interpreter σ) (works : Nat → Sandbox → σ → Sandbox × σ) :
    Chronicle σ → Chronicle σ → Prop where
  | quiet {c c' : Chronicle σ} (h : Step interp c c') (hended : c'.ended = c.ended)
      (hnow : c'.now.bare = c.now.bare) : Sealed interp works c c'
  | run (c : Chronicle σ) (job : Job) (scene : Scene) (i : Incarnation σ)
      (hs : c.now.worker.stage = .chosen job) (h : c.now.advance? interp scene = some i) :
      Sealed interp works c { c with
        now := i
        accepted := c.accepted ++ c.now.accepts
        begun := c.begun ++ c.now.worker.chooses
        thrown := c.thrown ++ c.now.worker.throws
        ended := c.ended ++ c.now.ends interp scene }
  | release (c : Chronicle σ) (listens : Bool) (comp : Completion)
      (h : c.now.worker.stage = .running (.task (.park listens))) (hcomp : comp = .done ∨ comp = .panicked) :
      Sealed interp works c { c with
        now := Incarnation.complete { c.now with
          sandbox := (works c.carried.length c.now.sandbox c.now.state).1
          state := (works c.carried.length c.now.sandbox c.now.state).2 } (.task (.park listens)) comp
        ended := c.ended ++ [(.task (.park listens), comp)] }

theorem Sealed.steps (h : Sealed interp works c c') : Steps interp c c' := by
  cases h with
  | quiet h => exact h.single
  | run job scene i hs h => exact (Step.advance c scene i h).single
  | release listens comp h hcomp =>
    have htouched : Steps interp c _ :=
      (Step.touch c (works c.carried.length c.now.sandbox c.now.state).1).single
    have hworked := htouched.tail (.work _ listens (works c.carried.length c.now.sandbox c.now.state).2 h)
    exact hworked.tail (.release _ listens comp h hcomp)

/-- It comes about by sealed steps from a worker that has just been started. -/
def SealedFrom (interp : Interpreter σ) (works : Nat → Sandbox → σ → Sandbox × σ) (sandbox : Sandbox) (state : σ)
    (c : Chronicle σ) : Prop :=
  ∃ plugin capacity, Relation.ReflTransGen (Sealed interp works) (start plugin capacity sandbox state) c

theorem steps_of_run {R : Chronicle σ → Chronicle σ → Prop} (hR : ∀ c c', R c c' → Steps interp c c')
    (h : Relation.ReflTransGen R c c') : Steps interp c c' := by
  induction h with
  | refl => exact .refl c
  | tail _ hs ih => exact ih.trans (hR _ _ hs)

theorem Steps.run (h : Steps interp c c') : Relation.ReflTransGen (Step interp) c c' := by
  induction h with
  | refl => exact .refl
  | tail _ hs ih => exact ih.tail hs

theorem SealedFrom.reachable {sandbox : Sandbox} {state : σ} (h : SealedFrom interp works sandbox state c) :
    Reachable interp c := by
  obtain ⟨plugin, capacity, hsteps⟩ := h
  exact ⟨plugin, capacity, sandbox, state, steps_of_run (fun _ _ => Sealed.steps) hsteps⟩

theorem Step.events_subset (h : Step interp c c') : c.now.events ⊆ c'.now.events := by
  cases h with
  | advance scene i hi => exact Incarnation.events_advance? hi
  | _ => exact List.Subset.refl _

theorem Steps.events_subset (h : Steps interp c c') : c.now.events ⊆ c'.now.events := by
  induction h with
  | refl => exact List.Subset.refl _
  | tail _ hs ih => exact List.Subset.trans ih hs.events_subset

/-! ## Their course -/

/-- What happened is the course of the jobs that were carried out, and nothing but raw work stays on
the worker. -/
structure Played (interp : Interpreter σ) (works : Nat → Sandbox → σ → Sandbox × σ) (x : Incarnation σ)
    (c : Chronicle σ) : Prop where
  now : c.now.bare = (x.course interp works (c.carried.map (·.1))).2
  ends : c.carried.map verdict? = (x.course interp works (c.carried.map (·.1))).1
  running : ∀ job, c.now.worker.stage = .running job → job.isPark = true

variable {x : Incarnation σ}

theorem Played.length (h : c.Played interp works x) :
    (x.course interp works (c.carried.map (·.1))).1.length = c.carried.length := by
  rw [← h.ends, List.length_map]

theorem Step.isPark (ht : interp.IsTransformer) (h : Step interp c c')
    (hrunning : ∀ job, c.now.worker.stage = .running job → job.isPark = true) :
    ∀ job, c'.now.worker.stage = .running job → job.isPark = true := by
  intro job hjob
  cases h with
  | send _ _ _ _ _ hw | wake _ _ hw =>
    rw [Worker.send_eq_ok hw] at hjob
    exact hrunning job hjob
  | release listens comp _ _ =>
    rw [Incarnation.stage_complete] at hjob
    cases hjob
  | advance scene i hi =>
    exact (Incarnation.advance_of_advance? hi).isPark ht job hjob
  | _ => exact hrunning job hjob

theorem Played.carry (h : c.Played interp works x) (job : Job) (comp : Completion)
    (hcarry : c.now.bare.carry interp (works c.carried.length) job = (verdict? (job, comp), c'.now.bare))
    (hcarried : c'.carried = c.carried ++ [(job, comp)])
    (hrunning : ∀ job, c'.now.worker.stage = .running job → job.isPark = true) : c'.Played interp works x := by
  rw [h.now, ← h.length] at hcarry
  have hcourse := x.course_concat interp works (c.carried.map (·.1)) job
  rw [hcarry] at hcourse
  refine ⟨?_, ?_, hrunning⟩
  · rw [hcarried, List.map_append, List.map_singleton, hcourse]
  · rw [hcarried, List.map_append, List.map_append, List.map_singleton, List.map_singleton, hcourse, h.ends]

theorem carried_of_ended {ended : List (Job × Completion)} (h : c'.ended = c.ended ++ ended) :
    c'.carried = c.carried ++ ended.filter (!wasSkipped ·) := by
  rw [carried, h, List.filter_append]
  rfl

theorem Played.quiet (h : c.Played interp works x) (hcarried : c'.carried = c.carried)
    (hnow : c'.now.bare = c.now.bare) (hrunning : ∀ job, c'.now.worker.stage = .running job → job.isPark = true) :
    c'.Played interp works x := by
  refine ⟨?_, ?_, hrunning⟩
  · rw [hnow, hcarried]
    exact h.now
  · rw [hcarried]
    exact h.ends

theorem Played.run (ht : interp.IsTransformer) (h : c.Played interp works x) {job : Job} {scene : Scene}
    (hs : c.now.worker.stage = .chosen job) {sent chosen thrown : List Job} {ended : List (Job × Completion)}
    (hi : Incarnation.Advance interp scene c.now c'.now sent chosen thrown ended)
    (hended : c'.ended = c.ended ++ ended) (hsent : .sent false ∉ c'.now.events) : c'.Played interp works x := by
  have hrunning := hi.isPark ht
  have hcarried := carried_of_ended hended
  generalize hi' : c'.now = i' at hi hsent
  cases hi with
  | @ended job' comp i hs' hr =>
    cases hs.symm.trans hs'
    have hbare : c'.now.bare = i.bare := by
      rw [hi']
      rfl
    by_cases hskipped : comp = .skipped
    · -- the call was cancelled, and nothing has happened
      subst hskipped
      obtain ⟨t, hjob, hcancelled⟩ := Incarnation.skipped_of_run (congrArg Prod.fst hr)
      obtain ⟨preparation, callback, args, rfl⟩ := eq_call_of_ticket? hjob
      have hsame : c.now = i := congrArg Prod.snd ((Incarnation.run_of_cancelled hcancelled).symm.trans hr)
      exact h.quiet (hcarried.trans (List.append_nil _)) (hsame ▸ hbare) hrunning
    · have hwork : job.isPark = false := Incarnation.not_isPark_of_run (congrArg Prod.fst hr)
      have hfree : c.now.Unhindered job := by
        have hrunSent : .sent false ∉ (c.now.run interp scene job).2.events := by
          rw [hr]
          exact hsent
        refine ⟨fun t hjob => ?_, Incarnation.taken_of_run hrunSent⟩
        by_contra hcancelled
        obtain ⟨preparation, callback, args, rfl⟩ := eq_call_of_ticket? hjob
        have hmem := List.contains_iff_mem.mp (eq_true_of_ne_false hcancelled)
        cases (Incarnation.run_of_cancelled hmem).symm.trans hr
        exact hskipped rfl
      refine h.carry job comp ?_ ?_ hrunning
      · rw [hbare, Incarnation.carry_bare ht hfree hwork hr, verdict?_of_not_isPark hwork]
      · rw [hcarried, List.filter_singleton, wasSkipped_eq_false hskipped]
        rfl
  | @waits job' i hs' hr =>
    cases hs.symm.trans hs'
    refine h.quiet (hcarried.trans (List.append_nil _)) ?_ hrunning
    obtain ⟨listens, rfl⟩ := eq_park_of_isPark (Incarnation.isPark_of_run ht (congrArg Prod.fst hr))
    cases hr
    rw [hi']
    rfl
  | awoken hs' _ => cases hs.symm.trans hs'
  | turned hw _ =>
    rw [Worker.turn?, hs] at hw
    cases hw

theorem Played.step (ht : interp.IsTransformer) (h : c.Played interp works x) (hs : Sealed interp works c c')
    (hsent : .sent false ∉ c'.now.events) : c'.Played interp works x := by
  cases hs with
  | quiet hs hended hnow =>
    refine h.quiet ?_ hnow (hs.isPark ht h.running)
    rw [carried, hended]
    rfl
  | run job scene i hs hi => exact h.run ht hs (Incarnation.advance_of_advance? hi) rfl hsent
  | release listens comp hs hcomp =>
    have hnew : [(Job.task (.park listens), comp)].filter (!wasSkipped ·) = [(.task (.park listens), comp)] := by
      rcases hcomp with rfl | rfl <;> rfl
    refine h.carry (.task (.park listens)) comp ?_ ?_ fun job hjob => ?_
    · exact Prod.ext rfl (Incarnation.bare_withInterior c.now.bare_bare _ _)
    · exact (carried_of_ended rfl).trans (congrArg _ hnew)
    · rw [Incarnation.stage_complete] at hjob
      cases hjob

theorem SealedFrom.played (ht : interp.IsTransformer) {sandbox : Sandbox} {state : σ}
    (h : SealedFrom interp works sandbox state c) (hsent : .sent false ∉ c.now.events) :
    c.Played interp works (start "" 1 sandbox state).now := by
  obtain ⟨plugin, capacity, hsteps⟩ := h
  induction hsteps with
  | refl => exact ⟨rfl, rfl, fun _ hs => by cases hs⟩
  | tail _ hs ih => exact (ih fun hm => hsent (hs.steps.events_subset hm)).step ht hs hsent

/-! ## Replies -/

theorem reply_of_ended (h : Reachable interp c) {job : Job} {comp : Completion} {t : Ticket}
    (hended : (job, comp) ∈ c.ended) (hjob : job.ticket? = some t) : c.now.worker.reply t = comp.reply := by
  have ho := h.orderly
  obtain ⟨ht, he⟩ := h.ticketed_explained
  have hmem : job ∈ c.accepted := ho.mem_accepted_iff.mpr (.inl ⟨comp, hended⟩)
  cases comp with
  | returned r => exact (reply_settled_iff ho ht hmem hjob he r).mpr hended
  | done | skipped | panicked => exact (reply_dropped_iff ho ht hmem hjob he).mpr (.inr ⟨_, hended, nofun⟩)

def answers (jobs : List Job) (ends : List (Option Completion)) : List Worker.Reply :=
  (jobs.zip ends).filterMap fun p => p.1.ticket?.bind fun _ => p.2.map Completion.reply

theorem replies_eq_answers (h : Reachable interp c) :
    (tickets (c.carried.map (·.1))).map c.now.worker.reply =
      answers (c.carried.map (·.1.untagged)) (c.carried.map verdict?) := by
  rw [tickets, List.filterMap_map, List.map_filterMap, answers, List.zip_map', List.filterMap_map]
  refine List.filterMap_congr fun p hp => ?_
  obtain ⟨job, comp⟩ := p
  cases job with
  | call t preparation callback args =>
    exact congrArg some (reply_of_ended h (List.mem_of_mem_filter hp) rfl)
  | notice | task => rfl

theorem same_of_carried (ht : interp.IsTransformer) {a b : Chronicle σ} {sandbox : Sandbox} {state : σ}
    (ha : SealedFrom interp works sandbox state a) (hb : SealedFrom interp works sandbox state b)
    (hasent : .sent false ∉ a.now.events) (hbsent : .sent false ∉ b.now.events)
    (hjobs : b.carried.map (·.1.untagged) = a.carried.map (·.1.untagged)) :
    b.now.bare = a.now.bare ∧ (tickets (b.carried.map (·.1))).map b.now.worker.reply =
      (tickets (a.carried.map (·.1))).map a.now.worker.reply := by
  have hplayedA := ha.played ht hasent
  have hplayedB := hb.played ht hbsent
  have hcourse : (start "" 1 sandbox state).now.course interp works (b.carried.map (·.1)) =
      (start "" 1 sandbox state).now.course interp works (a.carried.map (·.1)) := by
    rw [← Incarnation.course_untagged ht, List.map_map, ← Incarnation.course_untagged ht _ (a.carried.map (·.1)),
      List.map_map]
    exact congrArg _ hjobs
  constructor
  · rw [hplayedB.now, hplayedA.now, hcourse]
  · rw [replies_eq_answers ha.reachable, replies_eq_answers hb.reachable, hjobs, hplayedA.ends, hplayedB.ends, hcourse]

/-! ## Erasure -/

theorem jobs_carried (h : Reachable interp c) {calls : List Ticket}
    (hcalls : ∀ t, t ∈ calls ↔ CancelledInTime interp c t) :
    c.carried.map (·.1) = (c.ended.map (·.1)).filter (!·.isAmong calls) := by
  rw [List.filter_map, carried]
  refine congrArg _ (List.filter_congr fun p hp => ?_)
  obtain ⟨job, comp⟩ := p
  have hskipped : wasSkipped (job, comp) = true ↔ comp = .skipped := by
    cases comp <;> simp [wasSkipped]
  have hamong : job.isAmong calls = true ↔ ∃ t ∈ job.ticket?, CancelledInTime interp c t := by
    simp only [Job.isAmong, Option.any_eq_true, List.contains_iff_mem, hcalls, Option.mem_def]
  refine congrArg Bool.not (Bool.eq_iff_iff.mpr ?_)
  rw [hskipped, skipped_iff_cancelledInTime h hp]
  exact hamong.symm

/-- `b` has come to what `a` has come to, these calls apart: to the same sandbox and the same state, by
the same entries into the interpreter, and with the same replies to the calls that have ended. -/
structure Agrees (calls : List Ticket) (a b : Chronicle σ) : Prop where
  sandbox : b.now.sandbox = a.now.sandbox
  state : b.now.state = a.now.state
  events : b.now.events.filter (!·.isDisposed) = a.now.events.filter (!·.isDisposed)
  replies : (tickets (b.ended.map (·.1))).map b.now.worker.reply =
    (tickets ((a.ended.map (·.1)).filter (!·.isAmong calls))).map a.now.worker.reply

theorem agrees_of_same (ht : interp.IsTransformer) {a b : Chronicle σ} {sandbox : Sandbox} {state : σ}
    (ha : SealedFrom interp works sandbox state a) (hb : SealedFrom interp works sandbox state b)
    (hasent : .sent false ∉ a.now.events) (hbsent : .sent false ∉ b.now.events) {calls : List Ticket}
    (hcalls : ∀ t, t ∈ calls ↔ CancelledInTime interp a t) (hnone : ∀ t, ¬CancelledInTime interp b t)
    (hjobs : (b.ended.map (·.1)).map Job.untagged =
      ((a.ended.map (·.1)).filter (!·.isAmong calls)).map Job.untagged) : Agrees calls a b := by
  have hcarriedA := jobs_carried ha.reachable hcalls
  have hcarriedB : b.carried.map (·.1) = b.ended.map (·.1) := by
    have hempty : ∀ t, t ∈ ([] : List Ticket) ↔ CancelledInTime interp b t := fun t => by simp [hnone t]
    rw [jobs_carried hb.reachable hempty, List.filter_eq_self]
    intro job _
    cases job <;> rfl
  rw [← hcarriedA, ← hcarriedB, List.map_map, List.map_map] at hjobs
  obtain ⟨hbare, hreplies⟩ := same_of_carried ht ha hb hasent hbsent hjobs
  obtain ⟨hbox, hstate, hevents⟩ := Incarnation.bare_eq_iff.mp hbare
  rw [hcarriedA, hcarriedB] at hreplies
  exact ⟨hbox, hstate, hevents, hreplies⟩

end Chronicle

end PluginSandbox
