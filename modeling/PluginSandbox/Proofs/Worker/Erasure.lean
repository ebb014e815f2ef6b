import PluginSandbox.Proofs.Worker.Without

/-!
# Runs without some calls

A run in which some calls were cancelled in time, taken step by step without
them: the steps that deal with such a call fall away, and all others are taken
as they were.
-/

namespace PluginSandbox

variable {σ : Type} {interp : Interpreter σ}

namespace Chronicle

variable {calls : List Ticket} {c c' : Chronicle σ}

/-- Without some calls. Their producers may be about to send them, but never do. -/
def without (calls : List Ticket) (c : Chronicle σ) (enlisted : List Job) : Chronicle σ where
  now := c.now.without calls
  enlisted := enlisted
  accepted := c.accepted.filter (!·.isAmong calls)
  begun := c.begun.filter (!·.isAmong calls)
  thrown := c.thrown.filter (!·.isAmong calls)
  ended := c.ended.filter (!·.1.isAmong calls)

/-! ## What the calls are kept from -/

def Entered (c : Chronicle σ) (job : Job) : Prop :=
  c.now.worker.stage = .running job ∨ ∃ comp, (job, comp) ∈ c.ended ∧ comp ≠ .skipped

theorem Entered.step {job : Job} (h : c.Entered job) (hs : Step interp c c') : c'.Entered job := by
  rcases h with hrunning | ⟨comp, hended, hcomp⟩
  · cases hs with
    | send _ _ _ _ _ hw | wake _ _ hw =>
      refine .inl ?_
      dsimp only
      rw [Worker.send_eq_ok hw]
      exact hrunning
    | release listens comp hs hcomp =>
      cases hs.symm.trans hrunning
      refine .inr ⟨comp, List.mem_append_right _ (List.mem_singleton_self _), ?_⟩
      rcases hcomp with rfl | rfl <;> nofun
    | advance scene i hi =>
      unfold Incarnation.advance? at hi
      rw [hrunning] at hi
      obtain ⟨r, hr, -⟩ := Option.map_eq_some_iff.mp hi
      refine .inr ⟨r.1, List.mem_append_right _ ?_, Incarnation.ne_skipped_of_awake? hr⟩
      unfold Incarnation.ends
      rw [hrunning]
      dsimp only
      rw [hr]
      exact List.mem_singleton_self _
    | _ => exact .inl hrunning
  · obtain ⟨_, _, _, _, _, _, _, hnew, _⟩ := hs.moves
    refine .inr ⟨comp, ?_, hcomp⟩
    rw [hnew]
    exact List.mem_append_left _ hended

/-- The worker serves, the calls have not got in, and no notice of a job was turned away. -/
structure Clear (calls : List Ticket) (c : Chronicle σ) : Prop where
  serving : c.now.worker.stopping = false
  out : ∀ job, job.isAmong calls = true → ¬c.Entered job
  sent : .sent false ∉ c.now.events

theorem Clear.of_step (h : c'.Clear calls) (hs : Step interp c c') : c.Clear calls where
  serving := by
    by_contra hstopping
    have hstopped := (hs.begun_of_stopping (eq_true_of_ne_false hstopping)).1
    exact Bool.false_ne_true (h.serving.symm.trans hstopped)
  out := fun job hjob hentered => h.out job hjob (hentered.step hs)
  sent := fun hm => h.sent (hs.events_subset hm)

theorem Clear.of_steps (h : c'.Clear calls) (hs : Steps interp c c') : c.Clear calls := by
  induction hs with
  | refl => exact h
  | tail _ hstep ih => exact ih (h.of_step hstep)

theorem clear_of_cancelledInTime (h : Reachable interp c) (hopen : c.now.worker.stopping = false)
    (hsent : .sent false ∉ c.now.events) (hcalls : ∀ t ∈ calls, CancelledInTime interp c t) : c.Clear calls where
  serving := hopen
  out := by
    intro job hjob hentered
    obtain ⟨t, hticket, hmem⟩ := (Option.any_eq_true _ _).mp hjob
    obtain ⟨kept, hkept, haccepted, hout⟩ := (hcalls t (List.contains_iff_mem.mp hmem)).keptOut
    have hplace : job ∈ c.accepted := by
      refine h.orderly.mem_accepted_iff.mpr ?_
      rcases hentered with hrunning | ⟨comp, hended, -⟩
      · rw [hrunning]
        exact .inr (.inl (List.mem_singleton_self job))
      · exact .inl ⟨comp, hended⟩
    cases eq_of_nodup_filterMap h.ticketed_explained.1.accepted hplace haccepted hticket hkept
    rcases hentered with hrunning | ⟨comp, hended, hcomp⟩
    · exact hout.running hrunning
    · exact hcomp (hout.ended comp hended)
  sent := hsent

/-! ## Moves of the worker -/

def advanced (interp : Interpreter σ) (scene : Scene) (c : Chronicle σ) (i : Incarnation σ) : Chronicle σ where
  now := i
  enlisted := c.enlisted
  accepted := c.accepted ++ c.now.accepts
  begun := c.begun ++ c.now.worker.chooses
  thrown := c.thrown ++ c.now.worker.throws
  ended := c.ended ++ c.now.ends interp scene

section
variable {scene : Scene} {i : Incarnation σ} (enlisted : List Job)

theorem without_advanced_eq (hi : i.without calls = c.now.without calls)
    (haccepts : c.now.accepts.filter (!·.isAmong calls) = [])
    (hchooses : c.now.worker.chooses.filter (!·.isAmong calls) = [])
    (hthrows : c.now.worker.throws.filter (!·.isAmong calls) = [])
    (hends : (c.now.ends interp scene).filter (!·.1.isAmong calls) = []) :
    (c.advanced interp scene i).without calls enlisted = c.without calls enlisted := by
  unfold without advanced
  simp only [List.filter_append, hi, haccepts, hchooses, hthrows, hends, List.append_nil]

theorem without_advanced (haccepts : (c.now.without calls).accepts = c.now.accepts.filter (!·.isAmong calls))
    (hchooses : (c.now.without calls).worker.chooses = c.now.worker.chooses.filter (!·.isAmong calls))
    (hthrows : (c.now.without calls).worker.throws = c.now.worker.throws.filter (!·.isAmong calls))
    (hends : (c.now.without calls).ends interp scene = (c.now.ends interp scene).filter (!·.1.isAmong calls)) :
    (c.advanced interp scene i).without calls enlisted =
      (c.without calls enlisted).advanced interp scene (i.without calls) := by
  unfold without advanced
  simp only [List.filter_append, haccepts, hchooses, hthrows, hends]

variable {plugin : String} {capacity : Nat}

theorem advanced_of_turn? (hreg : c.now.worker.Regular plugin capacity) (hopen : c.now.worker.stopping = false)
    {w : Worker} (hw : c.now.worker.turn? = some w) (hstays : w.stage.isOver = false) :
    (c.advanced interp scene { c.now with worker := w }).without calls enlisted = c.without calls enlisted ∨
      (c.now.without calls).advance? interp scene = some (Incarnation.without calls { c.now with worker := w }) ∧
        (c.advanced interp scene { c.now with worker := w }).without calls enlisted =
          (c.without calls enlisted).advanced interp scene (Incarnation.without calls { c.now with worker := w }) := by
  obtain ⟨hwake, hover⟩ := hreg.stage hopen
  have hthrows : c.now.worker.throws = [] := Worker.throws_of_open hopen hover
  have hthrowsWithout : (c.now.worker.without calls).throws = [] :=
    Worker.throws_of_open hopen (by rw [Worker.isOver_without, hover])
  obtain ⟨haccepts, hends⟩ := Incarnation.accepts_of_turn? interp scene hw
  rcases Worker.turn?_without calls hopen hwake hover hw with ⟨hsame, hchooses⟩ | ⟨hturn, hchooses⟩
  · refine .inl (without_advanced_eq enlisted ?_ ?_ hchooses ?_ ?_)
    · unfold Incarnation.without
      rw [hsame]
    · rw [haccepts]
      rfl
    · rw [hthrows]
      rfl
    · rw [hends]
      rfl
  · have hturn' : (c.now.without calls).worker.turn? = some (w.without calls) := hturn
    have hleft : (w.without calls).left = false :=
      Worker.left_of_not_isOver ((Worker.isOver_without calls w).trans hstays)
    obtain ⟨haccepts', hends'⟩ := Incarnation.accepts_of_turn? interp scene hturn'
    refine .inr ⟨Incarnation.advance?_of_turn? hturn' hleft, without_advanced enlisted ?_ hchooses ?_ ?_⟩
    · rw [haccepts, haccepts']
      rfl
    · rw [hthrows]
      exact hthrowsWithout
    · rw [hends, hends']
      rfl

theorem ends_of_chosen {job : Job} (hs : c.now.worker.stage = .chosen job) :
    c.now.ends interp scene = ((c.now.run interp scene job).1.map (job, ·)).toList := by
  unfold Incarnation.ends
  rw [hs]

/-- A chosen job that does not get in was skipped, and that is all. -/
theorem begin_of_not_entered {job : Job} (hs : c.now.worker.stage = .chosen job)
    (hout : ¬(c.advanced interp scene (c.now.begin interp scene job)).Entered job) :
    c.now.begin interp scene job = c.now.complete job .skipped ∧
      (c.now.run interp scene job).1 = some .skipped := by
  have hskipped : (c.now.run interp scene job).1 = some .skipped := by
    cases hr : (c.now.run interp scene job).1 with
    | none =>
      refine absurd (.inl ?_) hout
      unfold advanced Incarnation.begin
      split
      next hrun => cases hr.symm.trans (congrArg Prod.fst hrun)
      next => rfl
    | some comp =>
      by_contra hcomp
      refine hout (.inr ⟨comp, List.mem_append_right _ ?_, fun he => hcomp (congrArg some he)⟩)
      rw [ends_of_chosen hs, hr]
      exact List.mem_singleton_self _
  obtain ⟨t, hjob, hcancelled⟩ := Incarnation.skipped_of_run hskipped
  obtain ⟨preparation, callback, args, rfl⟩ := eq_call_of_ticket? hjob
  refine ⟨?_, hskipped⟩
  unfold Incarnation.begin
  rw [Incarnation.run_of_cancelled hcancelled]

theorem accepts_of_chosen {job : Job} (hs : c.now.worker.stage = .chosen job) :
    c.now.accepts = c.now.sends job := by
  unfold Incarnation.accepts
  rw [hs]

theorem advanced_of_not_entered {job : Job} (hs : c.now.worker.stage = .chosen job) (hjob : job.isAmong calls = true)
    (hout : ¬(c.advanced interp scene (c.now.begin interp scene job)).Entered job) :
    (c.advanced interp scene (c.now.begin interp scene job)).without calls enlisted = c.without calls enlisted := by
  obtain ⟨hchooses, hthrows⟩ := Worker.chooses_throws_of_busy (.inl hs)
  obtain ⟨hbegin, hskipped⟩ := begin_of_not_entered hs hout
  refine without_advanced_eq enlisted ?_ ?_ ?_ ?_ ?_
  · rw [hbegin]
    unfold Incarnation.without Worker.without
    rw [hs, Stage.without, hjob, if_pos rfl]
    rfl
  · rw [accepts_of_chosen hs]
    cases job with
    | call => rfl
    | notice | task => exact absurd hjob Bool.false_ne_true
  · rw [hchooses]
    rfl
  · rw [hthrows]
    rfl
  · rw [ends_of_chosen hs, hskipped]
    simp [hjob]

variable (calls) in
theorem stage_without_of_chosen {job : Job} (hs : c.now.worker.stage = .chosen job)
    (hjob : job.isAmong calls = false) : (c.now.without calls).worker.stage = .chosen job := by
  change c.now.worker.stage.without calls = .chosen job
  rw [hs, Stage.without, hjob, if_neg Bool.false_ne_true]

variable (calls) in
theorem stage_without_of_running {job : Job} (hs : c.now.worker.stage = .running job) :
    (c.now.without calls).worker.stage = .running job := by
  change c.now.worker.stage.without calls = .running job
  rw [hs]
  rfl

theorem without_advanced_of_busy {job : Job}
    (hs : c.now.worker.stage = .chosen job ∨ c.now.worker.stage = .running job)
    (hsame : (c.now.without calls).worker.stage = c.now.worker.stage)
    (haccepts : (c.now.without calls).accepts = c.now.accepts.filter (!·.isAmong calls))
    (hends : (c.now.without calls).ends interp scene = (c.now.ends interp scene).filter (!·.1.isAmong calls)) :
    (c.advanced interp scene i).without calls enlisted =
      (c.without calls enlisted).advanced interp scene (i.without calls) := by
  obtain ⟨hchooses, hthrows⟩ := Worker.chooses_throws_of_busy hs
  obtain ⟨hchooses', hthrows'⟩ := Worker.chooses_throws_of_busy (hs.imp hsame.trans hsame.trans)
  refine without_advanced enlisted haccepts ?_ ?_ hends
  · rw [hchooses, hchooses']
    rfl
  · rw [hthrows, hthrows']
    rfl

theorem advanced_of_chosen {job : Job} (hs : c.now.worker.stage = .chosen job) (hjob : job.isAmong calls = false)
    (hopen : (c.now.begin interp scene job).worker.stopping = false)
    (hsent : .sent false ∉ (c.now.begin interp scene job).events) :
    (c.now.without calls).advance? interp scene = some ((c.now.begin interp scene job).without calls) ∧
      (c.advanced interp scene (c.now.begin interp scene job)).without calls enlisted =
        (c.without calls enlisted).advanced interp scene ((c.now.begin interp scene job).without calls) := by
  rw [Incarnation.worker_begin_stopping] at hopen
  rw [Incarnation.events_begin] at hsent
  have htaken := Incarnation.taken_of_run hsent
  have hstage := stage_without_of_chosen calls hs hjob
  have hbegin := Incarnation.begin_without calls hopen htaken
  have hrun := Incarnation.run_without calls hopen htaken
  refine ⟨?_, without_advanced_of_busy enlisted (.inl hs) (hstage.trans hs.symm) ?_ ?_⟩
  · unfold Incarnation.advance?
    rw [hstage, ← hbegin]
  · rw [accepts_of_chosen hs, ← Incarnation.sends_without htaken]
    unfold Incarnation.accepts
    rw [hstage]
  · rw [ends_of_chosen hs]
    unfold Incarnation.ends
    rw [hstage]
    dsimp only
    rw [hrun]
    cases (c.now.run interp scene job).1 with
    | none => rfl
    | some comp => simp [hjob]

theorem advanced_of_running {job : Job} (hs : c.now.worker.stage = .running job) (hjob : job.isAmong calls = false)
    {r : Completion × Incarnation σ} (hr : c.now.awake? interp job = some r) :
    (c.now.without calls).advance? interp scene = some ((r.2.complete job r.1).without calls) ∧
      (c.advanced interp scene (r.2.complete job r.1)).without calls enlisted =
        (c.without calls enlisted).advanced interp scene ((r.2.complete job r.1).without calls) := by
  have hstage := stage_without_of_running calls hs
  have hawake := c.now.awake?_without interp calls job
  refine ⟨?_, without_advanced_of_busy enlisted (.inr hs) (hstage.trans hs.symm) ?_ ?_⟩
  · unfold Incarnation.advance?
    rw [hstage]
    dsimp only
    rw [hawake, hr, Option.map_some, Option.map_some, Incarnation.complete_without]
  · unfold Incarnation.accepts
    rw [hs, hstage]
    rfl
  · unfold Incarnation.ends
    rw [hs, hstage]
    dsimp only
    rw [hawake, hr]
    simp [hjob]

theorem advanced_of_advance? (hreg : c.now.worker.Regular plugin capacity)
    (hi : c.now.advance? interp scene = some i) (hclear : (c.advanced interp scene i).Clear calls) :
    (c.advanced interp scene i).without calls enlisted = c.without calls enlisted ∨
      (c.now.without calls).advance? interp scene = some (i.without calls) ∧
        (c.advanced interp scene i).without calls enlisted =
          (c.without calls enlisted).advanced interp scene (i.without calls) := by
  have hstep : Step interp c (c.advanced interp scene i) := .advance c scene i hi
  have hopen : i.worker.stopping = false := hclear.serving
  have hclearNow : c.Clear calls := hclear.of_step hstep
  have hregular : i.worker.Regular plugin capacity := hstep.regular hreg
  unfold Incarnation.advance? at hi
  cases hs : c.now.worker.stage with
  | chosen job =>
    rw [hs] at hi
    cases hi
    cases hjob : job.isAmong calls with
    | true => exact .inl (advanced_of_not_entered enlisted hs hjob (hclear.out job hjob))
    | false => exact .inr (advanced_of_chosen enlisted hs hjob hopen hclear.sent)
  | running job =>
    have hjob : job.isAmong calls = false := by
      by_contra hamong
      exact hclearNow.out job (eq_true_of_ne_false hamong) (.inl hs)
    rw [hs] at hi
    obtain ⟨r, hr, rfl⟩ := Option.map_eq_some_iff.mp hi
    exact .inr (advanced_of_running enlisted hs hjob hr)
  | _ =>
    rw [hs] at hi
    obtain ⟨w, hw, hi⟩ := Option.map_eq_some_iff.mp hi
    have hworker : i.worker = w := by
      rw [← hi]
      split <;> rfl
    have hstays : w.stage.isOver = false := hworker ▸ (hregular.stage hopen).2
    rw [if_neg (Bool.eq_false_iff.mp (Worker.left_of_not_isOver hstays))] at hi
    cases hi
    exact advanced_of_turn? enlisted hreg hclearNow.serving hw hstays

end

/-! ## Steps -/

theorem exists_split_of_sublist {α : Type} {before after l : List α} {a : α}
    (h : (before ++ a :: after).Sublist l) : ∃ p q, l = p ++ a :: q ∧ (before ++ after).Sublist (p ++ q) := by
  obtain ⟨front, back, rfl, hfront, hback⟩ := List.append_sublist_iff.mp h
  obtain ⟨skipped, rest, rfl, hmem, hrest⟩ := List.cons_sublist_iff.mp hback
  obtain ⟨left, right, rfl⟩ := List.append_of_mem hmem
  refine ⟨front ++ left, right ++ rest, by simp, ?_⟩
  rw [List.append_assoc]
  refine hfront.append ?_
  exact hrest.trans ((List.sublist_append_right right rest).trans (List.sublist_append_right left _))

theorem filter_sublist_of_cons (before after : List Job) (job : Job) :
    ((before ++ after).filter (!·.isAmong calls)).Sublist ((before ++ job :: after).filter (!·.isAmong calls)) :=
  ((List.sublist_cons_self job after).append_left before).filter _

/-- **A step without some calls.** It falls away or is taken as it was. -/
theorem Step.without (hs : Step interp c c') {plugin : String} {capacity : Nat}
    (hreg : c.now.worker.Regular plugin capacity) (hclear : c'.Clear calls) {enlisted : List Job}
    (henlisted : (c.enlisted.filter (!·.isAmong calls)).Sublist enlisted) :
    ∃ enlisted', (c'.enlisted.filter (!·.isAmong calls)).Sublist enlisted' ∧
      (c'.without calls enlisted' = c.without calls enlisted ∨
        Step interp (c.without calls enlisted) (c'.without calls enlisted')) := by
  have hnew (job : Job) : ((c.enlisted ++ [job]).filter (!·.isAmong calls)).Sublist (enlisted ++ [job]) := by
    rw [List.filter_append]
    exact henlisted.append List.filter_sublist
  cases hs with
  | enlist job hjob hstop => exact ⟨_, hnew job, .inr (.enlist _ job hjob hstop)⟩
  | enlistCall preparation callback args hstop =>
    exact ⟨_, hnew _, .inr (.enlistCall (c.without calls enlisted) preparation callback args hstop)⟩
  | send before after job w hsplit hw =>
    rw [hsplit] at henlisted
    cases hjob : job.isAmong calls with
    | true =>
      -- one of these calls gets in here, and not there
      refine ⟨enlisted, (filter_sublist_of_cons before after job).trans henlisted, .inl ?_⟩
      unfold without Incarnation.without
      dsimp only
      rw [Worker.without_of_send (m := .run job) hjob hw]
      simp [hjob]
    | false =>
      rw [List.filter_append, List.filter_cons_of_pos (by simp [hjob])] at henlisted
      -- its producer is among those that are left
      obtain ⟨p, q, rfl, hpq⟩ := exists_split_of_sublist henlisted
      have hsent : Step interp (c.without calls (p ++ job :: q)) _ :=
        .send _ p q job _ rfl (Worker.send_without hjob hw)
      refine ⟨p ++ q, by rwa [List.filter_append], .inr ?_⟩
      unfold without at hsent ⊢
      simp only [List.filter_append, List.filter_singleton, hjob, Bool.not_false, cond_true]
      exact hsent
  | refuse before after job e hsplit hw =>
    rw [hsplit] at henlisted
    exact ⟨enlisted, (filter_sublist_of_cons before after job).trans henlisted, .inl rfl⟩
  | cancel t => exact ⟨enlisted, henlisted, .inr (.cancel (c.without calls enlisted) t)⟩
  | raise => cases hclear.serving
  | wake w hstop hw =>
    have hopen := hclear.serving
    dsimp only at hopen
    rw [Worker.send_eq_ok hw] at hopen
    cases hopen.symm.trans hstop
  | touch sandbox => exact ⟨enlisted, henlisted, .inr (.touch (c.without calls enlisted) sandbox)⟩
  | work listens state hs =>
    have hstage := stage_without_of_running calls hs
    exact ⟨enlisted, henlisted, .inr (.work (c.without calls enlisted) listens state hstage)⟩
  | release listens comp hs hcomp =>
    have hreleased : Step interp (c.without calls enlisted) _ :=
      .release _ listens comp (stage_without_of_running calls hs) hcomp
    refine ⟨enlisted, henlisted, .inr ?_⟩
    unfold without at hreleased ⊢
    dsimp only at hreleased ⊢
    rw [Incarnation.complete_without] at hreleased
    rw [List.filter_append]
    exact hreleased
  | advance scene i hi =>
    refine ⟨enlisted, henlisted, ?_⟩
    rcases advanced_of_advance? enlisted hreg hi hclear with heq | ⟨hi', heq⟩
    · exact .inl heq
    · refine .inr ?_
      have hstep := Step.advance (c.without calls enlisted) scene _ hi'
      exact heq ▸ hstep

theorem carried_without (hclear : c.Clear calls) (enlisted : List Job) :
    (c.without calls enlisted).carried = c.carried := by
  unfold carried without
  rw [List.filter_filter]
  refine List.filter_congr fun p hp => ?_
  obtain ⟨job, comp⟩ := p
  cases hjob : job.isAmong calls with
  | false => simp
  | true =>
    -- it has ended, and yet it never got in
    have hskipped : comp = .skipped := by
      by_contra hcomp
      exact hclear.out job hjob (.inr ⟨comp, hp, hcomp⟩)
    rw [hskipped]
    rfl

section
variable {works : Nat → Sandbox → σ → Sandbox × σ}

theorem Sealed.without (hs : Sealed interp works c c') {plugin : String} {capacity : Nat}
    (hreg : c.now.worker.Regular plugin capacity) (hclear : c'.Clear calls) {enlisted : List Job}
    (henlisted : (c.enlisted.filter (!·.isAmong calls)).Sublist enlisted) :
    ∃ enlisted', (c'.enlisted.filter (!·.isAmong calls)).Sublist enlisted' ∧
      (c'.without calls enlisted' = c.without calls enlisted ∨
        Sealed interp works (c.without calls enlisted) (c'.without calls enlisted')) := by
  have hclearNow : c.Clear calls := hclear.of_steps hs.steps
  cases hs with
  | quiet hs hended hnow =>
    obtain ⟨enlisted', henlisted', hor⟩ := hs.without hreg hclear henlisted
    refine ⟨enlisted', henlisted', hor.imp_right fun hstep => .quiet hstep ?_ hnow⟩
    unfold Chronicle.without
    rw [hended]
  | run job scene i hs hi =>
    refine ⟨enlisted, henlisted, ?_⟩
    have hbegin : i = c.now.begin interp scene job := by
      unfold Incarnation.advance? at hi
      rw [hs] at hi
      exact (Option.some.inj hi).symm
    subst hbegin
    cases hjob : job.isAmong calls with
    | true => exact .inl (advanced_of_not_entered enlisted hs hjob (hclear.out job hjob))
    | false =>
      obtain ⟨hi', heq⟩ := advanced_of_chosen enlisted hs hjob hclear.serving hclear.sent
      have hrun : Sealed interp works (c.without calls enlisted) _ :=
        .run _ job scene _ (stage_without_of_chosen calls hs hjob) hi'
      exact .inr (heq ▸ hrun)
  | release listens comp hs hcomp =>
    have hreleased : Sealed interp works (c.without calls enlisted) _ :=
      .release _ listens comp (stage_without_of_running calls hs) hcomp
    refine ⟨enlisted, henlisted, .inr ?_⟩
    rw [carried_without hclearNow] at hreleased
    unfold Chronicle.without at hreleased ⊢
    rw [List.filter_append]
    rcases hcomp with rfl | rfl <;> exact hreleased

/-! ## Runs -/

variable {plugin : String} {capacity : Nat} {sandbox : Sandbox} {state : σ}

theorem exists_without {R : Chronicle σ → Chronicle σ → Prop} (hsteps : ∀ c c', R c c' → Steps interp c c')
    (hwithout : ∀ c c' enlisted, R c c' → c.now.worker.Regular plugin (max capacity 1) → c'.Clear calls →
      (c.enlisted.filter (!·.isAmong calls)).Sublist enlisted →
        ∃ enlisted', (c'.enlisted.filter (!·.isAmong calls)).Sublist enlisted' ∧
          (c'.without calls enlisted' = c.without calls enlisted ∨
            R (c.without calls enlisted) (c'.without calls enlisted')))
    (hs : Relation.ReflTransGen R (start plugin capacity sandbox state) c) (hclear : c.Clear calls) :
    ∃ enlisted, (c.enlisted.filter (!·.isAmong calls)).Sublist enlisted ∧
      Relation.ReflTransGen R (start plugin capacity sandbox state) (c.without calls enlisted) := by
  induction hs with
  | refl => exact ⟨[], .slnil, .refl⟩
  | @tail c c' hbefore hstep ih =>
    obtain ⟨enlisted, henlisted, hrun⟩ := ih (hclear.of_steps (hsteps c c' hstep))
    have hreg := (steps_of_run hsteps hbefore).regular (Worker.regular_start plugin capacity)
    obtain ⟨enlisted', henlisted', heq | hnext⟩ := hwithout c c' enlisted hstep hreg hclear henlisted
    · exact ⟨enlisted', henlisted', heq ▸ hrun⟩
    · exact ⟨enlisted', henlisted', hrun.tail hnext⟩

theorem Steps.without (hs : Steps interp (start plugin capacity sandbox state) c) (hclear : c.Clear calls) :
    ∃ enlisted, Steps interp (start plugin capacity sandbox state) (c.without calls enlisted) := by
  obtain ⟨enlisted, -, hrun⟩ := exists_without (fun _ _ => Step.single)
    (fun _ _ _ hstep hreg hclear henlisted => hstep.without hreg hclear henlisted) hs.run hclear
  exact ⟨enlisted, steps_of_run (fun _ _ => Step.single) hrun⟩

theorem SealedFrom.without (h : SealedFrom interp works sandbox state c) (hclear : c.Clear calls) :
    ∃ enlisted, SealedFrom interp works sandbox state (c.without calls enlisted) := by
  obtain ⟨plugin, capacity, hs⟩ := h
  obtain ⟨enlisted, -, hrun⟩ := exists_without (fun _ _ => Sealed.steps)
    (fun _ _ _ hstep hreg hclear henlisted => hstep.without hreg hclear henlisted) hs hclear
  exact ⟨enlisted, plugin, capacity, hrun⟩

/-! ## What is left -/

structure Erased (calls : List Ticket) (a b : Chronicle σ) : Prop where
  accepted : b.accepted = a.accepted.filter (!·.isAmong calls)
  ended : b.ended = a.ended.filter (!·.1.isAmong calls)
  sandbox : b.now.sandbox = a.now.sandbox
  state : b.now.state = a.now.state
  events : b.now.events = a.now.events
  reply : ∀ t ∉ calls, b.now.worker.reply t = a.now.worker.reply t

theorem erased_without (calls : List Ticket) (c : Chronicle σ) (enlisted : List Job) :
    Erased calls c (c.without calls enlisted) where
  accepted := rfl
  ended := rfl
  sandbox := rfl
  state := rfl
  events := rfl
  reply := fun _ ht => Worker.reply_without ht c.now.worker

end

end Chronicle

end PluginSandbox
