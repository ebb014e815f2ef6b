import PluginSandbox.Proofs.Worker.Chronicle
import PluginSandbox.Proofs.Worker.Runs

/-!
# What a step can do

Every step accounts for the jobs in the same way: what was accepted and what
was sent comes out again as chosen, discarded or still waiting, and what was
chosen ends or is under way. The properties of workers are derived from this.
-/

namespace PluginSandbox

variable {σ : Type}

/-! ## What messages, turns and jobs change -/

namespace Worker

theorem send_eq_ok {w w' : Worker} {m : Message} (h : w.send m = .ok w') :
    w' = { w with queue := w.queue ++ [m] } := by
  unfold send at h
  split at h
  · cases h
  · split at h
    · cases h
    · cases h; rfl

theorem isClosed_of_send {w w' : Worker} {m : Message} (h : w.send m = .ok w') : w.isClosed = false := by
  unfold send at h
  split at h
  · cases h
  next hc => simpa using hc

theorem submit_eq_ok {w w' : Worker} {job : Job} (h : w.submit job = .ok w') :
    w.stopping = false ∧ w.send (.run job) = .ok w' := by
  unfold submit at h
  split at h
  · cases h
  next hs => exact ⟨by simpa using hs, h⟩

/-- What running a job may do to its own worker: put jobs into the queue, and raise the stop flag. -/
structure Grows (w w' : Worker) (sent : List Job) : Prop where
  stage : w'.stage = w.stage
  waiting : w'.waiting = w.waiting ++ sent
  discarded : w'.discarded = w.discarded
  stopping : w.stopping = true → w'.stopping = true
  issued : w'.issued = w.issued
  cancelled : w'.cancelled = w.cancelled
  results : w'.results = w.results

theorem Grows.refl (w : Worker) : w.Grows w [] :=
  ⟨rfl, (List.append_nil _).symm, rfl, id, rfl, rfl, rfl⟩

theorem grows_watch (w : Worker) (t : Ticket) : w.Grows (w.watch t) [] :=
  ⟨rfl, (List.append_nil _).symm, rfl, id, rfl, rfl, rfl⟩

theorem grows_submit {w w' : Worker} {job : Job} (h : w.submit job = .ok w') : w.Grows w' [job] := by
  rw [send_eq_ok (submit_eq_ok h).2]
  exact ⟨rfl, by simp [Worker.waiting, Message.job?], rfl, id, rfl, rfl, rfl⟩

theorem grows_stop (w : Worker) : w.Grows w.stop [] := by
  unfold stop
  split
  next w' h =>
    rw [send_eq_ok h]
    exact ⟨rfl, by simp [Worker.waiting, Message.job?, raise], rfl, fun _ => rfl, rfl, rfl, rfl⟩
  next => exact ⟨rfl, (List.append_nil _).symm, rfl, fun _ => rfl, rfl, rfl, rfl⟩

end Worker

namespace Incarnation

theorem worker_enter (interp : Interpreter σ) (scene : Scene) (i : Incarnation σ) (callback : String)
    (args : Json) : (i.enter interp scene callback args).2.worker = i.worker := by
  unfold enter
  dsimp only
  split <;> rfl

theorem grows_sendOwn (i : Incarnation σ) (label : Json) (notice invoke : Option (String × Json)) :
    i.worker.Grows (i.sendOwn notice).worker (i.sends (.task (.chain label notice invoke))) := by
  cases notice with
  | none => exact .refl _
  | some notice =>
    obtain ⟨callback, args⟩ := notice
    unfold sendOwn sends
    dsimp only
    cases h : i.worker.notify callback args with
    | ok w => exact Worker.grows_submit h
    | error e => exact .refl _

theorem grows_run (interp : Interpreter σ) (scene : Scene) (i : Incarnation σ) (job : Job) :
    i.worker.Grows (i.run interp scene job).2.worker (i.sends job) := by
  have hruns := i.runs interp scene job
  generalize i.run interp scene job = r at hruns ⊢
  cases hruns with
  | skipped | parked => exact .refl _
  | refused t | panicked t | overBudget t => exact i.worker.grows_watch t
  | passed t | budgeted t =>
    rw [worker_enter]
    exact i.worker.grows_watch t
  | noticed =>
    rw [worker_enter]
    exact .refl _
  | stopped => exact i.worker.grows_stop
  | done label notice => exact grows_sendOwn (i.record (.job label)) label notice none
  | chained label notice callback args =>
    rw [worker_enter]
    exact grows_sendOwn (i.record (.job label)) label notice (some (callback, args))

theorem worker_awake? {interp : Interpreter σ} {i : Incarnation σ} {job : Job} {r : Completion × Incarnation σ}
    (h : i.awake? interp job = some r) : r.2.worker = i.worker := by
  cases awakes_of_awake? h with
  | parked | inside => rfl

end Incarnation

/-! ## The account of a step -/

def resultOf? : Job × Completion → Option (Ticket × CallResult)
  | (job, .returned r) => job.ticket?.map (·, r)
  | _ => none

namespace Worker

/-- From `w` to `w'` the jobs `sent` were accepted, `chosen` were taken to be run, `thrown` were
discarded, and `ended` came to their ends. -/
structure Moves (w w' : Worker) (sent chosen thrown : List Job) (ended : List (Job × Completion)) : Prop where
  jobs : w.stage.held ++ w.waiting ++ sent = chosen ++ thrown ++ (w'.stage.held ++ w'.waiting)
  underway : w.stage.underway ++ chosen = ended.map (·.1) ++ w'.stage.underway
  discarded : w'.discarded = w.discarded + thrown.length
  isOver : w.stage.isOver = true → w'.stage.isOver = true ∧ chosen = []
  thrown : thrown ≠ [] → w'.stage.isOver = true
  emptied : (w.left = true → w.queue = []) → w'.left = true → w'.queue = []
  stopping : w.stopping = true → w'.stopping = true ∧ chosen = []
  issued : w.issued ≤ w'.issued
  cancelled : ∀ t ∈ w.cancelled, t ∈ w'.cancelled
  results : w'.results = (ended.filterMap resultOf?).reverse ++ w.results

theorem Moves.of_same {w w' : Worker} (hs : w'.stage = w.stage) (hq : w'.queue = w.queue)
    (hd : w'.discarded = w.discarded) (hp : w.stopping = true → w'.stopping = true)
    (hi : w.issued ≤ w'.issued) (hc : ∀ t ∈ w.cancelled, t ∈ w'.cancelled) (hr : w'.results = w.results) :
    w.Moves w' [] [] [] [] where
  jobs := by simp [hs, hq, Worker.waiting]
  underway := by simp [hs]
  discarded := hd
  isOver := fun h => ⟨hs ▸ h, rfl⟩
  thrown := fun h => absurd rfl h
  emptied := by
    intro he hl
    rw [hq]
    unfold left at he hl
    exact he (hs ▸ hl)
  stopping := fun h => ⟨hp h, rfl⟩
  issued := hi
  cancelled := hc
  results := hr

theorem moves_send {w w' : Worker} {m : Message} (h : w.send m = .ok w') :
    w.Moves w' m.job?.toList [] [] [] := by
  have hopen := isClosed_of_send h
  rw [send_eq_ok h]
  exact {
    jobs := by cases m <;> simp [Worker.waiting, Message.job?]
    underway := by simp
    discarded := rfl
    isOver := fun h => ⟨h, rfl⟩
    thrown := fun h => absurd rfl h
    emptied := by
      intro _ hl
      unfold isClosed at hopen
      unfold left at hl
      cases hs : w.stage <;> simp [hs] at hopen hl
    stopping := fun h => ⟨h, rfl⟩
    issued := Nat.le_refl _
    cancelled := fun _ h => h
    results := rfl }

theorem complete_eq (w : Worker) (job : Job) (c : Completion) :
    ∃ current, w.complete job c =
      { w with stage := .idle, current, results := (resultOf? (job, c)).toList ++ w.results } := by
  cases c with
  | returned r =>
    cases job with
    | call t => exact ⟨none, rfl⟩
    | notice => exact ⟨w.current, rfl⟩
    | task => exact ⟨w.current, rfl⟩
  | done => exact ⟨w.current, rfl⟩
  | skipped => exact ⟨w.current, rfl⟩
  | panicked => exact ⟨w.current, rfl⟩

theorem moves_complete {w w' : Worker} {job : Job} {sent : List Job}
    (hs : w.stage = .chosen job ∨ w.stage = .running job) (hg : w.Grows w' sent) (c : Completion) :
    w.Moves (w'.complete job c) sent [] [] [(job, c)] := by
  have hheld : w.stage.held = [] := by rcases hs with h | h <;> rw [h] <;> rfl
  have hunder : w.stage.underway = [job] := by rcases hs with h | h <;> rw [h] <;> rfl
  have hover : w.stage.isOver = false := by rcases hs with h | h <;> rw [h] <;> rfl
  obtain ⟨current, hw⟩ := w'.complete_eq job c
  rw [hw]
  exact {
    jobs := by rw [hheld]; exact hg.waiting.symm
    underway := by rw [hunder]; rfl
    discarded := hg.discarded
    isOver := fun h => by rw [hover] at h; cases h
    thrown := fun h => absurd rfl h
    emptied := fun _ hl => by cases hl
    stopping := fun h => ⟨hg.stopping h, rfl⟩
    issued := Nat.le_of_eq hg.issued.symm
    cancelled := by rw [hg.cancelled]; exact fun _ h => h
    results := by
      rw [hg.results]
      cases h : resultOf? (job, c) <;> simp [h] }

theorem moves_wait {w w' : Worker} {job : Job} {sent : List Job} (hs : w.stage = .chosen job)
    (hg : w.Grows w' sent) : w.Moves { w' with stage := .running job } sent [] [] [] where
  jobs := by rw [hs]; exact hg.waiting.symm
  underway := by rw [hs]; rfl
  discarded := hg.discarded
  isOver := fun h => by rw [hs] at h; cases h
  thrown := fun h => absurd rfl h
  emptied := fun _ hl => by cases hl
  stopping := fun h => ⟨hg.stopping h, rfl⟩
  issued := Nat.le_of_eq hg.issued.symm
  cancelled := by rw [hg.cancelled]; exact fun _ h => h
  results := hg.results

theorem moves_loop (w : Worker) (stage : Stage) (queue : List Message) (chosen thrown : List Job)
    (hjobs : w.stage.held ++ w.waiting = chosen ++ thrown ++ (stage.held ++ queue.filterMap Message.job?))
    (hunder : w.stage.underway ++ chosen = stage.underway)
    (hover : w.stage.isOver = true → stage.isOver = true ∧ chosen = [])
    (hthrown : thrown ≠ [] → stage.isOver = true) (hgone : stage = .gone → queue = [])
    (hstop : w.stopping = true → chosen = []) :
    w.Moves { w with stage, queue, discarded := w.discarded + thrown.length } [] chosen thrown [] where
  jobs := by rw [List.append_nil]; exact hjobs
  underway := hunder
  discarded := rfl
  isOver := hover
  thrown := hthrown
  emptied := by
    intro _ hl
    cases stage <;> first | exact hgone rfl | cases hl
  stopping := fun h => ⟨h, hstop h⟩
  issued := Nat.le_refl _
  cancelled := fun _ h => h
  results := rfl

theorem moves_turn? {w w' : Worker} (h : w.turn? = some w') : w.Moves w' [] w.chooses w.throws [] := by
  cases turns_of_turn? h with
  | taken m rest hs hq =>
    have hjobs : w.stage.held ++ w.waiting = [] ++ [] ++ (m.job?.toList ++ rest.filterMap Message.job?) := by
      rw [hs, Worker.waiting, hq]
      cases m <;> rfl
    unfold chooses throws
    rw [hs]
    exact moves_loop w (.holding m) rest [] [] hjobs (by rw [hs]; rfl)
      (fun h => by rw [hs] at h; cases h) (fun h => absurd rfl h) (fun h => by cases h) fun _ => rfl
  | chose job hs hflag =>
    unfold chooses throws
    rw [hs]
    dsimp only
    rw [if_neg (Bool.eq_false_iff.mp hflag), if_neg (Bool.eq_false_iff.mp hflag)]
    exact moves_loop w (.chosen job) w.queue [job] [] (by rw [hs]; rfl) (by rw [hs]; rfl)
      (fun h => by rw [hs] at h; cases h) (fun h => absurd rfl h) (fun h => by cases h)
      fun h => by cases hflag.symm.trans h
  | woken hs hflag =>
    unfold chooses throws
    rw [hs]
    dsimp only
    rw [if_neg (Bool.eq_false_iff.mp hflag), if_neg (Bool.eq_false_iff.mp hflag)]
    exact moves_loop w .leaving w.queue [] [] (by rw [hs]; rfl) (by rw [hs]; rfl)
      (fun _ => ⟨rfl, rfl⟩) (fun _ => rfl) (fun h => by cases h) fun _ => rfl
  | dropped m hs hflag =>
    unfold chooses throws
    rw [hs]
    dsimp only
    rw [if_pos hflag, if_pos hflag]
    exact moves_loop w .leaving w.queue [] _ (by rw [hs]; rfl) (by rw [hs]; rfl)
      (fun _ => ⟨rfl, rfl⟩) (fun _ => rfl) (fun h => by cases h) fun _ => rfl
  | closed hs =>
    unfold chooses throws
    rw [hs]
    exact moves_loop w .closing w.queue [] [] (by rw [hs]; rfl) (by rw [hs]; rfl)
      (fun _ => ⟨rfl, rfl⟩) (fun _ => rfl) (fun h => by cases h) fun _ => rfl
  | discarded m rest hs hq =>
    -- the worker goes on closing until its queue is empty
    have hchooses : w.chooses = [] := by unfold chooses; rw [hs]
    have hthrows : w.throws = m.job?.toList := by unfold throws; rw [hs, hq]
    have hjobs : w.stage.held ++ w.waiting =
        [] ++ m.job?.toList ++ (w.stage.held ++ rest.filterMap Message.job?) := by
      rw [hs, Worker.waiting, hq]
      cases m <;> rfl
    rw [hchooses, hthrows]
    exact moves_loop w w.stage rest [] _ hjobs (List.append_nil _) (fun h => ⟨h, rfl⟩)
      (fun _ => by rw [hs]; rfl) (fun h => by rw [hs] at h; cases h) fun _ => rfl
  | gone hs hq =>
    have hchooses : w.chooses = [] := by unfold chooses; rw [hs]
    have hthrows : w.throws = [] := by unfold throws; rw [hs, hq]
    rw [hchooses, hthrows]
    exact moves_loop w .gone w.queue [] [] (by rw [hs]; rfl) (by rw [hs]; rfl)
      (fun _ => ⟨rfl, rfl⟩) (fun _ => rfl) (fun _ => hq) fun _ => rfl

theorem chooses_throws_of_busy {w : Worker} {job : Job} (hs : w.stage = .chosen job ∨ w.stage = .running job) :
    w.chooses = [] ∧ w.throws = [] := by
  unfold chooses throws
  rcases hs with hs | hs
  · rw [hs]
    exact ⟨rfl, rfl⟩
  · rw [hs]
    exact ⟨rfl, rfl⟩

end Worker

namespace Incarnation

/-- What one move of a worker can be: a chosen job runs to its end or to a wait, a wait ends, or the
loop turns. -/
inductive Advance (interp : Interpreter σ) (scene : Scene) (i : Incarnation σ) :
    Incarnation σ → List Job → List Job → List Job → List (Job × Completion) → Prop where
  | ended {job : Job} {comp : Completion} {i' : Incarnation σ} (hs : i.worker.stage = .chosen job)
      (hr : i.run interp scene job = (some comp, i')) :
      Advance interp scene i (i'.complete job comp) (i.sends job) [] [] [(job, comp)]
  | waits {job : Job} {i' : Incarnation σ} (hs : i.worker.stage = .chosen job)
      (hr : i.run interp scene job = (none, i')) :
      Advance interp scene i { i' with worker.stage := .running job } (i.sends job) [] [] []
  | awoken {job : Job} {comp : Completion} {i' : Incarnation σ} (hs : i.worker.stage = .running job)
      (ha : i.awake? interp job = some (comp, i')) :
      Advance interp scene i (i'.complete job comp) [] [] [] [(job, comp)]
  | turned {i' : Incarnation σ} (hw : i.worker.turn? = some i'.worker) (hstate : i'.state = i.state) :
      Advance interp scene i i' [] i.worker.chooses i.worker.throws []

variable {interp : Interpreter σ} {scene : Scene} {i i' : Incarnation σ}

theorem advance_of_advance? (h : i.advance? interp scene = some i') :
    Advance interp scene i i' i.accepts i.worker.chooses i.worker.throws (i.ends interp scene) := by
  unfold advance? at h
  unfold accepts ends
  cases hs : i.worker.stage with
  | chosen job =>
    obtain ⟨hchooses, hthrows⟩ := Worker.chooses_throws_of_busy (.inl hs)
    rw [hs] at h
    cases h
    rw [hchooses, hthrows]
    unfold begin
    dsimp only
    split
    next comp i₁ hr =>
      rw [hr]
      exact .ended hs hr
    next i₁ hr =>
      rw [hr]
      exact .waits hs hr
  | running job =>
    obtain ⟨hchooses, hthrows⟩ := Worker.chooses_throws_of_busy (.inr hs)
    rw [hs] at h
    obtain ⟨r, hr, hi⟩ := Option.map_eq_some_iff.mp h
    subst hi
    rw [hchooses, hthrows]
    dsimp only
    rw [hr]
    exact .awoken hs hr
  | _ =>
    rw [hs] at h
    obtain ⟨w, hw, hi⟩ := Option.map_eq_some_iff.mp h
    have hworker : i'.worker = w ∧ i'.state = i.state := by
      rw [← hi]
      split <;> exact ⟨rfl, rfl⟩
    exact .turned (hw.trans (congrArg some hworker.1.symm)) hworker.2

theorem Advance.moves {sent chosen thrown : List Job} {ended : List (Job × Completion)}
    (h : Advance interp scene i i' sent chosen thrown ended) :
    i.worker.Moves i'.worker sent chosen thrown ended := by
  cases h with
  | @ended job _ _ hs hr =>
    have hg := grows_run interp scene i job
    rw [hr] at hg
    exact Worker.moves_complete (.inl hs) hg _
  | @waits job _ hs hr =>
    have hg := grows_run interp scene i job
    rw [hr] at hg
    exact Worker.moves_wait hs hg
  | awoken hs ha =>
    refine Worker.moves_complete (.inr hs) ?_ _
    rw [worker_awake? ha]
    exact .refl _
  | turned hw _ => exact Worker.moves_turn? hw

end Incarnation

namespace Chronicle

/-- **The account of a step.** -/
theorem Step.moves {interp : Interpreter σ} {c c' : Chronicle σ} (h : Step interp c c') :
    ∃ sent chosen thrown ended,
      c'.accepted = c.accepted ++ sent ∧ c'.begun = c.begun ++ chosen ∧ c'.thrown = c.thrown ++ thrown ∧
        c'.ended = c.ended ++ ended ∧ c.now.worker.Moves c'.now.worker sent chosen thrown ended := by
  have hnil {α : Type} (l : List α) : l = l ++ [] := (List.append_nil l).symm
  cases h with
  | enlist job hjob hstop =>
    exact ⟨[], [], [], [], hnil _, hnil _, hnil _, hnil _,
      .of_same rfl rfl rfl id (Nat.le_refl _) (fun _ h => h) rfl⟩
  | enlistCall preparation callback args hstop =>
    exact ⟨[], [], [], [], hnil _, hnil _, hnil _, hnil _,
      .of_same rfl rfl rfl id (Nat.le_succ _) (fun _ h => h) rfl⟩
  | send before after job w henlisted hw =>
    exact ⟨[job], [], [], [], rfl, hnil _, hnil _, hnil _, Worker.moves_send hw⟩
  | refuse before after job e henlisted hw =>
    exact ⟨[], [], [], [], hnil _, hnil _, hnil _, hnil _,
      .of_same rfl rfl rfl id (Nat.le_refl _) (fun _ h => h) rfl⟩
  | cancel t =>
    exact ⟨[], [], [], [], hnil _, hnil _, hnil _, hnil _,
      .of_same rfl rfl rfl id (Nat.le_refl _) (fun _ h => List.mem_cons_of_mem _ h) rfl⟩
  | raise =>
    exact ⟨[], [], [], [], hnil _, hnil _, hnil _, hnil _,
      .of_same rfl rfl rfl (fun _ => rfl) (Nat.le_refl _) (fun _ h => h) rfl⟩
  | wake w hstop hw =>
    exact ⟨[], [], [], [], hnil _, hnil _, hnil _, hnil _, Worker.moves_send hw⟩
  | touch sandbox =>
    exact ⟨[], [], [], [], hnil _, hnil _, hnil _, hnil _,
      .of_same rfl rfl rfl id (Nat.le_refl _) (fun _ h => h) rfl⟩
  | work listens state hs =>
    exact ⟨[], [], [], [], hnil _, hnil _, hnil _, hnil _,
      .of_same rfl rfl rfl id (Nat.le_refl _) (fun _ h => h) rfl⟩
  | release listens comp hs hcomp =>
    exact ⟨[], [], [], _, hnil _, hnil _, hnil _, rfl, Worker.moves_complete (.inr hs) (.refl _) comp⟩
  | advance scene i hi =>
    exact ⟨_, _, _, _, rfl, rfl, rfl, rfl, (Incarnation.advance_of_advance? hi).moves⟩

end Chronicle

end PluginSandbox
