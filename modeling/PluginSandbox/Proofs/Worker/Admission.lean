import PluginSandbox.Proofs.Delivery.Attempts
import PluginSandbox.Proofs.Worker.Interrupt

/-!
# What a queue lets in

A queue never holds more than its capacity. Until the stop flag is set it holds
accepted jobs and nothing else, and lets a job in exactly if there is room; from
then on it lets in none.
-/

namespace PluginSandbox

variable {σ : Type}

namespace Worker

/-! ## Queues in order -/

/-- The queue is within its capacity, and nothing tells the worker to leave before the flag does. -/
structure Regular (plugin : String) (capacity : Nat) (w : Worker) : Prop where
  plugin : w.plugin = plugin
  capacity : w.capacity = capacity
  fits : w.queue.length ≤ w.capacity
  queue : w.stopping = false → .wake ∉ w.queue
  stage : w.stopping = false → w.stage ≠ .holding .wake ∧ w.stage.isOver = false

variable {plugin : String} {capacity : Nat} {w w' : Worker}

theorem regular_start (plugin : String) (capacity : Nat) : (start plugin capacity).Regular plugin (max capacity 1) where
  plugin := rfl
  capacity := rfl
  fits := Nat.zero_le _
  queue := fun _ => List.not_mem_nil
  stage := fun _ => ⟨nofun, rfl⟩

theorem length_of_send {m : Message} (h : w.send m = .ok w') : w.queue.length < w.capacity := by
  unfold send at h
  split at h
  · cases h
  · split at h
    · cases h
    next hroom => exact Nat.lt_of_not_le hroom

theorem Regular.send (h : w.Regular plugin capacity) {m : Message} (hs : w.send m = .ok w')
    (hm : m = .wake → w.stopping = true) : w'.Regular plugin capacity := by
  have hroom := length_of_send hs
  rw [send_eq_ok hs]
  refine ⟨h.plugin, h.capacity, ?_, fun hflag hwake => ?_, h.stage⟩
  · rw [List.length_append]
    exact hroom
  · rcases List.mem_append.mp hwake with hold | hnew
    · exact h.queue hflag hold
    · exact Bool.false_ne_true (hflag.symm.trans (hm (List.mem_singleton.mp hnew).symm))

theorem Regular.stop (h : w.Regular plugin capacity) : w.stop.Regular plugin capacity := by
  have hraised : w.raise.Regular plugin capacity := ⟨h.plugin, h.capacity, h.fits, nofun, nofun⟩
  unfold Worker.stop
  split
  next hs => exact hraised.send hs fun _ => rfl
  next => exact hraised

theorem Regular.busy (h : w.Regular plugin capacity) (job : Job) :
    ({ w with stage := .running job } : Worker).Regular plugin capacity :=
  ⟨h.plugin, h.capacity, h.fits, h.queue, fun _ => ⟨nofun, rfl⟩⟩

theorem Regular.complete (h : w.Regular plugin capacity) (job : Job) (c : Completion) :
    (w.complete job c).Regular plugin capacity := by
  obtain ⟨current, hw⟩ := w.complete_eq job c
  rw [hw]
  exact ⟨h.plugin, h.capacity, h.fits, h.queue, fun _ => ⟨nofun, rfl⟩⟩

theorem Regular.turn? (h : w.Regular plugin capacity) (ht : w.turn? = some w') : w'.Regular plugin capacity := by
  have hover := fun hflag => (h.stage hflag).2
  have hfits := h.fits
  have hqueue := h.queue
  cases turns_of_turn? ht with
  | taken m rest hs hq =>
    rw [hq] at hfits hqueue
    refine ⟨h.plugin, h.capacity, Nat.le_of_succ_le hfits, fun hflag hm => ?_, fun hflag => ⟨fun hm => ?_, rfl⟩⟩
    · exact hqueue hflag (List.mem_cons_of_mem _ hm)
    · cases hm
      exact hqueue hflag List.mem_cons_self
  | chose job => exact ⟨h.plugin, h.capacity, hfits, hqueue, fun _ => ⟨nofun, rfl⟩⟩
  | woken hs hflag => exact absurd hs (h.stage hflag).1
  | dropped m hs hflag =>
    exact ⟨h.plugin, h.capacity, hfits, hqueue, fun hup => by cases hup.symm.trans hflag⟩
  | closed hs =>
    rw [hs] at hover
    exact ⟨h.plugin, h.capacity, hfits, hqueue, fun hflag => nomatch hover hflag⟩
  | discarded m rest hs hq =>
    rw [hs] at hover
    rw [hq] at hfits
    exact ⟨h.plugin, h.capacity, Nat.le_of_succ_le hfits, fun hflag => (nomatch hover hflag),
      fun hflag => nomatch hover hflag⟩
  | gone hs =>
    rw [hs] at hover
    exact ⟨h.plugin, h.capacity, hfits, hqueue, fun hflag => nomatch hover hflag⟩

/-! ## Submissions -/

def takeIn (w : Worker) (job : Job) : Option DispatchError × Worker :=
  match w.submit job with
  | .ok w' => (none, w')
  | .error e => (some e, w)

theorem takeIn_refused {e : DispatchError} (h : w.refusal? = some e) (job : Job) : w.takeIn job = (some e, w) := by
  rw [takeIn, submit_eq, h]

theorem takeIn_accepted (h : w.refusal? = none) (job : Job) :
    w.takeIn job = (none, { w with queue := w.queue ++ [.run job] }) := by
  rw [takeIn, submit_eq, h]

theorem Regular.isStopped (h : w.Regular plugin capacity) : w.isStopped = w.stopping := by
  have hstage := h.stage
  unfold Worker.isStopped isClosed
  cases hflag : w.stopping with
  | true => rfl
  | false =>
    have hover := (hstage hflag).2
    cases hs : w.stage <;> rw [hs] at hover <;> first | rfl | cases hover

theorem length_waiting {queue : List Message} (h : .wake ∉ queue) :
    (queue.filterMap Message.job?).length = queue.length := by
  induction queue with
  | nil => rfl
  | cons m rest ih =>
    rw [List.mem_cons, not_or] at h
    cases m with
    | wake => exact absurd rfl h.1
    | run job => exact congrArg (· + 1) (ih h.2)

theorem Regular.queued_eq (h : w.Regular plugin capacity) (hflag : w.stopping = false) :
    w.queued = w.waiting.length :=
  (length_waiting (h.queue hflag)).symm

theorem Regular.takeIn_open (h : w.Regular plugin capacity) (hflag : w.stopping = false) (job : Job) :
    w.takeIn job =
      if w.waiting.length < capacity then (none, { w with queue := w.queue ++ [.run job] })
      else (some (.queueFull plugin), w) := by
  have hopen : ¬ w.isStopped = true := by rw [h.isStopped, hflag]; exact Bool.false_ne_true
  have hcount : w.queue.length = w.waiting.length := h.queued_eq hflag
  have hrefusal : w.refusal? = if w.waiting.length < capacity then none else some (.queueFull plugin) := by
    rw [refusal?, if_neg hopen, h.capacity, hcount, h.plugin]
    by_cases hroom : w.waiting.length < capacity
    · rw [if_pos hroom, if_neg (Nat.not_le_of_lt hroom)]
    · rw [if_neg hroom, if_pos (Nat.le_of_not_lt hroom)]
  by_cases hroom : w.waiting.length < capacity
  · rw [if_pos hroom] at hrefusal ⊢
    exact takeIn_accepted hrefusal job
  · rw [if_neg hroom] at hrefusal ⊢
    exact takeIn_refused hrefusal job

theorem Regular.takeIn_stopping (h : w.Regular plugin capacity) (hflag : w.stopping = true) (job : Job) :
    w.takeIn job = (some (.workerStopped plugin), w) := by
  have hrefusal : w.refusal? = some (.workerStopped plugin) := by
    rw [refusal?, if_pos (h.isStopped.trans hflag), h.plugin]
  exact takeIn_refused hrefusal job

end Worker

namespace Incarnation

variable {interp : Interpreter σ} {scene : Scene} {plugin : String} {capacity : Nat} {i i' : Incarnation σ}

theorem regular_sendOwn (h : i.worker.Regular plugin capacity) (notice : Option (String × Json)) :
    (i.sendOwn notice).worker.Regular plugin capacity := by
  unfold sendOwn
  split
  · exact h
  · split
    next hs => exact h.send (Worker.submit_eq_ok hs).2 nofun
    next => exact h

variable (interp scene) in
theorem regular_run (h : i.worker.Regular plugin capacity) (job : Job) :
    (i.run interp scene job).2.worker.Regular plugin capacity := by
  have hwatch (t : Ticket) : (i.worker.watch t).Regular plugin capacity :=
    ⟨h.plugin, h.capacity, h.fits, h.queue, h.stage⟩
  have hruns := i.runs interp scene job
  generalize i.run interp scene job = r at hruns ⊢
  cases hruns with
  | skipped | parked => exact h
  | refused t | panicked t | overBudget t => exact hwatch t
  | passed t | budgeted t =>
    rw [worker_enter]
    exact hwatch t
  | noticed =>
    rw [worker_enter]
    exact h
  | stopped => exact h.stop
  | done label notice => exact regular_sendOwn (i := i.record (.job label)) h notice
  | chained label notice =>
    rw [worker_enter]
    exact regular_sendOwn (i := i.record (.job label)) h notice

theorem Advance.regular {sent chosen thrown : List Job} {ended : List (Job × Completion)}
    (ha : Advance interp scene i i' sent chosen thrown ended) (h : i.worker.Regular plugin capacity) :
    i'.worker.Regular plugin capacity := by
  cases ha with
  | @ended job comp j hs hr =>
    have hrun := regular_run interp scene h job
    rw [hr] at hrun
    exact hrun.complete job comp
  | @waits job j hs hr =>
    have hrun := regular_run interp scene h job
    rw [hr] at hrun
    exact hrun.busy job
  | @awoken job comp j hs ha =>
    have hsame : j.worker = i.worker := worker_awake? ha
    exact Worker.Regular.complete (hsame ▸ h) job comp
  | turned hw _ => exact h.turn? hw

end Incarnation

namespace Chronicle

variable {interp : Interpreter σ} {plugin : String} {capacity : Nat} {c c' : Chronicle σ}

theorem Step.regular (hs : Step interp c c') (h : c.now.worker.Regular plugin capacity) :
    c'.now.worker.Regular plugin capacity := by
  cases hs with
  | send before after job w henlisted hw => exact h.send hw nofun
  | wake w hflag hw => exact h.send hw fun _ => hflag
  | raise => exact ⟨h.plugin, h.capacity, h.fits, nofun, nofun⟩
  | release listens comp hs hcomp => exact h.complete _ comp
  | advance scene i hi => exact (Incarnation.advance_of_advance? hi).regular h
  | enlistCall | cancel => exact ⟨h.plugin, h.capacity, h.fits, h.queue, h.stage⟩
  | _ => exact h

theorem Steps.regular (hs : Steps interp c c') (h : c.now.worker.Regular plugin capacity) :
    c'.now.worker.Regular plugin capacity := by
  induction hs with
  | refl => exact h
  | tail _ hstep ih => exact hstep.regular ih

theorem mem_of_stray? {ended : List (Job × Completion)} {t : Ticket} (h : stray? ended = some t) :
    ∃ job comp, (job, comp) ∈ ended ∧ job.ticket? = some t := by
  unfold stray? at h
  split at h
  next job hlast =>
    have hmem : (job, Completion.panicked) ∈ ended.filter wasEntered := List.mem_of_getLast? hlast
    exact ⟨job, _, List.mem_of_mem_filter hmem, h⟩
  next => cases h

/-- The interrupt watches no call that has not been submitted. -/
theorem Reachable.current_lt_issued (h : Reachable interp c) {t : Ticket} (ht : c.now.worker.current = some t) :
    t < c.now.worker.issued := by
  have hwatched : c.now.worker.stage.phase.call?.or (stray? c.ended) = some t :=
    h.moment.watching.current.symm.trans ht
  obtain ⟨job, hjob, hticket⟩ : ∃ job ∈ c.begun, job.ticket? = some t := by
    rw [h.orderly.turns]
    rcases Option.or_eq_some_iff.mp hwatched with hcall | ⟨-, hstray⟩
    · unfold Stage.phase at hcall
      split at hcall
      next u preparation callback args hs =>
        cases hcall
        rw [hs]
        exact ⟨_, List.mem_append_right _ (List.mem_singleton_self _), rfl⟩
      next => cases hcall
    · obtain ⟨job, comp, hended, hticket⟩ := mem_of_stray? hstray
      exact ⟨job, List.mem_append_left _ (List.mem_map_of_mem (f := (·.1)) hended), hticket⟩
  refine h.ticketed_explained.1.issued t (mem_tickets (List.mem_append_left _ ?_) hticket)
  rw [h.orderly.order, List.append_assoc]
  exact List.mem_append_left _ hjob

theorem Orderly.accepted_open (ho : c.Orderly) (h : c.now.worker.Regular plugin capacity)
    (hflag : c.now.worker.stopping = false) :
    c.accepted = (c.begun ++ c.now.worker.stage.held) ++ c.now.worker.waiting := by
  have hthrown : c.thrown = [] := by
    by_contra hne
    exact Bool.false_ne_true ((h.stage hflag).2.symm.trans (ho.isOver hne))
  rw [ho.order, hthrown, List.append_nil, waiting, List.append_assoc]

end Chronicle

end PluginSandbox
