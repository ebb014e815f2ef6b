import Mathlib.Data.List.Basic
import PluginSandbox.Proofs.Host.Outcomes
import PluginSandbox.Proofs.Worker.Moves

/-!
# What a delivery does

Handing out a payload makes one attempt for each handler, in order. The report
counts the attempts, and the queues of the workers grow by what was accepted
and by nothing else.
-/

namespace PluginSandbox

structure Attempt where
  handler : Registration
  payload : Json
  refusal : Option DispatchError
deriving DecidableEq

namespace Attempt

def isAccepted (a : Attempt) : Bool :=
  a.refusal.isNone

def message? (handle : Handle) (a : Attempt) : Option Message :=
  if a.isAccepted ∧ a.handler.handle = handle then some (.run (.notice a.handler.callback a.payload)) else none

end Attempt

variable {σ : Type}

def Fleet.attempts (payload : Json) : List Registration → Fleet σ → List Attempt
  | [], _ => []
  | r :: rest, f =>
    match f.notify r.handle r.callback payload with
    | .ok f => ⟨r, payload, none⟩ :: attempts payload rest f
    | .error e => ⟨r, payload, some e⟩ :: attempts payload rest f

def DispatchReport.on (attempts : List Attempt) : DispatchReport :=
  ⟨attempts.countP Attempt.isAccepted, attempts.filterMap Attempt.refusal⟩

theorem DispatchReport.on_total (attempts : List Attempt) :
    (on attempts).queued + (on attempts).failures.length = attempts.length := by
  unfold on
  dsimp only
  induction attempts with
  | nil => rfl
  | cons a attempts ih =>
    rw [List.countP_cons, List.filterMap_cons, List.length_cons]
    cases h : a.refusal with
    | none =>
      have ha : a.isAccepted = true := by rw [Attempt.isAccepted, h]; rfl
      rw [if_pos ha]
      dsimp only
      omega
    | some e =>
      have ha : ¬ a.isAccepted = true := by rw [Attempt.isAccepted, h]; exact Bool.false_ne_true
      rw [if_neg ha]
      dsimp only
      rw [List.length_cons]
      omega

def Incarnation.enqueue (i : Incarnation σ) (messages : List Message) : Incarnation σ :=
  { i with worker.queue := i.worker.queue ++ messages }

namespace Fleet

section
variable {f : Fleet σ} {r : Registration} {payload : Json} (rs : List Registration)

theorem attempts_accepted {f' : Fleet σ} (h : f.notify r.handle r.callback payload = .ok f') :
    f.attempts payload (r :: rs) = ⟨r, payload, none⟩ :: f'.attempts payload rs := by
  rw [attempts, h]

theorem attempts_refused {e : DispatchError} (h : f.notify r.handle r.callback payload = .error e) :
    f.attempts payload (r :: rs) = ⟨r, payload, some e⟩ :: f.attempts payload rs := by
  rw [attempts, h]

theorem deliver_accepted {f' : Fleet σ} (h : f.notify r.handle r.callback payload = .ok f') :
    f.deliver payload (r :: rs) =
      ({ (f'.deliver payload rs).1 with queued := (f'.deliver payload rs).1.queued + 1 },
        (f'.deliver payload rs).2) := by
  rw [deliver, h]

theorem deliver_refused {e : DispatchError} (h : f.notify r.handle r.callback payload = .error e) :
    f.deliver payload (r :: rs) =
      ({ (f.deliver payload rs).1 with failures := e :: (f.deliver payload rs).1.failures },
        (f.deliver payload rs).2) := by
  rw [deliver, h]

end

variable (payload : Json) (rs : List Registration) (f : Fleet σ)

theorem map_handler_attempts : (f.attempts payload rs).map (·.handler) = rs := by
  induction rs generalizing f with
  | nil => rfl
  | cons r rs ih =>
    cases h : f.notify r.handle r.callback payload with
    | ok f' => rw [attempts_accepted rs h, List.map_cons, ih f']
    | error e => rw [attempts_refused rs h, List.map_cons, ih f]

theorem payload_of_mem_attempts {a : Attempt} (ha : a ∈ f.attempts payload rs) : a.payload = payload := by
  induction rs generalizing f with
  | nil => cases ha
  | cons r rs ih =>
    cases h : f.notify r.handle r.callback payload with
    | ok f' =>
      rw [attempts_accepted rs h] at ha
      rcases List.mem_cons.mp ha with rfl | ha
      · rfl
      · exact ih f' ha
    | error e =>
      rw [attempts_refused rs h] at ha
      rcases List.mem_cons.mp ha with rfl | ha
      · rfl
      · exact ih f ha

theorem deliver_report : (f.deliver payload rs).1 = .on (f.attempts payload rs) := by
  induction rs generalizing f with
  | nil => rfl
  | cons r rs ih =>
    cases h : f.notify r.handle r.callback payload with
    | ok f' =>
      rw [deliver_accepted rs h, attempts_accepted rs h, ih f', DispatchReport.on, DispatchReport.on,
        List.countP_cons_of_pos rfl]
      rfl
    | error e =>
      rw [deliver_refused rs h, attempts_refused rs h, ih f, DispatchReport.on, DispatchReport.on,
        List.countP_cons_of_neg (by exact Bool.false_ne_true)]
      rfl

variable {f}

theorem get?_notify {f' : Fleet σ} {handle : Handle} {callback : String} {args : Json}
    (h : f.notify handle callback args = .ok f') (other : Handle) :
    f'.get? other = (f.get? other).map fun i =>
      if handle = other then i.enqueue [.run (.notice callback args)] else i := by
  obtain ⟨i, w, hi, hw, rfl⟩ := notify_eq_ok h
  have hqueue := Worker.send_eq_ok (Worker.submit_eq_ok hw).2
  rw [get?_modify]
  by_cases ho : handle = other
  · subst ho
    simp [hi, hqueue, Incarnation.enqueue]
  · simp [ho]

variable (f)

/-- Each queue grows by the messages of the attempts on it, and nothing else changes. -/
theorem get?_deliver (handle : Handle) :
    (f.deliver payload rs).2.get? handle =
      (f.get? handle).map (·.enqueue ((f.attempts payload rs).filterMap (·.message? handle))) := by
  induction rs generalizing f with
  | nil =>
    unfold deliver attempts Incarnation.enqueue
    simp
  | cons r rs ih =>
    cases h : f.notify r.handle r.callback payload with
    | ok f' =>
      rw [deliver_accepted rs h, attempts_accepted rs h]
      dsimp only
      rw [ih f', get?_notify h, Option.map_map]
      congr 1
      funext i
      by_cases hr : r.handle = handle
      · simp [Attempt.message?, Attempt.isAccepted, Incarnation.enqueue, hr]
      · simp [Attempt.message?, hr]
    | error e =>
      rw [deliver_refused rs h, attempts_refused rs h, List.filterMap_cons_none (by rfl)]
      exact ih f

end Fleet

/-! ## Why an attempt fails -/

def Worker.refusal? (w : Worker) : Option DispatchError :=
  if w.isStopped then some (.workerStopped w.plugin)
  else if w.capacity ≤ w.queue.length then some (.queueFull w.plugin)
  else none

theorem Worker.submit_eq (w : Worker) (job : Job) :
    w.submit job =
      match w.refusal? with
      | some e => .error e
      | none => .ok { w with queue := w.queue ++ [.run job] } := by
  unfold submit send refusal? isStopped
  by_cases hs : w.stopping = true
  · simp [hs]
  · by_cases hc : w.isClosed = true
    · simp [hs, hc]
    · by_cases hf : w.capacity ≤ w.queue.length <;> simp [hs, hc, hf]

theorem Worker.notify_eq (w : Worker) (callback : String) (args : Json) :
    w.notify callback args =
      match w.refusal? with
      | some e => .error e
      | none => .ok { w with queue := w.queue ++ [.run (.notice callback args)] } :=
  w.submit_eq (.notice callback args)

namespace Fleet

/-- A handle that leads nowhere counts as stopped. -/
def refusal? (f : Fleet σ) (handle : Handle) : Option DispatchError :=
  match f.get? handle with
  | some i => i.worker.refusal?
  | none => some (.workerStopped "")

theorem notify_eq_error_iff {f : Fleet σ} {handle : Handle} {callback : String} {args : Json} {e : DispatchError} :
    f.notify handle callback args = .error e ↔ f.refusal? handle = some e := by
  unfold notify refusal?
  cases f.get? handle with
  | none => simp
  | some i =>
    dsimp only
    rw [Worker.notify_eq]
    cases i.worker.refusal? <;> simp [bind, Except.bind, pure, Except.pure]

theorem refusal?_of_notify {f f' : Fleet σ} {handle : Handle} {callback : String} {args : Json}
    (h : f.notify handle callback args = .ok f') : f.refusal? handle = none := by
  cases hr : f.refusal? handle with
  | none => rfl
  | some e => cases h.symm.trans (notify_eq_error_iff.mpr hr)

section
variable (payload : Json) (before later : List Registration) (f : Fleet σ)

theorem attempts_append :
    f.attempts payload (before ++ later) =
      f.attempts payload before ++ (f.deliver payload before).2.attempts payload later := by
  induction before generalizing f with
  | nil => rfl
  | cons r before ih =>
    rw [List.cons_append]
    cases h : f.notify r.handle r.callback payload with
    | ok f' => simp [attempts_accepted _ h, deliver_accepted _ h, ih f']
    | error e => simp [attempts_refused _ h, deliver_refused _ h, ih f]

theorem deliver_append :
    (f.deliver payload (before ++ later)).2 = ((f.deliver payload before).2.deliver payload later).2 := by
  induction before generalizing f with
  | nil => rfl
  | cons r before ih =>
    rw [List.cons_append]
    cases h : f.notify r.handle r.callback payload with
    | ok f' => simp [deliver_accepted _ h, ih f']
    | error e => simp [deliver_refused _ h, ih f]

end

section
variable {payload : Json} {rs : List Registration} {f : Fleet σ} {before later : List Attempt} {a : Attempt}
  (h : f.attempts payload rs = before ++ a :: later)
include h

theorem attempts_split :
    rs = before.map (·.handler) ++ a.handler :: later.map (·.handler) ∧
      f.attempts payload (before.map (·.handler)) = before ∧
      (f.deliver payload (before.map (·.handler))).2.attempts payload (a.handler :: later.map (·.handler)) =
        a :: later := by
  have hrs : rs = before.map (·.handler) ++ a.handler :: later.map (·.handler) := by
    rw [← f.map_handler_attempts payload rs, h, List.map_append, List.map_cons]
  refine ⟨hrs, List.append_inj ?_ ?_⟩
  · rw [← attempts_append, ← hrs, h]
  · rw [← List.length_map (f := (·.handler)), map_handler_attempts, List.length_map]

theorem refusal_of_attempts : a.refusal = (f.deliver payload (before.map (·.handler))).2.refusal? a.handler.handle := by
  obtain ⟨-, -, hrest⟩ := attempts_split h
  cases hn : (f.deliver payload (before.map (·.handler))).2.notify a.handler.handle a.handler.callback payload with
  | ok f' =>
    rw [attempts_accepted _ hn, List.cons.injEq] at hrest
    rw [← hrest.1, refusal?_of_notify hn]
  | error e =>
    rw [attempts_refused _ hn, List.cons.injEq] at hrest
    rw [← hrest.1, notify_eq_error_iff.mp hn]

theorem attempts_of_refused {e : DispatchError} (he : a.refusal = some e) :
    f.attempts payload ((before ++ later).map (·.handler)) = before ++ later ∧
      (f.deliver payload ((before ++ later).map (·.handler))).2 = (f.deliver payload rs).2 := by
  obtain ⟨hrs, hbefore, hrest⟩ := attempts_split h
  have hn : (f.deliver payload (before.map (·.handler))).2.notify a.handler.handle a.handler.callback payload =
      .error e := notify_eq_error_iff.mpr ((refusal_of_attempts h).symm.trans he)
  rw [attempts_refused _ hn, List.cons.injEq] at hrest
  rw [List.map_append, attempts_append, deliver_append, hbefore, hrest.2, hrs, deliver_append, deliver_refused _ hn]
  exact ⟨rfl, rfl⟩

end

theorem queueFull_of_attempts {payload : Json} {rs : List Registration} {f : Fleet σ}
    (hopen : ∀ r ∈ rs, ∃ i, f.get? r.handle = some i ∧ i.worker.isStopped = false) {a : Attempt}
    (ha : a ∈ f.attempts payload rs) {e : DispatchError} (he : a.refusal = some e) : ∃ plugin, e = .queueFull plugin := by
  obtain ⟨before, later, hsplit⟩ := List.append_of_mem ha
  obtain ⟨hrs, -, -⟩ := attempts_split hsplit
  obtain ⟨i, hi, hstopped⟩ := hopen a.handler (by rw [hrs]; simp)
  rw [refusal_of_attempts hsplit, refusal?, get?_deliver, hi, Option.map_some] at he
  dsimp only at he
  -- What was sent before fills the queue and closes nothing.
  unfold Worker.refusal? at he
  split at he
  next hclosed =>
    have hsame : i.worker.isStopped = true := hclosed
    rw [hstopped] at hsame
    cases hsame
  next =>
    split at he
    · exact ⟨_, (Option.some.inj he).symm⟩
    · cases he

end Fleet

end PluginSandbox
