import PluginSandbox.Proofs.Config.Writes
import PluginSandbox.Proofs.Host.Run
import PluginSandbox.Proofs.Worker.Admission
import PluginSandbox.Script

/-!
# Bursts

Events, writes of configuration and calls that come while a worker is held on
one job fill the free places of its queue in the order in which they come. What
is left over is reported as refused.
-/

namespace PluginSandbox

variable {σ : Type} {interp : Interpreter σ}

structure Handover where
  handle : Handle
  job : Job
  refusal : Option DispatchError

def Attempt.handover (a : Attempt) : Handover :=
  ⟨a.handler.handle, .notice a.handler.callback a.payload, a.refusal⟩

def handedTo (handle : Handle) (handed : List Handover) : List Handover :=
  handed.filter (·.handle = handle)

theorem handedTo_cons (handle : Handle) (d : Handover) (handed : List Handover) :
    handedTo handle (d :: handed) = (if d.handle = handle then [d] else []) ++ handedTo handle handed := by
  unfold handedTo
  by_cases hd : d.handle = handle <;> simp [hd]

def DispatchReport.of (handed : List Handover) : DispatchReport :=
  ⟨handed.countP (·.refusal.isNone), handed.filterMap (·.refusal)⟩

theorem DispatchReport.on_eq (attempts : List Attempt) : on attempts = of (attempts.map (·.handover)) := by
  rw [on, of, List.countP_map, List.filterMap_map]
  rfl

namespace Worker

def room (w : Worker) : Nat :=
  w.capacity - w.queue.length

/-- What the producers of so many jobs are told, if nothing else happens meanwhile. -/
def verdicts (w : Worker) (n : Nat) : List (Option DispatchError) :=
  List.replicate (min n w.room) none ++ List.replicate (n - w.room) (some (.queueFull w.plugin))

end Worker

namespace Incarnation

/-- Busy with a job that waits for what has not come. -/
def Held (interp : Interpreter σ) (i : Incarnation σ) : Prop :=
  ∃ job, i.worker.stage = .running job ∧ i.awake? interp job = none

theorem awake?_none_of {i i' : Incarnation σ} (hinterrupted : i'.worker.interrupted = i.worker.interrupted)
    (hstate : i'.state = i.state) {job : Job} (h : i.awake? interp job = none) : i'.awake? interp job = none := by
  have hheard : i'.heard interp = i.heard interp := by rw [heard, heard, hinterrupted, hstate]
  unfold awake? at h ⊢
  split at h
  · rw [hinterrupted]
    split at h
    · cases h
    next hcalm => exact if_neg hcalm
  · rw [hheard]
    split at h
    · cases h
    next hcalm => exact if_neg hcalm

theorem settle_of_held {i : Incarnation σ} (h : i.Held interp) (scene : Scene) : i.settle interp scene = i := by
  obtain ⟨job, hs, hawake⟩ := h
  have hstays : i.advance? interp scene = none := by
    rw [advance?, hs]
    exact Option.map_eq_none_iff.mpr hawake
  unfold settle
  generalize 8 * i.worker.queue.length + 16 = fuel
  cases fuel with
  | zero => rfl
  | succ fuel => rw [advanceFor, hstays]

/-- The jobs that were handed over have filled the queue from the first on, and nothing else has
changed but that tickets were given away and those from `fresh` on may have been cancelled. -/
structure Fills (fresh : Ticket) (i i' : Incarnation σ) (handed : List Handover) : Prop where
  refusals : handed.map (·.refusal) = i.worker.verdicts handed.length
  queue : i'.worker.queue = i.worker.queue ++ (handed.take i.worker.room).map fun d => .run d.job
  unchanged : i' = { i with
    worker.queue := i'.worker.queue
    worker.issued := i'.worker.issued
    worker.cancelled := i'.worker.cancelled }
  issued : i.worker.issued ≤ i'.worker.issued
  cancelled : ∀ t < fresh, t ∈ i'.worker.cancelled ↔ t ∈ i.worker.cancelled

section
variable {fresh : Ticket} {i i' i'' : Incarnation σ} {handed more : List Handover}

theorem Fills.room (h : i.Fills fresh i' handed) : i'.worker.room = i.worker.room - handed.length := by
  have hlength := congrArg List.length h.queue
  rw [List.length_append, List.length_map, List.length_take] at hlength
  have hcapacity : i'.worker.capacity = i.worker.capacity := by rw [h.unchanged]
  unfold Worker.room at hlength ⊢
  rw [hcapacity]
  omega

theorem verdicts_add (w w' : Worker) (n m : Nat) (hroom : w'.room = w.room - n) (hplugin : w'.plugin = w.plugin) :
    w.verdicts n ++ w'.verdicts m = w.verdicts (n + m) := by
  unfold Worker.verdicts
  rw [hroom, hplugin]
  rcases Nat.le_total n w.room with hle | hle
  · have hnone : n - w.room = 0 := by omega
    rw [hnone, List.replicate_zero, List.append_nil, ← List.append_assoc, ← List.replicate_add]
    congr 2 <;> omega
  · have hnone : w.room - n = 0 := by omega
    rw [hnone, Nat.min_zero, List.replicate_zero, List.nil_append, List.append_assoc, ← List.replicate_add]
    congr 2 <;> omega

theorem Fills.trans (h : i.Fills fresh i' handed) (h' : i'.Fills fresh i'' more) : i.Fills fresh i'' (handed ++ more) where
  refusals := by
    have hplugin : i'.worker.plugin = i.worker.plugin := by rw [h.unchanged]
    rw [List.map_append, h.refusals, h'.refusals, List.length_append, verdicts_add _ _ _ _ h.room hplugin]
  queue := by
    rw [h'.queue, h.queue, h.room, List.take_append, List.map_append, List.append_assoc]
  unchanged := by
    rw [h'.unchanged, h.unchanged]
  issued := Nat.le_trans h.issued h'.issued
  cancelled := fun t ht => (h'.cancelled t ht).trans (h.cancelled t ht)

theorem Fills.refl (fresh : Ticket) (i : Incarnation σ) : i.Fills fresh i [] :=
  ⟨by simp [Worker.verdicts], by simp, rfl, Nat.le_refl _, fun _ _ => Iff.rfl⟩

theorem fills_issue (fresh : Ticket) (i : Incarnation σ) : i.Fills fresh { i with worker := i.worker.issue } [] :=
  ⟨by simp [Worker.verdicts], by simp [Worker.issue], rfl, Nat.le_succ _, fun _ _ => Iff.rfl⟩

theorem fills_cancel (i : Incarnation σ) {t : Ticket} (ht : fresh ≤ t) :
    i.Fills fresh { i with worker := i.worker.cancel t } [] := by
  refine ⟨by simp [Worker.verdicts], by simp [Worker.cancel], rfl, Nat.le_refl _, fun u hu => ?_⟩
  exact List.mem_cons.trans (or_iff_right (Nat.ne_of_lt (Nat.lt_of_lt_of_le hu ht)))

theorem fills_takeIn (fresh : Ticket) (hopen : i.worker.isStopped = false) (handle : Handle) (job : Job) :
    i.Fills fresh { i with worker := (i.worker.takeIn job).2 } [⟨handle, job, (i.worker.takeIn job).1⟩] := by
  have hopen' : ¬ i.worker.isStopped = true := by rw [hopen]; exact Bool.false_ne_true
  by_cases hfull : i.worker.capacity ≤ i.worker.queue.length
  · have hroom : i.worker.room = 0 := Nat.sub_eq_zero_of_le hfull
    have hrefusal : i.worker.refusal? = some (.queueFull i.worker.plugin) := by
      rw [Worker.refusal?, if_neg hopen', if_pos hfull]
    rw [Worker.takeIn_refused hrefusal]
    exact ⟨by simp [Worker.verdicts, hroom], by simp [hroom], rfl, Nat.le_refl _, fun _ _ => Iff.rfl⟩
  · have hroom : 1 ≤ i.worker.room := Nat.sub_pos_of_lt (Nat.lt_of_not_le hfull)
    have hrefusal : i.worker.refusal? = none := by
      rw [Worker.refusal?, if_neg hopen', if_neg hfull]
    rw [Worker.takeIn_accepted hrefusal]
    have hsaved : 1 - i.worker.room = 0 := Nat.sub_eq_zero_of_le hroom
    refine ⟨by simp [Worker.verdicts, Nat.min_eq_left hroom, hsaved], ?_, rfl, Nat.le_refl _, fun _ _ => Iff.rfl⟩
    rw [List.take_of_length_le hroom]
    rfl

theorem Fills.isStopped (h : i.Fills fresh i' handed) : i'.worker.isStopped = i.worker.isStopped := by
  rw [h.unchanged]
  rfl

theorem Fills.current (h : i.Fills fresh i' handed) : i'.worker.current = i.worker.current := by
  rw [h.unchanged]

theorem Fills.held (h : i.Fills fresh i' handed) (hheld : i.Held interp)
    (hcurrent : ∀ t, i.worker.current = some t → t < fresh) : i'.Held interp := by
  obtain ⟨job, hs, hawake⟩ := hheld
  have hinterrupted : i'.worker.interrupted = i.worker.interrupted := by
    have hstopping : i'.worker.stopping = i.worker.stopping := by rw [h.unchanged]
    unfold Worker.interrupted
    rw [h.current, hstopping]
    cases hc : i.worker.current with
    | none => rfl
    | some t =>
      have hsame := h.cancelled t (hcurrent t hc)
      simp only [Option.any_some, List.contains_eq_mem, hsame]
  have hstate : i'.state = i.state := by rw [h.unchanged]
  refine ⟨job, ?_, awake?_none_of hinterrupted hstate hawake⟩
  rw [h.unchanged]
  exact hs

end

end Incarnation

namespace Fleet

section
variable {f : Fleet σ} {handle : Handle} {i : Incarnation σ} (hi : f.get? handle = some i)
  (hopen : i.worker.isStopped = false) (fresh : Ticket)
include hi hopen

theorem fills_accepted {f' : Fleet σ} {r : Registration} {payload : Json}
    (hn : f.notify r.handle r.callback payload = .ok f') :
    ∃ i', f'.get? handle = some i' ∧
      i.Fills fresh i' (if r.handle = handle then [⟨r.handle, .notice r.callback payload, none⟩] else []) := by
  have hget := get?_notify hn handle
  rw [hi, Option.map_some] at hget
  refine ⟨_, hget, ?_⟩
  by_cases hr : r.handle = handle
  · have hrefusal := refusal?_of_notify hn
    rw [hr, refusal?, hi] at hrefusal
    have hfills := Incarnation.fills_takeIn fresh hopen r.handle (.notice r.callback payload)
    rw [Worker.takeIn_accepted hrefusal] at hfills
    rw [if_pos hr, if_pos hr]
    exact hfills
  · rw [if_neg hr, if_neg hr]
    exact .refl fresh i

theorem fills_refused {e : DispatchError} {r : Registration} {payload : Json}
    (hn : f.notify r.handle r.callback payload = .error e) :
    i.Fills fresh i (if r.handle = handle then [⟨r.handle, .notice r.callback payload, some e⟩] else []) := by
  by_cases hr : r.handle = handle
  · have hrefusal := notify_eq_error_iff.mp hn
    rw [hr, refusal?, hi] at hrefusal
    have hfills := Incarnation.fills_takeIn fresh hopen r.handle (.notice r.callback payload)
    rw [Worker.takeIn_refused hrefusal] at hfills
    rw [if_pos hr]
    exact hfills
  · rw [if_neg hr]
    exact .refl fresh i

end

theorem fills_deliver (fresh : Ticket) (payload : Json) (rs : List Registration) {f : Fleet σ} {handle : Handle}
    {i : Incarnation σ} (hi : f.get? handle = some i) (hopen : i.worker.isStopped = false) :
    ∃ i', (f.deliver payload rs).2.get? handle = some i' ∧
      i.Fills fresh i' (handedTo handle ((f.attempts payload rs).map (·.handover))) := by
  induction rs generalizing f i with
  | nil => exact ⟨i, hi, .refl fresh i⟩
  | cons r rs ih =>
    cases hn : f.notify r.handle r.callback payload with
    | ok f' =>
      rw [deliver_accepted rs hn, attempts_accepted rs hn, List.map_cons, handedTo_cons]
      obtain ⟨i', hi', hfirst⟩ := fills_accepted hi hopen fresh hn
      obtain ⟨i'', hi'', hrest⟩ := ih hi' (hfirst.isStopped.trans hopen)
      exact ⟨i'', hi'', hfirst.trans hrest⟩
    | error e =>
      rw [deliver_refused rs hn, attempts_refused rs hn, List.map_cons, handedTo_cons]
      obtain ⟨i', hi', hrest⟩ := ih hi hopen
      exact ⟨i', hi', (fills_refused hi hopen fresh hn).trans hrest⟩

end Fleet

theorem Worker.call_eq (w : Worker) (preparation : Preparation) (callback : String) (args : Json) :
    w.call preparation callback args =
      match w.refusal? with
      | some e => .error e
      | none => .ok (w.issued, (w.issue.takeIn (.call w.issued preparation callback args)).2) := by
  have hsame : w.issue.refusal? = w.refusal? := rfl
  unfold call takeIn
  rw [submit_eq, hsame]
  cases w.refusal? <;> rfl

namespace Host

/-! ## What operations hand over -/

def callHandover (h : Host σ) (plugin callback : String) (args : Json) : List Handover :=
  match h.find plugin, h.incarnation plugin with
  | .ok l, .ok i =>
    if i.sandbox.monitor.reason? = none then
      [⟨l.handle, .call i.worker.issued .budget callback args, i.worker.refusal?⟩]
    else []
  | _, _ => []

def handovers (h : Host σ) : Op σ → List Handover
  | .publish event payload =>
    (h.fleet.attempts payload (h.events.subscriptions.handlers event)).map (·.handover)
  | .setConfig key value => (h.config.tells key value h.fleet).map (·.handover)
  | .setPluginConfig plugin key value =>
    match h.holder plugin .configWrite with
    | .ok _ => (h.config.tells key value h.fleet).map (·.handover)
    | .error _ => []
  | .startCall plugin callback args => h.callHandover plugin callback args
  | .call plugin callback args => h.callHandover plugin callback args
  | _ => []

def Op.isDelivery : Op σ → Bool
  | publish .. | setConfig .. | setPluginConfig .. | startCall .. | call .. => true
  | _ => false

def Reports (interp : Interpreter σ) (h : Host σ) : Op σ → Prop
  | .publish event payload => (h.publish event payload).1 = .of (h.handovers (.publish event payload))
  | .setConfig key value => (h.setConfig key value).1 = .of (h.handovers (.setConfig key value))
  | .setPluginConfig plugin key value =>
    ∀ report h', h.setPluginConfig plugin key value = (.ok report, h') →
      report = .of (h.handovers (.setPluginConfig plugin key value))
  | .startCall plugin callback args =>
    ∀ d ∈ h.callHandover plugin callback args,
      match d.refusal with
      | some e => h.enqueueCall plugin callback args = (.error (.dispatch e), h)
      | none => ∃ t h', h.enqueueCall plugin callback args = (.ok t, h')
  | .call plugin callback args =>
    ∀ d ∈ h.callHandover plugin callback args,
      match d.refusal with
      | some e => h.call interp plugin callback args = (some (.error (.dispatch e)), h)
      | none => ∃ t h', h.enqueueCall plugin callback args = (.ok t, h')
  | _ => True

section
variable (h : Host σ) (plugin callback : String) (args : Json)

theorem enqueueCall_cases :
    (h.callHandover plugin callback args = [] ∧ ∃ e, h.enqueueCall plugin callback args = (.error e, h)) ∨
      ∃ l i, h.find plugin = .ok l ∧ h.fleet.get? l.handle = some i ∧
        h.callHandover plugin callback args =
          [⟨l.handle, .call i.worker.issued .budget callback args, i.worker.refusal?⟩] ∧
        h.enqueueCall plugin callback args =
          match i.worker.refusal? with
          | some e => (.error (.dispatch e), h)
          | none => (.ok i.worker.issued, h.modify l.handle fun j =>
              { j with worker := (i.worker.issue.takeIn (.call i.worker.issued .budget callback args)).2 }) := by
  unfold callHandover enqueueCall
  cases hi : h.incarnation plugin with
  | error e =>
    refine .inl ?_
    cases h.find plugin with
    | error e' => exact ⟨rfl, e', rfl⟩
    | ok l => exact ⟨rfl, e, rfl⟩
  | ok i =>
    obtain ⟨l, hl, hget⟩ := incarnation_eq_ok hi
    rw [hl]
    dsimp only
    cases hreason : i.sandbox.monitor.reason? with
    | some reason => exact .inl ⟨rfl, _, rfl⟩
    | none =>
      refine .inr ⟨l, i, rfl, hget, rfl, ?_⟩
      dsimp only
      rw [Worker.call_eq]
      cases i.worker.refusal? <;> rfl

end

theorem reports (interp : Interpreter σ) (h : Host σ) (op : Op σ) : h.Reports interp op := by
  cases op with
  | publish event payload => exact (Fleet.deliver_report _ _ _).trans (DispatchReport.on_eq _)
  | setConfig key value => exact (h.config.report_set key value h.fleet).trans (DispatchReport.on_eq _)
  | setPluginConfig plugin key value =>
    intro report h' hr
    obtain ⟨⟨l, hl⟩, hset⟩ := setPluginConfig_eq_ok hr
    have hreport : report = (h.setConfig key value).1 := (congrArg Prod.fst hset).symm
    rw [handovers, hl, hreport]
    exact (h.config.report_set key value h.fleet).trans (DispatchReport.on_eq _)
  | startCall plugin callback args =>
    intro d hd
    rcases h.enqueueCall_cases plugin callback args with ⟨hnone, -⟩ | ⟨l, i, hl, hget, hone, henqueued⟩
    · rw [hnone] at hd
      cases hd
    · rw [hone] at hd
      cases List.mem_singleton.mp hd
      dsimp only
      rw [henqueued]
      cases i.worker.refusal? with
      | some e => rfl
      | none => exact ⟨_, _, rfl⟩
  | call plugin callback args =>
    intro d hd
    rcases h.enqueueCall_cases plugin callback args with ⟨hnone, -⟩ | ⟨l, i, hl, hget, hone, henqueued⟩
    · rw [hnone] at hd
      cases hd
    · rw [hone] at hd
      cases List.mem_singleton.mp hd
      dsimp only
      rw [call, henqueued, hl]
      cases i.worker.refusal? with
      | some e => rfl
      | none => exact ⟨_, _, rfl⟩
  | _ => trivial

/-! ## Held workers -/

theorem get?_host_modify {h : Host σ} {handle : Handle} {i : Incarnation σ} (hi : h.fleet.get? handle = some i)
    (other : Handle) (change : Incarnation σ → Incarnation σ) :
    (h.modify other change).fleet.get? handle = some (if other = handle then change i else i) := by
  rw [modify, Fleet.get?_modify, hi, Option.map_some]

section
variable {h : Host σ} {handle : Handle} {i : Incarnation σ} (hi : h.fleet.get? handle = some i)
  (hopen : i.worker.isStopped = false)

include hi hopen in
theorem fills_enqueueCall (fresh : Ticket) {plugin callback : String} {args : Json} {t : Ticket} {h' : Host σ}
    (hr : h.enqueueCall plugin callback args = (.ok t, h')) :
    ∃ l i', h.find plugin = .ok l ∧ h'.fleet.get? handle = some i' ∧
      i.Fills fresh i' (handedTo handle (h.callHandover plugin callback args)) ∧
      (l.handle = handle → t = i.worker.issued) := by
  rcases h.enqueueCall_cases plugin callback args with ⟨-, e, he⟩ | ⟨l, j, hl, hget, hone, henqueued⟩
  · cases he.symm.trans hr
  · rw [henqueued] at hr
    cases hrefusal : j.worker.refusal? with
    | some e => rw [hrefusal] at hr; cases hr
    | none =>
      rw [hrefusal] at hr
      cases hr
      refine ⟨l, _, hl, get?_host_modify hi _ _, ?_⟩
      rw [hone, handedTo_cons]
      by_cases hsame : l.handle = handle
      · cases hi.symm.trans (hsame ▸ hget)
        have hissued := Incarnation.fills_issue fresh i
        have hadmitted := Incarnation.fills_takeIn fresh (hissued.isStopped.trans hopen) l.handle
          (.call i.worker.issued .budget callback args)
        -- giving away a ticket takes no place in the queue
        have hopened : i.worker.issue.refusal? = none := hrefusal
        rw [show (i.worker.issue.takeIn _).1 = none from congrArg Prod.fst (Worker.takeIn_accepted hopened _)] at hadmitted
        rw [if_pos hsame, if_pos hsame, hrefusal]
        exact ⟨hissued.trans hadmitted, fun _ => rfl⟩
      · rw [if_neg hsame, if_neg hsame]
        exact ⟨.refl fresh i, fun h => absurd h hsame⟩

include hi hopen in
theorem fills_refusedCall (fresh : Ticket) {plugin callback : String} {args : Json} {e : HostError} {h' : Host σ}
    (he : h.enqueueCall plugin callback args = (.error e, h')) :
    i.Fills fresh i (handedTo handle (h.callHandover plugin callback args)) := by
  rcases h.enqueueCall_cases plugin callback args with ⟨hnone, -⟩ | ⟨l, j, hl, hget, hone, henqueued⟩
  · rw [hnone]
    exact .refl fresh i
  · rw [henqueued] at he
    rw [hone, handedTo_cons]
    cases hrefusal : j.worker.refusal? with
    | none => rw [hrefusal] at he; cases he
    | some e =>
      by_cases hsame : l.handle = handle
      · cases hi.symm.trans (hsame ▸ hget)
        have hrefused := Incarnation.fills_takeIn fresh hopen l.handle (.call i.worker.issued .budget callback args)
        rw [Worker.takeIn_refused hrefusal] at hrefused
        rw [if_pos hsame]
        exact hrefused
      · rw [if_neg hsame]
        exact .refl fresh i

include hi hopen in
theorem fills_setConfig (fresh : Ticket) (key : String) (value : Json) :
    ∃ i', (h.setConfig key value).2.fleet.get? handle = some i' ∧
      i.Fills fresh i' (handedTo handle ((h.config.tells key value h.fleet).map (·.handover))) := by
  unfold setConfig ConfigStore.tells
  by_cases hsame : h.config.get? key = some value
  · rw [ConfigStore.set_of_eq h.fleet hsame, if_pos hsame]
    exact ⟨i, hi, .refl fresh i⟩
  · rw [ConfigStore.set_of_ne h.fleet hsame, if_neg hsame]
    exact Fleet.fills_deliver fresh _ _ hi hopen

variable (hheld : i.Held interp)

include hi hheld in
theorem get?_settle_of_held : (h.settle interp).fleet.get? handle = some i := by
  have hmember : h.fleet.members[handle]? = some i := hi
  unfold settle Fleet.settle Fleet.get?
  rw [List.getElem?_map, hmember, Option.map_some, Incarnation.settle_of_held hheld]

variable {fresh : Ticket} (hcurrent : ∀ t, i.worker.current = some t → t < fresh)

include hi hheld hcurrent in
theorem fills_awaitCall (plugin : String) (other : Handle) {ticket : Ticket} (ht : other = handle → fresh ≤ ticket) :
    ∃ i', (h.awaitCall interp plugin other ticket).2.fleet.get? handle = some i' ∧ i.Fills fresh i' [] := by
  unfold awaitCall
  split
  · exact ⟨i, hi, .refl fresh i⟩
  · split
    · exact ⟨i, hi, .refl fresh i⟩
    next ms _ =>
      have hget := get?_host_modify (h := { h with scene := h.scene.pass ms.toNat }) hi other fun j =>
        { j with worker := j.worker.cancel ticket }
      have hfills : i.Fills fresh (if other = handle then { i with worker := i.worker.cancel ticket } else i) [] := by
        by_cases hsame : other = handle
        · rw [if_pos hsame]
          exact i.fills_cancel (ht hsame)
        · rw [if_neg hsame]
          exact .refl fresh i
      exact ⟨_, get?_settle_of_held hget (hfills.held hheld hcurrent), hfills⟩

include hi hopen hheld hcurrent in
theorem fills_perform (hissued : fresh ≤ i.worker.issued) {op : Op σ} (hop : op.isDelivery = true) :
    ∃ i', (h.perform interp op).2.fleet.get? handle = some i' ∧
      i.Fills fresh i' (handedTo handle (h.handovers op)) := by
  cases op with
  | publish event payload => exact Fleet.fills_deliver fresh _ _ hi hopen
  | setConfig key value => exact fills_setConfig hi hopen fresh key value
  | setPluginConfig plugin key value =>
    rw [perform, handovers, setPluginConfig, onBehalf]
    cases h.holder plugin .configWrite with
    | error e => exact ⟨i, hi, .refl fresh i⟩
    | ok _ => exact fills_setConfig hi hopen fresh key value
  | startCall plugin callback args =>
    rw [perform, handovers]
    rcases result_cases (h.enqueueCall plugin callback args) enqueueCall_eq_error with ⟨e, he⟩ | ⟨t, h', hr⟩
    · rw [he]
      exact ⟨i, hi, fills_refusedCall hi hopen fresh he⟩
    · rw [hr]
      obtain ⟨l, i', -, hi', hfills, -⟩ := fills_enqueueCall hi hopen fresh hr
      exact ⟨i', hi', hfills⟩
  | call plugin callback args =>
    have hhost : (h.perform interp (.call plugin callback args)).2 = (h.call interp plugin callback args).2 := by
      rw [perform]
      dsimp only
      split <;> rfl
    rw [hhost, handovers]
    rcases result_cases (h.enqueueCall plugin callback args) enqueueCall_eq_error with ⟨e, he⟩ | ⟨t, h', hr⟩
    · have hrefused : (h.call interp plugin callback args).2 = h := by
        rw [call, he]
        cases h.find plugin <;> rfl
      rw [hrefused]
      exact ⟨i, hi, fills_refusedCall hi hopen fresh he⟩
    · -- a held worker does not get to the call, so all that can follow is the cancellation
      obtain ⟨l, i', hl, hi', hfills, hticket⟩ := fills_enqueueCall hi hopen fresh hr
      have hheld' := hfills.held hheld hcurrent
      have hcurrent' : ∀ t, i'.worker.current = some t → t < fresh := hfills.current ▸ hcurrent
      obtain ⟨i'', hi'', hlast⟩ := fills_awaitCall (get?_settle_of_held hi' hheld') hheld' hcurrent' plugin
        l.handle fun hsame => hticket hsame ▸ hissued
      refine ⟨i'', ?_, List.append_nil (handedTo handle _) ▸ hfills.trans hlast⟩
      rw [call, hr, hl]
      exact hi''
  | _ => cases hop

end

/-! ## The main result -/

variable (interp) in
def carryOut (h : Host σ) (ops : List (Op σ)) : Host σ :=
  ops.foldl (fun h op => (h.perform interp op).2) h

variable (interp) in
def handed (handle : Handle) : Host σ → List (Op σ) → List Handover
  | _, [] => []
  | h, op :: ops => handedTo handle (h.handovers op) ++ handed handle (h.perform interp op).2 ops

/-- A burst fills the queue of a held worker, and the worker is held after it. -/
theorem fills_carryOut {h : Host σ} {handle : Handle} {i : Incarnation σ} (hi : h.fleet.get? handle = some i)
    (hopen : i.worker.isStopped = false) (hheld : i.Held interp) {fresh : Ticket}
    (hcurrent : ∀ t, i.worker.current = some t → t < fresh) (hissued : fresh ≤ i.worker.issued)
    {ops : List (Op σ)} (hops : ∀ op ∈ ops, op.isDelivery = true) :
    ∃ i', (h.carryOut interp ops).fleet.get? handle = some i' ∧ i'.Held interp ∧
      i.Fills fresh i' (handed interp handle h ops) := by
  induction ops generalizing h i with
  | nil => exact ⟨i, hi, hheld, .refl fresh i⟩
  | cons op ops ih =>
    rw [List.forall_mem_cons] at hops
    obtain ⟨i', hi', hfirst⟩ := fills_perform hi hopen hheld hcurrent hissued hops.1
    obtain ⟨i'', hi'', hheld', hrest⟩ := ih hi' (hfirst.isStopped.trans hopen) (hfirst.held hheld hcurrent)
      (hfirst.current ▸ hcurrent) (Nat.le_trans hissued hfirst.issued) hops.2
    exact ⟨i'', hi'', hheld', hfirst.trans hrest⟩

/-- **Exact admission.** A queue holds no more than its capacity, which is at least one. Until the
worker is told to stop it holds the accepted jobs that were not taken from it, and a job is accepted
exactly if there is room; afterwards every job is refused, and whoever is refused has changed nothing.
A burst on a held worker gets the free places in order, and is told of what is left over. -/
theorem admission_exact {plugin : String} {capacity : Nat} {sandbox : Sandbox} {state : σ} {c : Chronicle σ}
    (h : Chronicle.Steps interp (.start plugin capacity sandbox state) c) :
    let w := c.now.worker
    let free := max capacity 1 - w.queued
    w.queued ≤ max capacity 1 ∧
      (w.stopping = false →
        w.isStopped = false ∧ c.accepted = (c.begun ++ w.stage.held) ++ w.waiting ∧ w.queued = w.waiting.length ∧
          ∀ job, w.submit job = w.send (.run job) ∧ w.takeIn job =
            if w.waiting.length < max capacity 1 then (none, { w with queue := w.queue ++ [.run job] })
            else (some (.queueFull plugin), w)) ∧
      (w.stopping = true → w.isStopped = true ∧ ∀ job, w.takeIn job = (some (.workerStopped plugin), w)) ∧
      ∀ (host : Host σ) (handle : Handle) (ops : List (Op σ)),
        host.fleet.get? handle = some c.now → w.stopping = false → c.now.Held interp →
        (∀ op ∈ ops, op.isDelivery = true) →
        let burst := handed interp handle host ops
        burst.map (·.refusal) =
            List.replicate (min burst.length free) none ++
              List.replicate (burst.length - free) (some (.queueFull plugin)) ∧
          (∃ queue issued cancelled, (host.carryOut interp ops).fleet.get? handle =
              some { c.now with worker := { w with queue, issued, cancelled } } ∧
            queue = w.queue ++ (burst.take free).map fun d => .run d.job) ∧
          ∀ before op later, ops = before ++ op :: later → (host.carryOut interp before).Reports interp op := by
  intro w free
  have hreach : Chronicle.Reachable interp c := ⟨plugin, capacity, sandbox, state, h⟩
  have hregular : w.Regular plugin (max capacity 1) := h.regular (Worker.regular_start plugin capacity)
  refine ⟨hregular.capacity ▸ hregular.fits, fun hflag => ?_, fun hflag => ?_, ?_⟩
  · refine ⟨hregular.isStopped.trans hflag, hreach.orderly.accepted_open hregular hflag,
      hregular.queued_eq hflag, fun job => ⟨?_, hregular.takeIn_open hflag job⟩⟩
    rw [Worker.submit, hflag, if_neg Bool.false_ne_true]
  · exact ⟨hregular.isStopped.trans hflag, hregular.takeIn_stopping hflag⟩
  · intro host handle ops hget hflag hheld hops burst
    obtain ⟨i, hi, -, hfills⟩ := fills_carryOut hget (hregular.isStopped.trans hflag) hheld
      (fun _ => hreach.current_lt_issued) (Nat.le_refl _) hops
    have hroom : w.room = free := by rw [Worker.room, hregular.capacity]; rfl
    have hrefusals : burst.map (·.refusal) = w.verdicts burst.length := hfills.refusals
    rw [Worker.verdicts, hroom, hregular.plugin] at hrefusals
    refine ⟨hrefusals, ⟨_, _, _, hfills.unchanged ▸ hi, ?_⟩, fun before op later _ => reports interp _ op⟩
    rw [← hroom]
    exact hfills.queue

/-- A plugin with a queue for two is at a parked job. An event and a call get the two places; a write
and another call come too late. -/
theorem admission_exact_parked :
    ∃ c : Chronicle Script, Chronicle.Steps Script.interpreter
        (.start "p" 2 ⟨{}, .start .unlimited 0⟩ { plugin := "p" }) c ∧
      let host : Host Script := {
        policy := {}
        fleet := ⟨[c.now]⟩
        plugins := [("p", ⟨0, {}⟩)]
        events := ({} : EventBus).subscribe "saved" ⟨⟨0⟩, "p", "onSaved", 0⟩
        config := ({} : ConfigStore).watch "tab" ⟨⟨1⟩, "p", "onTab", 0⟩ }
      let ops : List (Op Script) :=
        [.publish "saved" .null, .startCall "p" "echo" (.nat 1), .setConfig "tab" (.nat 4),
          .call "p" "echo" .null]
      (handed Script.interpreter 0 host ops).map (·.refusal) =
          [none, none, some (.queueFull "p"), some (.queueFull "p")] ∧
        (host.carryOut Script.interpreter ops).fleet.get? 0 =
          some { c.now with worker := { c.now.worker with
            queue := [.run (.notice "onSaved" .null), .run (.call 0 .budget "echo" (.nat 1))], issued := 1 } } := by
  have h₀ : Chronicle.Steps Script.interpreter
      (.start "p" 2 ⟨{}, .start .unlimited 0⟩ { plugin := "p" }) _ := .refl _
  have h₁ := h₀.tail (.enlist _ (.task (.park false)) rfl rfl)
  have h₂ := h₁.tail (.send _ [] [] _ _ rfl rfl)
  have h₃ := (h₂.tail (.advance _ {} _ rfl)).tail (.advance _ {} _ rfl)
  have h := h₃.tail (.advance _ {} _ rfl)
  refine ⟨_, h, ?_⟩
  intro host ops
  have hburst := (admission_exact h).2.2.2 host 0 ops rfl rfl ⟨_, rfl, rfl⟩ (by decide)
  exact ⟨hburst.1.trans (by decide +kernel), rfl⟩

end Host

end PluginSandbox
