import PluginSandbox.Proofs.Worker.Admission
import PluginSandbox.Proofs.Worker.Sealed
import PluginSandbox.Proofs.Worker.Withdrawn

/-!
# Workers without some calls

A worker that was never given some of its calls. Its turns with these fall
away; any other turn it takes as it would, and any other job runs as it would,
so long as the worker serves and its queue takes what the jobs send.
-/

namespace PluginSandbox

variable {σ : Type} {interp : Interpreter σ}

/-! ## Workers -/

def Message.isAmong (calls : List Ticket) (m : Message) : Bool :=
  m.job?.any (·.isAmong calls)

/-- A call taken from the queue or chosen is as if it had not been there. -/
def Stage.without (calls : List Ticket) : Stage → Stage
  | holding m => if m.isAmong calls then idle else holding m
  | chosen job => if job.isAmong calls then idle else chosen job
  | stage => stage

namespace Worker

def without (calls : List Ticket) (w : Worker) : Worker :=
  { w with queue := w.queue.filter (!·.isAmong calls), stage := w.stage.without calls }

variable {calls : List Ticket} {w w' : Worker}

theorem isClosed_without (calls : List Ticket) (w : Worker) : (w.without calls).isClosed = w.isClosed := by
  unfold without isClosed Stage.without
  cases w.stage with
  | holding m => by_cases hm : m.isAmong calls = true <;> simp [hm]
  | chosen job => by_cases hjob : job.isAmong calls = true <;> simp [hjob]
  | _ => rfl

theorem send_without {m : Message} (hm : m.isAmong calls = false) (h : w.send m = .ok w') :
    (w.without calls).send m = .ok (w'.without calls) := by
  have hopen := isClosed_of_send h
  have hroom := length_of_send h
  have hshort : (w.without calls).queue.length ≤ w.queue.length := List.length_filter_le _ _
  have hfits : ¬(w.without calls).capacity ≤ (w.without calls).queue.length :=
    Nat.not_le_of_lt (Nat.lt_of_le_of_lt hshort hroom)
  rw [send_eq_ok h]
  unfold send
  rw [isClosed_without, hopen, if_neg Bool.false_ne_true, if_neg hfits]
  simp [without, List.filter_append, hm]

theorem without_of_send {m : Message} (hm : m.isAmong calls = true) (h : w.send m = .ok w') :
    w'.without calls = w.without calls := by
  rw [send_eq_ok h]
  simp [without, List.filter_append, hm]

theorem complete_without (w : Worker) (job : Job) (comp : Completion) :
    (w.without calls).complete job comp = (w.complete job comp).without calls := by
  cases comp with
  | returned r => cases job <;> rfl
  | _ => rfl

theorem waiting_without (calls : List Ticket) (w : Worker) :
    (w.without calls).waiting = w.waiting.filter (!·.isAmong calls) := by
  unfold waiting without
  rw [List.filterMap_filter, List.filter_filterMap]
  refine List.filterMap_congr fun m _ => ?_
  cases m with
  | wake => rfl
  | run job => cases hjob : job.isAmong calls <;> simp [Message.isAmong, Message.job?, Option.filter_some, hjob]

theorem isOver_without (calls : List Ticket) (w : Worker) : (w.without calls).stage.isOver = w.stage.isOver := by
  unfold without Stage.without
  cases w.stage with
  | holding m => by_cases hm : m.isAmong calls = true <;> simp [hm, Stage.isOver]
  | chosen job => by_cases hjob : job.isAmong calls = true <;> simp [hjob, Stage.isOver]
  | _ => rfl

theorem left_of_not_isOver (h : w.stage.isOver = false) : w.left = false := by
  unfold left
  cases hs : w.stage <;> simp [hs, Stage.isOver] at h ⊢

theorem throws_of_open (hopen : w.stopping = false) (h : w.stage.isOver = false) : w.throws = [] := by
  unfold throws
  cases hs : w.stage with
  | holding m => exact if_neg (Bool.eq_false_iff.mp hopen)
  | closing =>
    rw [hs] at h
    cases h
  | _ => rfl

variable (calls) in
/-- A turn with one of the calls at hand falls away; any other is taken as it was. -/
theorem turn?_without (hopen : w.stopping = false) (hwake : w.stage ≠ .holding .wake)
    (hover : w.stage.isOver = false) (h : w.turn? = some w') :
    w'.without calls = w.without calls ∧ w.chooses.filter (!·.isAmong calls) = [] ∨
      (w.without calls).turn? = some (w'.without calls) ∧
        (w.without calls).chooses = w.chooses.filter (!·.isAmong calls) := by
  cases turns_of_turn? h with
  | taken m rest hs hq =>
    cases hm : m.isAmong calls with
    | true => exact .inl (by simp [without, Stage.without, chooses, hs, hq, hm])
    | false => exact .inr (by simp [without, Stage.without, chooses, turn?, hs, hq, hm])
  | chose job hs =>
    cases hjob : job.isAmong calls with
    | true => exact .inl (by simp [without, Stage.without, Message.isAmong, Message.job?, chooses, hs, hopen, hjob])
    | false =>
      exact .inr (by
        simp [without, Stage.without, Message.isAmong, Message.job?, judge, turn?, chooses, hs, hopen, hjob])
  | woken hs => exact absurd hs hwake
  | dropped m hs hflag => cases hopen.symm.trans hflag
  | closed hs | discarded _ _ hs | gone hs =>
    rw [hs] at hover
    cases hover

theorem reply_without {t : Ticket} (ht : t ∉ calls) (w : Worker) : (w.without calls).reply t = w.reply t := by
  have hother {job : Job} (hjob : job.isAmong calls = true) : (job.ticket? == some t) = false := by
    refine beq_eq_false_iff_ne.mpr fun hticket => ht ?_
    rw [Job.isAmong, hticket] at hjob
    exact List.contains_iff_mem.mp hjob
  have hstage : (w.without calls).stage.job?.toList.any (·.ticket? == some t) =
      w.stage.job?.toList.any (·.ticket? == some t) := by
    unfold without
    cases w.stage with
    | holding m =>
      cases m with
      | wake => rfl
      | run job =>
        cases hjob : job.isAmong calls with
        | true => simp [Stage.without, Message.isAmong, Message.job?, Stage.job?, hjob, hother hjob]
        | false => simp [Stage.without, Message.isAmong, Message.job?, hjob]
    | chosen job =>
      cases hjob : job.isAmong calls with
      | true => simp [Stage.without, Stage.job?, hjob, hother hjob]
      | false => simp [Stage.without, hjob]
    | _ => rfl
  have hwaiting : (w.without calls).waiting.any (·.ticket? == some t) = w.waiting.any (·.ticket? == some t) := by
    rw [waiting_without, List.any_filter]
    refine congrArg w.waiting.any (funext fun job => ?_)
    cases hjob : job.isAmong calls with
    | true => rw [hother hjob, Bool.and_false]
    | false => rfl
  have hresults : (w.without calls).results = w.results := rfl
  unfold reply
  rw [hresults, List.any_append, List.any_append, hstage, hwaiting]

end Worker

namespace Incarnation

def without (calls : List Ticket) (i : Incarnation σ) : Incarnation σ :=
  { i with worker := i.worker.without calls }

variable {calls : List Ticket} {scene : Scene} {i i' : Incarnation σ}

variable (interp scene calls) in
theorem enter_without (i : Incarnation σ) (callback : String) (args : Json) :
    (i.without calls).enter interp scene callback args =
      ((i.enter interp scene callback args).1, (i.enter interp scene callback args).2.without calls) := by
  have hinterrupted : (i.worker.without calls).interrupted = i.worker.interrupted := rfl
  unfold enter record heard without
  dsimp only
  rw [hinterrupted]
  cases interp.invoke scene (i.worker.interrupted && interp.hears i.state) callback args i.sandbox i.state with
  | ends | waits => rfl

theorem notify_without {w w' : Worker} {callback : String} {args : Json}
    (h : w.notify callback args = .ok w') : (w.without calls).notify callback args = .ok (w'.without calls) := by
  obtain ⟨hopen, hsend⟩ := Worker.submit_eq_ok h
  have hflag : (w.without calls).stopping = false := hopen
  unfold Worker.notify Worker.submit
  rw [if_neg (Bool.eq_false_iff.mp hflag)]
  exact Worker.send_without rfl hsend

theorem sendOwn_without {notice : Option (String × Json)}
    (htaken : ∀ n ∈ notice, ∃ w, i.worker.notify n.1 n.2 = .ok w) :
    (i.without calls).sendOwn notice = (i.sendOwn notice).without calls := by
  cases notice with
  | none => rfl
  | some notice =>
    obtain ⟨w, hw⟩ := htaken notice rfl
    have hwithout : (i.without calls).worker.notify notice.1 notice.2 = .ok (w.without calls) := notify_without hw
    unfold sendOwn
    dsimp only
    rw [hw, hwithout]
    rfl

theorem sends_without {job : Job} (htaken : ∀ notice ∈ job.notice?, ∃ w, i.worker.notify notice.1 notice.2 = .ok w) :
    (i.without calls).sends job = (i.sends job).filter (!·.isAmong calls) := by
  unfold sends
  split
  next label callback args invoke =>
    obtain ⟨w, hw⟩ := htaken (callback, args) rfl
    have hwithout : (i.without calls).worker.notify callback args = .ok (w.without calls) := notify_without hw
    rw [hw, hwithout]
    rfl
  next => rfl

variable (calls) in
theorem run_without {job : Job} (hstop : (i.run interp scene job).2.worker.stopping = false)
    (htaken : ∀ notice ∈ job.notice?, ∃ w, i.worker.notify notice.1 notice.2 = .ok w) :
    (i.without calls).run interp scene job =
      ((i.run interp scene job).1, (i.run interp scene job).2.without calls) := by
  cases job with
  | call t preparation callback args =>
    have hsame : (i.without calls).worker.isCancelled t = i.worker.isCancelled t := rfl
    unfold run
    dsimp only
    rw [hsame]
    split
    · rfl
    · cases preparation with
      | pass => exact enter_without interp calls scene { i with worker := i.worker.watch t } callback args
      | refuse e => rfl
      | panic => rfl
      | budget =>
        have hreason : (i.without calls).sandbox.monitor.reason? = i.sandbox.monitor.reason? := rfl
        dsimp only
        rw [hreason]
        cases i.sandbox.monitor.reason? with
        | some reason => rfl
        | none =>
          exact enter_without interp calls scene { i with
            worker := i.worker.watch t
            sandbox.monitor := i.sandbox.monitor.resetInstructions } callback args
  | notice callback args => exact i.enter_without interp calls scene callback args
  | task task =>
    cases task with
    | park listens => rfl
    | stop => cases hstop.symm.trans i.worker.stopping_stop
    | chain label notice invoke =>
      have hsent : ((i.record (.job label)).without calls).sendOwn notice =
          ((i.record (.job label)).sendOwn notice).without calls := sendOwn_without htaken
      cases invoke with
      | none => exact congrArg (Prod.mk _) hsent
      | some invoke =>
        have hentered := ((i.record (.job label)).sendOwn notice).enter_without interp calls scene invoke.1 invoke.2
        rw [← hsent] at hentered
        exact hentered

theorem complete_without (i : Incarnation σ) (job : Job) (comp : Completion) :
    (i.without calls).complete job comp = (i.complete job comp).without calls := by
  unfold complete without
  rw [Worker.complete_without]

variable (calls) in
theorem begin_without {job : Job} (hstop : (i.run interp scene job).2.worker.stopping = false)
    (htaken : ∀ notice ∈ job.notice?, ∃ w, i.worker.notify notice.1 notice.2 = .ok w) :
    (i.without calls).begin interp scene job = (i.begin interp scene job).without calls := by
  unfold begin
  rw [run_without calls hstop htaken]
  obtain ⟨comp, i'⟩ := i.run interp scene job
  cases comp with
  | some comp => exact i'.complete_without job comp
  | none => rfl

variable (interp calls) in
theorem awake?_without (i : Incarnation σ) (job : Job) :
    (i.without calls).awake? interp job = (i.awake? interp job).map fun r => (r.1, r.2.without calls) := by
  have hinterrupted : (i.without calls).worker.interrupted = i.worker.interrupted := rfl
  have hheard : (i.without calls).heard interp = i.heard interp := rfl
  unfold awake?
  split
  · rw [hinterrupted]
    split <;> rfl
  · rw [hheard]
    split <;> rfl

theorem advance?_of_turn? {w : Worker} (h : i.worker.turn? = some w) (hleft : w.left = false) :
    i.advance? interp scene = some { i with worker := w } := by
  unfold advance?
  cases hs : i.worker.stage with
  | chosen | running =>
    rw [Worker.turn?, hs] at h
    cases h
  | _ =>
    dsimp only
    rw [h, Option.map_some, if_neg (Bool.eq_false_iff.mp hleft)]

variable (interp scene) in
theorem accepts_of_turn? {w : Worker} (h : i.worker.turn? = some w) : i.accepts = [] ∧ i.ends interp scene = [] := by
  unfold accepts ends
  cases hs : i.worker.stage with
  | chosen | running =>
    rw [Worker.turn?, hs] at h
    cases h
  | _ => exact ⟨rfl, rfl⟩

theorem worker_begin_stopping (interp : Interpreter σ) (scene : Scene) (i : Incarnation σ) (job : Job) :
    (i.begin interp scene job).worker.stopping = (i.run interp scene job).2.worker.stopping := by
  unfold begin
  cases i.run interp scene job with
  | mk comp i' =>
    cases comp with
    | none => rfl
    | some comp =>
      obtain ⟨current, hcomplete⟩ := i'.worker.complete_eq job comp
      change (i'.worker.complete job comp).stopping = i'.worker.stopping
      rw [hcomplete]

theorem events_begin (interp : Interpreter σ) (scene : Scene) (i : Incarnation σ) (job : Job) :
    (i.begin interp scene job).events = (i.run interp scene job).2.events := by
  unfold begin
  cases i.run interp scene job with
  | mk comp i' => cases comp <;> rfl

end Incarnation

end PluginSandbox
