import PluginSandbox.Proofs.Monitor.History
import PluginSandbox.Proofs.Worker.Replies

/-!
# Acts on an incarnation

What happens to a loaded plugin, one act after another: its host calls it and
sends it notices, its monitor is reset, its worker moves, and while a job runs
its interpreter spends what it likes before it ends.
-/

namespace PluginSandbox

variable {σ : Type}

/-- What can be done to an incarnation. A call that is made here has passed the gate of the host. -/
inductive Act (σ : Type) where
  | call (callback : String) (args : Json)
  | notify (callback : String) (args : Json)
  | cancel (t : Ticket)
  | stop
  | reset (now : Nat)
  | setLimits (limits : Limits) (now : Nat)
  | spend (op : Monitor.Op)
  | finish (r : CallResult) (state : σ)
  | move (scene : Scene)

namespace Incarnation

/-- Nothing changes where the act is refused or cannot be done; only a running job spends and
finishes. -/
def act (interp : Interpreter σ) (i : Incarnation σ) : Act σ → Incarnation σ
  | .call callback args =>
    match i.worker.call .budget callback args with
    | .ok (_, w) => { i with worker := w }
    | .error _ => i
  | .notify callback args =>
    match i.worker.notify callback args with
    | .ok w => { i with worker := w }
    | .error _ => i
  | .cancel t => { i with worker := i.worker.cancel t }
  | .stop => { i with worker := i.worker.stop }
  | .reset now => { i with sandbox.monitor := i.sandbox.monitor.reset now }
  | .setLimits limits now => { i with sandbox.monitor := i.sandbox.monitor.setLimits limits now }
  | .spend op =>
    match i.worker.stage with
    | .running _ => { i with sandbox.monitor := (i.sandbox.monitor.perform op).2 }
    | _ => i
  | .finish r state =>
    match i.worker.stage with
    | .running job => { i with state }.complete job (.returned r)
    | _ => i
  | .move scene => (i.advance? interp scene).getD i

def after (interp : Interpreter σ) (i : Incarnation σ) (acts : List (Act σ)) : Incarnation σ :=
  acts.foldl (act interp) i

theorem after_append (interp : Interpreter σ) (i : Incarnation σ) (acts more : List (Act σ)) :
    i.after interp (acts ++ more) = (i.after interp acts).after interp more :=
  List.foldl_append

theorem advanceFor_eq_after (interp : Interpreter σ) (scene : Scene) (fuel : Nat) (i : Incarnation σ) :
    ∃ moves, advanceFor interp scene fuel i = i.after interp (List.replicate moves (.move scene)) := by
  induction fuel generalizing i with
  | zero => exact ⟨0, rfl⟩
  | succ fuel ih =>
    unfold advanceFor
    split
    next i' h =>
      obtain ⟨moves, hmoves⟩ := ih i'
      refine ⟨moves + 1, hmoves.trans ?_⟩
      have hmove : i.act interp (.move scene) = i' := by rw [act, h]; rfl
      rw [List.replicate_succ]
      exact congrArg (fun j => j.after interp (List.replicate moves (.move scene))) hmove.symm
    next => exact ⟨0, rfl⟩

/-! ### What an act does -/

section
variable (interp : Interpreter σ) (i : Incarnation σ)

theorem act_call (callback : String) (args : Json) :
    (∃ t w, i.worker.call .budget callback args = .ok (t, w) ∧
        i.act interp (.call callback args) = { i with worker := w }) ∨
      i.act interp (.call callback args) = i := by
  rw [act]
  cases h : i.worker.call .budget callback args with
  | ok accepted => exact .inl ⟨accepted.1, accepted.2, rfl, rfl⟩
  | error e => exact .inr rfl

theorem act_notify (callback : String) (args : Json) :
    (∃ w, i.worker.notify callback args = .ok w ∧
        i.act interp (.notify callback args) = { i with worker := w }) ∨
      i.act interp (.notify callback args) = i := by
  rw [act]
  cases h : i.worker.notify callback args with
  | ok w => exact .inl ⟨w, rfl, rfl⟩
  | error e => exact .inr rfl

theorem act_spend (op : Monitor.Op) :
    (∃ job, i.worker.stage = .running job ∧
        i.act interp (.spend op) = { i with sandbox.monitor := (i.sandbox.monitor.perform op).2 }) ∨
      i.act interp (.spend op) = i := by
  rw [act]
  cases h : i.worker.stage with
  | running job => exact .inl ⟨job, rfl, rfl⟩
  | _ => exact .inr rfl

theorem act_finish (r : CallResult) (state : σ) :
    (∃ job, i.worker.stage = .running job ∧
        i.act interp (.finish r state) = { i with state }.complete job (.returned r)) ∨
      i.act interp (.finish r state) = i := by
  rw [act]
  cases h : i.worker.stage with
  | running job => exact .inl ⟨job, rfl, rfl⟩
  | _ => exact .inr rfl

theorem act_move (scene : Scene) :
    (∃ i', i.advance? interp scene = some i' ∧ i.act interp (.move scene) = i') ∨
      i.act interp (.move scene) = i := by
  rw [act]
  cases h : i.advance? interp scene with
  | some i' => exact .inl ⟨i', rfl, rfl⟩
  | none => exact .inr rfl

end

end Incarnation

/-! ## Calls and their tickets -/

namespace Worker

theorem call_eq_ok {w w' : Worker} {preparation : Preparation} {callback : String} {args : Json} {t : Ticket}
    (h : w.call preparation callback args = .ok (t, w')) :
    t = w.issued ∧ w.issue.submit (.call w.issued preparation callback args) = .ok w' := by
  unfold call at h
  cases hs : w.issue.submit (.call w.issued preparation callback args) with
  | error e => rw [hs] at h; cases h
  | ok w'' =>
    rw [hs] at h
    cases h
    exact ⟨rfl, rfl⟩

def taken (w : Worker) : List Ticket :=
  tickets (w.stage.underway ++ w.stage.held ++ w.waiting) ++ w.results.map (·.1)

/-- Each ticket is in one place, and new ones are new. -/
structure Distinct (w : Worker) : Prop where
  nodup : w.taken.Nodup
  issued : ∀ t ∈ w.taken, t < w.issued

theorem distinct_start (plugin : String) (capacity : Nat) : (start plugin capacity).Distinct :=
  ⟨List.nodup_nil, fun _ h => absurd h List.not_mem_nil⟩

theorem count_tickets_append (t : Ticket) (jobs more : List Job) :
    (tickets (jobs ++ more)).count t = (tickets jobs).count t + (tickets more).count t := by
  rw [tickets, List.filterMap_append, List.count_append]
  rfl

theorem count_results_le (t : Ticket) (ended : List (Job × Completion)) :
    ((ended.filterMap resultOf?).map (·.1)).count t ≤ (tickets (ended.map (·.1))).count t := by
  induction ended with
  | nil => exact Nat.le_refl _
  | cons p ended ih =>
    have hhead : ((resultOf? p).toList.map (·.1)).count t ≤ (tickets [p.1]).count t := by
      cases hp : resultOf? p with
      | none => exact Nat.zero_le _
      | some result =>
        obtain ⟨u, r⟩ := result
        have hticket : p.1.ticket? = some u := (Chronicle.resultOf?_eq_some.mp hp).1
        simp [tickets, hticket]
    have hsplit : ((p :: ended).filterMap resultOf?).map (·.1) =
        (resultOf? p).toList.map (·.1) ++ (ended.filterMap resultOf?).map (·.1) := by
      rw [List.filterMap_cons]
      cases resultOf? p <;> rfl
    rw [hsplit, List.count_append, List.map_cons, ← List.singleton_append, count_tickets_append]
    exact Nat.add_le_add hhead ih

section
variable {w w' : Worker} {sent chosen thrown : List Job} {ended : List (Job × Completion)}
  (hm : w.Moves w' sent chosen thrown ended) (t : Ticket)
include hm

theorem Moves.count_places :
    (tickets (w.stage.underway ++ w.stage.held ++ w.waiting)).count t + (tickets sent).count t =
      (tickets (ended.map (·.1))).count t + (tickets thrown).count t +
        (tickets (w'.stage.underway ++ w'.stage.held ++ w'.waiting)).count t := by
  have hjobs := congrArg (fun jobs => (tickets jobs).count t) hm.jobs
  have hunder := congrArg (fun jobs => (tickets jobs).count t) hm.underway
  simp only [count_tickets_append] at hjobs hunder ⊢
  omega

theorem Moves.count_results :
    (w'.results.map (·.1)).count t =
      ((ended.filterMap resultOf?).map (·.1)).count t + (w.results.map (·.1)).count t := by
  rw [hm.results, List.map_append, List.map_reverse, List.count_append, List.count_reverse]

theorem Moves.count_taken_le (hsent : tickets sent = []) : w'.taken.count t ≤ w.taken.count t := by
  have hplaces := hm.count_places t
  have hresults := hm.count_results t
  have hended := count_results_le t ended
  rw [hsent, List.count_nil] at hplaces
  unfold taken
  rw [List.count_append, List.count_append]
  omega

end

theorem Distinct.of_moves {w w' : Worker} (h : w.Distinct) {sent chosen thrown : List Job}
    {ended : List (Job × Completion)} (hm : w.Moves w' sent chosen thrown ended) (hsent : tickets sent = []) :
    w'.Distinct where
  nodup := List.nodup_iff_count_le_one.mpr fun t =>
    Nat.le_trans (hm.count_taken_le t hsent) (List.nodup_iff_count_le_one.mp h.nodup t)
  issued := by
    intro t ht
    have hcount := Nat.lt_of_lt_of_le (List.count_pos_iff.mpr ht) (hm.count_taken_le t hsent)
    exact Nat.lt_of_lt_of_le (h.issued t (List.count_pos_iff.mp hcount)) hm.issued

theorem Distinct.call {w w' : Worker} (h : w.Distinct) {preparation : Preparation} {callback : String}
    {args : Json} {t : Ticket} (hc : w.call preparation callback args = .ok (t, w')) : w'.Distinct := by
  have hg := grows_submit (call_eq_ok hc).2
  have hjob : tickets [.call w.issued preparation callback args] = [w.issued] := rfl
  have hperm : w'.taken.Perm (w.issued :: w.taken) := by
    unfold taken tickets
    rw [hg.stage, hg.waiting, hg.results, ← List.append_assoc, List.filterMap_append, List.append_assoc]
    exact List.perm_middle
  constructor
  · refine hperm.nodup_iff.mpr (List.nodup_cons.mpr ⟨fun hmem => ?_, h.nodup⟩)
    exact Nat.lt_irrefl _ (h.issued _ hmem)
  · intro u hu
    rw [hg.issued]
    rcases List.mem_cons.mp (hperm.mem_iff.mp hu) with rfl | hu
    · exact Nat.lt_succ_self _
    · exact Nat.lt_succ_of_lt (h.issued u hu)

theorem Distinct.lookup_of_moves {w w' : Worker} (h : w.Distinct) {sent chosen thrown : List Job}
    {ended : List (Job × Completion)} (hm : w.Moves w' sent chosen thrown ended) (hsent : tickets sent = [])
    {t : Ticket} {r : CallResult} (hr : w.results.lookup t = some r) : w'.results.lookup t = some r := by
  have hkept : t ∈ w.results.map (·.1) := List.mem_map_of_mem (mem_of_lookup hr)
  have hnew : (ended.filterMap resultOf?).reverse.lookup t = none := by
    refine lookup_of_not_mem_keys fun hkeys => ?_
    have hmem : t ∈ (ended.filterMap resultOf?).map (·.1) := by
      rwa [List.map_reverse, List.mem_reverse] at hkeys
    -- The ticket would be that of a job and that of a result at once.
    have hone := List.nodup_iff_count_le_one.mp h.nodup t
    have hplaces := hm.count_places t
    have hended := count_results_le t ended
    have hfirst := List.count_pos_iff.mpr hmem
    have hsecond := List.count_pos_iff.mpr hkept
    rw [hsent, List.count_nil] at hplaces
    unfold taken at hone
    rw [List.count_append] at hone
    omega
  rw [hm.results, List.lookup_append, hnew, Option.none_or, hr]

theorem reply_of_lookup {w : Worker} {t : Ticket} {r : CallResult} (h : w.results.lookup t = some r) :
    w.reply t = .settled r := by
  unfold reply
  rw [h]

end Worker

/-! ## The account of an act -/

namespace Worker

theorem Moves.refl (w : Worker) : w.Moves w [] [] [] [] :=
  .of_same rfl rfl rfl id (Nat.le_refl _) (fun _ h => h) rfl

theorem moves_cancel (w : Worker) (t : Ticket) : w.Moves (w.cancel t) [] [] [] [] :=
  .of_same rfl rfl rfl id (Nat.le_refl _) (fun _ h => List.mem_cons_of_mem _ h) rfl

theorem moves_stop (w : Worker) : w.Moves w.stop [] [] [] [] := by
  unfold stop
  split
  next w' h =>
    have hm := moves_send h
    exact ⟨hm.jobs, hm.underway, hm.discarded, hm.isOver, hm.thrown, hm.emptied, fun _ => hm.stopping rfl,
      hm.issued, hm.cancelled, hm.results⟩
  next => exact .of_same rfl rfl rfl (fun _ => rfl) (Nat.le_refl _) (fun _ h => h) rfl

end Worker

namespace Incarnation

variable {interp : Interpreter σ} {i : Incarnation σ}

/-- A call that is accepted has the next ticket; any other act accounts for the jobs as a step of
the worker does, and brings in no ticket. -/
theorem moves_act (i : Incarnation σ) (a : Act σ) :
    (∃ callback args t, i.worker.call .budget callback args = .ok (t, (i.act interp a).worker)) ∨
      ∃ sent chosen thrown ended,
        i.worker.Moves (i.act interp a).worker sent chosen thrown ended ∧ tickets sent = [] := by
  have hsame {i' : Incarnation σ} (h : i' = i) : ∃ sent chosen thrown ended,
      i.worker.Moves i'.worker sent chosen thrown ended ∧ tickets sent = [] :=
    h ▸ ⟨[], [], [], [], .refl _, rfl⟩
  cases a with
  | call callback args =>
    rcases i.act_call interp callback args with ⟨t, w, hc, hi⟩ | hi
    · rw [hi]
      exact .inl ⟨callback, args, t, hc⟩
    · exact .inr (hsame hi)
  | notify callback args =>
    rcases i.act_notify interp callback args with ⟨w, hn, hi⟩ | hi
    · rw [hi]
      exact .inr ⟨_, _, _, _, Worker.moves_send (Worker.submit_eq_ok hn).2, rfl⟩
    · exact .inr (hsame hi)
  | cancel t => exact .inr ⟨_, _, _, _, i.worker.moves_cancel t, rfl⟩
  | stop => exact .inr ⟨_, _, _, _, i.worker.moves_stop, rfl⟩
  | reset now => exact .inr ⟨_, _, _, _, .refl _, rfl⟩
  | setLimits limits now => exact .inr ⟨_, _, _, _, .refl _, rfl⟩
  | spend op =>
    rcases i.act_spend interp op with ⟨job, _, hi⟩ | hi
    · rw [hi]
      exact .inr ⟨_, _, _, _, .refl _, rfl⟩
    · exact .inr (hsame hi)
  | finish r state =>
    rcases i.act_finish interp r state with ⟨job, hs, hi⟩ | hi
    · rw [hi]
      exact .inr ⟨[], [], [], _, Worker.moves_complete (.inr hs) (.refl _) (.returned r), rfl⟩
    · exact .inr (hsame hi)
  | move scene =>
    rcases i.act_move interp scene with ⟨i', ha, hi⟩ | hi
    · rw [hi]
      refine .inr ⟨_, _, _, _, (advance_of_advance? ha).moves, ?_⟩
      exact List.filterMap_eq_nil_iff.mpr fun _ hm => Chronicle.ticket?_of_mem_accepts hm
    · exact .inr (hsame hi)

theorem distinct_act (h : i.worker.Distinct) (a : Act σ) : (i.act interp a).worker.Distinct := by
  rcases i.moves_act a with ⟨_, _, _, hc⟩ | ⟨_, _, _, _, hm, hsent⟩
  · exact h.call hc
  · exact h.of_moves hm hsent

theorem distinct_after (h : i.worker.Distinct) (acts : List (Act σ)) : (i.after interp acts).worker.Distinct := by
  induction acts generalizing i with
  | nil => exact h
  | cons a acts ih => exact ih (distinct_act h a)

theorem lookup_act (h : i.worker.Distinct) {t : Ticket} {r : CallResult}
    (hr : i.worker.results.lookup t = some r) (a : Act σ) :
    (i.act interp a).worker.results.lookup t = some r := by
  rcases i.moves_act a with ⟨_, _, _, hc⟩ | ⟨_, _, _, _, hm, hsent⟩
  · rw [(Worker.grows_submit (Worker.call_eq_ok hc).2).results]
    exact hr
  · exact h.lookup_of_moves hm hsent hr

theorem reply_after (h : i.worker.Distinct) {t : Ticket} {r : CallResult}
    (hr : i.worker.results.lookup t = some r) (acts : List (Act σ)) :
    (i.after interp acts).worker.reply t = .settled r := by
  induction acts generalizing i with
  | nil => exact Worker.reply_of_lookup hr
  | cons a acts ih => exact ih (distinct_act h a) (lookup_act h hr a)

/-! ## What becomes of a job that waits -/

def Placed (i : Incarnation σ) (job : Job) : Prop :=
  job ∈ i.worker.stage.held ++ i.worker.waiting ∨ i.worker.stage = .chosen job

theorem Placed.of_grows {i i' : Incarnation σ} {job : Job} (h : i.Placed job)
    (hstage : i'.worker.stage = i.worker.stage) {sent : List Job}
    (hwaiting : i'.worker.waiting = i.worker.waiting ++ sent) : i'.Placed job := by
  unfold Placed
  rw [hstage, hwaiting, ← List.append_assoc]
  exact h.imp_left (List.mem_append_left _)

theorem stage_of_chooses {scene : Scene} {i' : Incarnation σ} {sent chosen thrown : List Job}
    {ended : List (Job × Completion)} (h : Advance interp scene i i' sent chosen thrown ended) {job : Job}
    (hjob : job ∈ chosen) : i'.worker.stage = .chosen job := by
  cases h with
  | turned hw _ =>
    have hunder := (Worker.moves_turn? hw).underway
    have hmem : job ∈ i'.worker.stage.underway := by
      have happend := List.mem_append_right i.worker.stage.underway hjob
      rw [hunder] at happend
      exact happend
    have hrunning := Worker.stage_ne_running_of_turn? hw
    cases hs : i'.worker.stage with
    | chosen job' =>
      rw [hs] at hmem
      rw [List.mem_singleton.mp hmem]
    | running job' => exact absurd hs (hrunning job')
    | _ =>
      rw [hs] at hmem
      cases hmem
  | _ => cases hjob

theorem placed_call {callback : String} {args : Json} {t : Ticket} {w : Worker}
    (h : i.worker.call .budget callback args = .ok (t, w)) :
    (i.act interp (.call callback args)).Placed (.call t .budget callback args) := by
  obtain ⟨ht, hs⟩ := Worker.call_eq_ok h
  rw [act, h]
  refine .inl (List.mem_append_right _ ?_)
  dsimp only
  rw [(Worker.grows_submit hs).waiting, ht]
  exact List.mem_append_right _ (List.mem_singleton_self _)

theorem placed_move {job : Job} (h : i.Placed job) (scene : Scene) :
    (i.act interp (.move scene)).Placed job ∨ job ∈ i.worker.throws ∨ i.worker.stage = .chosen job := by
  rcases i.act_move interp scene with ⟨i', ha, hi⟩ | hi
  · rw [hi]
    have hadvance := advance_of_advance? ha
    rcases h with hplace | hchosen
    · have hsplit := List.mem_append_left i.accepts hplace
      rw [hadvance.moves.jobs, List.mem_append, List.mem_append] at hsplit
      rcases hsplit with (hchosen | hthrown) | hstays
      · exact .inl (.inr (stage_of_chooses hadvance hchosen))
      · exact .inr (.inl hthrown)
      · exact .inl (.inl hstays)
    · exact .inr (.inr hchosen)
  · rw [hi]
    exact .inl h

theorem placed_act {job : Job} (h : i.Placed job) {a : Act σ} (ha : ∀ scene, a ≠ .move scene) :
    (i.act interp a).Placed job := by
  cases a with
  | call callback args =>
    rcases i.act_call interp callback args with ⟨t, w, hc, hi⟩ | hi
    · have hg := Worker.grows_submit (Worker.call_eq_ok hc).2
      rw [hi]
      exact h.of_grows hg.stage hg.waiting
    · exact hi.symm ▸ h
  | notify callback args =>
    rcases i.act_notify interp callback args with ⟨w, hn, hi⟩ | hi
    · have hg := Worker.grows_submit hn
      rw [hi]
      exact h.of_grows hg.stage hg.waiting
    · exact hi.symm ▸ h
  | stop =>
    have hg := i.worker.grows_stop
    exact h.of_grows hg.stage hg.waiting
  | spend op =>
    rcases i.act_spend interp op with ⟨job', _, hi⟩ | hi
    · rw [hi]
      exact h
    · exact hi.symm ▸ h
  | finish r state =>
    rcases i.act_finish interp r state with ⟨job', hs, hi⟩ | hi
    · have hm := Worker.moves_complete (.inr hs) (.refl i.worker) (.returned r)
      rw [hi]
      rcases h with hplace | hchosen
      · have hjobs := hm.jobs
        rw [List.append_nil] at hjobs
        exact .inl (hjobs ▸ hplace)
      · cases hchosen.symm.trans hs
    · exact hi.symm ▸ h
  | move scene => exact absurd rfl (ha scene)
  | _ => exact h

/-- A job that waits goes on waiting until the move by which it is discarded or with which it
begins. -/
theorem placed_after {job : Job} (h : i.Placed job) (acts : List (Act σ)) :
    (i.after interp acts).Placed job ∨ ∃ before scene later, acts = before ++ .move scene :: later ∧
      (job ∈ (i.after interp before).worker.throws ∨ (i.after interp before).worker.stage = .chosen job) := by
  induction acts generalizing i with
  | nil => exact .inl h
  | cons a acts ih =>
    have hrest (hp : (i.act interp a).Placed job) : (i.after interp (a :: acts)).Placed job ∨
        ∃ before scene later, a :: acts = before ++ .move scene :: later ∧
          (job ∈ (i.after interp before).worker.throws ∨
            (i.after interp before).worker.stage = .chosen job) := by
      rcases ih hp with hstays | ⟨before, scene, later, hacts, hgoes⟩
      · exact .inl hstays
      · exact .inr ⟨a :: before, scene, later, congrArg (a :: ·) hacts, hgoes⟩
    cases a with
    | move scene =>
      rcases placed_move h scene with hp | hgoes
      · exact hrest hp
      · exact .inr ⟨[], scene, acts, rfl, hgoes⟩
    | _ => exact hrest (placed_act h fun _ he => by cases he)

end Incarnation

end PluginSandbox
