import PluginSandbox.Proofs.Worker.Replies
import PluginSandbox.Script

/-!
# Exactly once, in order

What a worker does with the jobs it is given, whatever its producers, its owner
and its interpreter do and in whichever order.
-/

namespace PluginSandbox

variable {σ : Type} {interp : Interpreter σ}

/-! ## Calls cancelled in time -/

namespace Incarnation

variable {scene : Scene} {i i' : Incarnation σ} {t : Ticket} {preparation : Preparation} {callback : String}
  {args : Json}

theorem run_of_cancelled (h : t ∈ i.worker.cancelled) :
    i.run interp scene (.call t preparation callback args) = (some .skipped, i) := by
  unfold run
  exact if_pos (List.contains_iff_mem.mpr h)

theorem Advance.keptOut {sent chosen thrown : List Job} {ended : List (Job × Completion)}
    (h : Advance interp scene i i' sent chosen thrown ended) (hc : t ∈ i.worker.cancelled)
    (hs : i.worker.stage ≠ .running (.call t preparation callback args)) :
    i'.worker.stage ≠ .running (.call t preparation callback args) ∧
      ∀ comp, (.call t preparation callback args, comp) ∈ ended → comp = .skipped := by
  cases h with
  | ended _ hr =>
    refine ⟨fun hrun => ?_, fun comp hm => ?_⟩
    · rw [stage_complete] at hrun
      cases hrun
    · cases List.mem_singleton.mp hm
      cases hr.symm.trans (run_of_cancelled hc)
      rfl
  | waits _ hr =>
    refine ⟨fun hrun => ?_, fun comp hm => absurd hm List.not_mem_nil⟩
    cases hrun
    cases hr.symm.trans (run_of_cancelled hc)
  | awoken hrunning _ =>
    refine ⟨fun hrun => ?_, fun comp hm => ?_⟩
    · rw [stage_complete] at hrun
      cases hrun
    · cases List.mem_singleton.mp hm
      exact absurd hrunning hs
  | turned hw _ => exact ⟨Worker.stage_ne_running_of_turn? hw _, fun comp hm => absurd hm List.not_mem_nil⟩

end Incarnation

namespace Chronicle

variable {c c' : Chronicle σ}

/-- The call has not entered the interpreter, and if it has ended it was skipped. -/
structure KeptOut (c : Chronicle σ) (t : Ticket) (job : Job) : Prop where
  cancelled : t ∈ c.now.worker.cancelled
  running : c.now.worker.stage ≠ .running job
  ended : ∀ comp, (job, comp) ∈ c.ended → comp = .skipped

theorem KeptOut.step {t : Ticket} {preparation : Preparation} {callback : String} {args : Json}
    (hk : c.KeptOut t (.call t preparation callback args)) (h : Step interp c c') :
    c'.KeptOut t (.call t preparation callback args) := by
  obtain ⟨_, _, _, _, _, _, _, _, hm⟩ := h.moves
  have hcancelled := hm.cancelled t hk.cancelled
  cases h with
  | send before after job w henlisted hsend =>
    refine ⟨hcancelled, ?_, hk.ended⟩
    dsimp only
    rw [Worker.send_eq_ok hsend]
    exact hk.running
  | wake w hstop hsend =>
    refine ⟨hcancelled, ?_, hk.ended⟩
    dsimp only
    rw [Worker.send_eq_ok hsend]
    exact hk.running
  | release listens comp hs hcomp =>
    refine ⟨hcancelled, fun hrun => ?_, fun comp' hr => ?_⟩
    · rcases hcomp with h | h <;> subst h <;> cases hrun
    · rcases List.mem_append.mp hr with hr | hr
      · exact hk.ended comp' hr
      · cases List.mem_singleton.mp hr
  | advance scene i hi =>
    obtain ⟨hstage, hended⟩ := (Incarnation.advance_of_advance? hi).keptOut hk.cancelled hk.running
    refine ⟨hcancelled, hstage, fun comp hr => ?_⟩
    rcases List.mem_append.mp hr with hr | hr
    · exact hk.ended comp hr
    · exact hended comp hr
  | _ => exact ⟨hcancelled, hk.running, hk.ended⟩

theorem KeptOut.steps {t : Ticket} {preparation : Preparation} {callback : String} {args : Json}
    (hk : c.KeptOut t (.call t preparation callback args)) (h : Steps interp c c') :
    c'.KeptOut t (.call t preparation callback args) := by
  induction h with
  | refl => exact hk
  | tail _ hs ih => exact ih.step hs

theorem keptOut_of_place (ho : c.Orderly) (ht : c.Ticketed) {t : Ticket} {job : Job} (hjob : job.ticket? = some t)
    (hc : t ∈ c.now.worker.cancelled) (hp : c.now.worker.stage = .chosen job ∨ job ∈ c.waiting) :
    c.KeptOut t job where
  cancelled := hc
  running := by
    intro hrun
    rcases hp with hp | hp
    · cases hp.symm.trans hrun
    · -- it would be under way and waiting at once
      have hunder : job ∈ c.now.worker.stage.underway := by rw [hrun]; exact List.mem_singleton_self job
      have hrest := List.nodup_append.mp (List.nodup_append.mp (nodup_places ho ht)).2.1
      exact hrest.2.2 t (mem_tickets hunder hjob) t (List.mem_append_right _ (mem_tickets hp hjob)) rfl
  ended := by
    intro comp hended
    refine absurd hended (not_ended_of_place ho ht hjob ?_ comp)
    rcases hp with hp | hp
    · refine .inl ?_
      rw [hp]
      exact List.mem_singleton_self job
    · exact .inr (.inr hp)

/-! ## The main result -/

structure Answered (interp : Interpreter σ) (c : Chronicle σ) (t : Ticket) (preparation : Preparation)
    (callback : String) (args : Json) (job : Job) : Prop where
  settled : ∀ r, c.now.worker.reply t = .settled r ↔ (job, .returned r) ∈ c.ended
  own : ∀ r, (job, .returned r) ∈ c.ended → Yields interp callback args preparation r
  dropped : c.now.worker.reply t = .dropped ↔
    job ∈ c.thrown ∨ (job, .skipped) ∈ c.ended ∨ (job, .panicked) ∈ c.ended
  skipped : (job, .skipped) ∈ c.ended → t ∈ c.now.worker.cancelled
  cancelled : t ∈ c.now.worker.cancelled → c.now.worker.stage = .chosen job ∨ job ∈ c.waiting →
    ∀ c', Steps interp c c' → ∀ r, (job, .returned r) ∉ c'.ended
  panicked : (job, .panicked) ∈ c.ended → preparation = .panic
  resolved : c.now.worker.left = true → c.now.worker.reply t ≠ .pending

theorem answered (ho : c.Orderly) (ht : c.Ticketed) (he : c.Explained interp) {t : Ticket}
    {preparation : Preparation} {callback : String} {args : Json} {job : Job}
    (hjob : job = .call t preparation callback args) (hm : job ∈ c.accepted) :
    Answered interp c t preparation callback args job := by
  have htk : job.ticket? = some t := by rw [hjob]; rfl
  have hwhy (comp : Completion) (h : (job, comp) ∈ c.ended) :
      Justified interp c.now.worker (.call t preparation callback args) comp :=
    hjob ▸ he.justified (job, comp) h
  exact {
    settled := reply_settled_iff ho ht hm htk he
    own := fun r h => hwhy (.returned r) h
    dropped := by
      rw [reply_dropped_iff ho ht hm htk he]
      refine or_congr_right ⟨fun ⟨comp, hended, hcomp⟩ => ?_, fun h => ?_⟩
      · cases comp with
        | returned r => exact absurd rfl (hcomp r)
        | done => exact (hwhy .done hended).elim
        | skipped => exact .inl hended
        | panicked => exact .inr hended
      · rcases h with h | h
        · exact ⟨_, h, fun r hr => by cases hr⟩
        · exact ⟨_, h, fun r hr => by cases hr⟩
    skipped := hwhy .skipped
    cancelled := by
      intro hc hp c' hs r hr
      subst hjob
      cases ((keptOut_of_place ho ht htk hc hp).steps hs).ended _ hr
    panicked := hwhy .panicked
    resolved := by
      intro hl hpending
      rcases (reply_pending_iff ho ht hm htk he).mp hpending with h | h
      · rw [(underway_of_left hl).2] at h
        cases h
      · rw [ho.waiting_of_left hl] at h
        cases h }

/-- **Exactly once, in order.** The accepted jobs are, in the order of their acceptance, those that
were chosen, those that were discarded, and those that wait; one at a time is under way. None is
chosen after the stop flag. A worker that is gone reports all it never chose, unless its interpreter
broke, and every accepted call is answered by its own run or dropped for one of three reasons. -/
theorem exactly_once_in_order (h : Reachable interp c) :
    c.accepted = c.begun ++ c.thrown ++ c.waiting ∧
      (c.begun = c.ended.map (·.1) ++ c.now.worker.stage.underway ∧
        c.now.worker.stage.underway.length ≤ 1) ∧
      (c.now.worker.stopping = true → ∀ c', Steps interp c c' → c'.begun = c.begun) ∧
      (c.now.worker.left = true →
        c.waiting = [] ∧
          c.now.discarded interp =
            if interp.breaks c.now.state then 0 else c.accepted.length - c.begun.length) ∧
      ∀ t preparation callback args, .call t preparation callback args ∈ c.accepted →
        Answered interp c t preparation callback args (.call t preparation callback args) := by
  have ho := h.orderly
  obtain ⟨ht, he⟩ := h.ticketed_explained
  refine ⟨ho.order, ⟨ho.turns, length_underway_le_one _⟩, ?_, ?_, ?_⟩
  · intro hstop c' hs
    exact (hs.begun_of_stopping hstop).2
  · intro hl
    have hd := ho.discarded_of_left hl
    refine ⟨ho.waiting_of_left hl, ?_⟩
    unfold Incarnation.discarded
    split
    · rfl
    · omega
  · intro t preparation callback args hm
    exact answered ho ht he rfl hm

/-- A call runs while the stop flag goes up; the notice behind it, and the notice whose producer was
past the flag by then, are discarded. -/
theorem exactly_once_in_order_stopped :
    ∃ c : Chronicle Script, Reachable Script.interpreter c ∧
      c.begun = [.call 0 .pass "echo" (.nat 7)] ∧
      c.thrown = [.notice "saved" .null, .notice "late" .null] ∧
      c.accepted = c.begun ++ c.thrown ++ c.waiting ∧
      c.now.discarded Script.interpreter = c.accepted.length - c.begun.length ∧
      c.now.worker.reply 0 = .settled (.ok (.nat 7)) := by
  have h₀ : Steps Script.interpreter (start "p" 4 ⟨{}, .start .unlimited 0⟩ { plugin := "p" }) _ := .refl _
  have h₁ := h₀.tail (.enlistCall _ .pass "echo" (.nat 7) rfl)
  have h₂ := h₁.tail (.send _ [] [] _ _ rfl rfl)
  have h₃ := (h₂.tail (.advance _ {} _ rfl)).tail (.advance _ {} _ rfl)
  have h₄ := h₃.tail (.enlist _ (.notice "saved" .null) rfl rfl)
  have h₅ := h₄.tail (.enlist _ (.notice "late" .null) rfl rfl)
  have h₆ := h₅.tail (.send _ [] [_] _ _ rfl rfl)
  have h₇ := h₆.tail (.raise _)
  have h₈ := (h₇.tail (.advance _ {} _ rfl)).tail (.advance _ {} _ rfl)
  have h₉ := (h₈.tail (.advance _ {} _ rfl)).tail (.send _ [] [] _ _ rfl rfl)
  have h₁₀ := (h₉.tail (.advance _ {} _ rfl)).tail (.advance _ {} _ rfl)
  have h := h₁₀.tail (.advance _ {} _ rfl)
  have hreach : Reachable Script.interpreter _ := ⟨_, _, _, _, h⟩
  obtain ⟨horder, _, _, hgone, hcalls⟩ := exactly_once_in_order hreach
  refine ⟨_, hreach, rfl, rfl, horder, ?_, ?_⟩
  · exact (hgone rfl).2
  · exact ((hcalls 0 .pass "echo" (.nat 7) (.head _)).settled _).mpr (.head _)

/-- A worker whose interpreter panics when it is destroyed reports no discarded job, and a call
whose preparation panics is dropped although it was chosen and nobody cancelled it. -/
theorem not_all_reported_nor_answered :
    (∃ c : Chronicle Script, Reachable Script.interpreter c ∧ c.now.worker.left = true ∧
      c.accepted = [.notice "x" .null] ∧ c.begun = [] ∧ c.now.discarded Script.interpreter = 0) ∧
    ∃ c : Chronicle Script, Reachable Script.interpreter c ∧
      c.accepted = [.call 0 .panic "echo" (.nat 1)] ∧ c.begun = c.accepted ∧
      c.now.worker.cancelled = [] ∧ c.now.worker.reply 0 = .dropped := by
  constructor
  · have h₀ : Steps Script.interpreter
        (start "a" 4 ⟨{}, .start .unlimited 0⟩ { plugin := "a", brittle := true }) _ := .refl _
    have h₁ := h₀.tail (.enlist _ (.notice "x" .null) rfl rfl)
    have h₂ := (h₁.tail (.send _ [] [] _ _ rfl rfl)).tail (.raise _)
    have h₃ := (h₂.tail (.advance _ {} _ rfl)).tail (.advance _ {} _ rfl)
    have h₄ := (h₃.tail (.advance _ {} _ rfl)).tail (.advance _ {} _ rfl)
    exact ⟨_, ⟨_, _, _, _, h₄⟩, rfl, rfl, rfl, rfl⟩
  · have h₀ : Steps Script.interpreter (start "a" 4 ⟨{}, .start .unlimited 0⟩ { plugin := "a" }) _ := .refl _
    have h₁ := h₀.tail (.enlistCall _ .panic "echo" (.nat 1) rfl)
    have h₂ := h₁.tail (.send _ [] [] _ _ rfl rfl)
    have h₃ := (h₂.tail (.advance _ {} _ rfl)).tail (.advance _ {} _ rfl)
    have h₄ := h₃.tail (.advance _ {} _ rfl)
    exact ⟨_, ⟨_, _, _, _, h₄⟩, rfl, rfl, rfl, rfl⟩

end Chronicle

end PluginSandbox
