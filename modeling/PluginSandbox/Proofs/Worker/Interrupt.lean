import PluginSandbox.Proofs.Worker.Moments
import PluginSandbox.Script

/-!
# Whose cancellation raises the interrupt

At every moment the interrupt watches the call whose preparation or callback is
at work. A call that ends takes its token with it; only one whose preparation
panics leaves it behind, until the next call is entered.
-/

namespace PluginSandbox

variable {σ : Type}

/-! ## Tokens left behind -/

def wasEntered : Job × Completion → Bool
  | (_, .skipped) => false
  | (job, _) => job.ticket?.isSome

def lastEntered? (ended : List (Job × Completion)) : Option (Job × Completion) :=
  (ended.filter wasEntered).getLast?

/-- The last call that was entered and has ended, if its preparation panicked. -/
def stray? (ended : List (Job × Completion)) : Option Ticket :=
  match lastEntered? ended with
  | some (job, .panicked) => job.ticket?
  | _ => none

section
variable {e : Job × Completion} (ended : List (Job × Completion))

theorem lastEntered?_concat (h : wasEntered e = true) : lastEntered? (ended ++ [e]) = some e := by
  rw [lastEntered?, List.filter_append, List.filter_singleton, h, cond_true, List.getLast?_concat]

theorem stray?_concat (h : wasEntered e = false) : stray? (ended ++ [e]) = stray? ended := by
  rw [stray?, lastEntered?, List.filter_append, List.filter_singleton, h, cond_false, List.append_nil]
  rfl

end

theorem stray?_eq_none {ended : List (Job × Completion)}
    (h : ∀ job, job.ticket? ≠ none → (job, .panicked) ∉ ended) : stray? ended = none := by
  unfold stray?
  split
  next job hlast =>
    have hmem : (job, Completion.panicked) ∈ ended.filter wasEntered := List.mem_of_getLast? hlast
    by_contra hticket
    exact h job hticket (List.mem_of_mem_filter hmem)
  next => rfl

/-! ## What the interrupt watches -/

theorem Worker.current_of_turn? {w w' : Worker} (h : w.turn? = some w') : w'.current = w.current := by
  cases turns_of_turn? h with
  | taken | chose | woken | dropped | closed | discarded | gone => rfl

namespace Moment

/-- The call at work, or else the one that left its token behind. -/
def watched? (m : Moment) : Option Ticket :=
  m.phase.call?.or (stray? m.ended)

structure Watching (m : Moment) : Prop where
  current : m.worker.current = m.watched?
  stage : ∀ t ∈ m.phase.ticket?, ∃ preparation callback args,
    m.worker.stage = .running (.call t preparation callback args)

variable {m m' : Moment}

theorem watching_start (plugin : String) (capacity : Nat) : (start plugin capacity).Watching where
  current := rfl
  stage := fun _ ht => by cases ht

theorem Watching.outside (h : m.Watching) (hs : ∀ job, m.worker.stage ≠ .running job) :
    m.phase = .outside := by
  have hstage := h.stage
  cases hp : m.phase with
  | outside => rfl
  | admitted t | preparing t | inside t =>
    rw [hp] at hstage
    obtain ⟨_, _, _, hrunning⟩ := hstage t rfl
    exact absurd hrunning (hs _)

theorem Watching.of_same (h : m.Watching) {w : Worker} (hcurrent : w.current = m.worker.current)
    (hstage : w.stage = m.worker.stage) : Watching { m with worker := w } where
  current := hcurrent.trans h.current
  stage := by rw [hstage]; exact h.stage

theorem Watching.of_outside (h : m.Watching) (hp : m.phase = .outside) {w : Worker}
    (hcurrent : w.current = m.worker.current) : Watching { m with worker := w } where
  current := hcurrent.trans h.current
  stage := fun t ht => by rw [hp] at ht; cases ht

theorem Watching.current_of_outside (h : m.Watching) (hp : m.phase = .outside) :
    m.worker.current = stray? m.ended := by
  rw [h.current, watched?, hp]
  rfl

theorem Watching.current_of_call? (h : m.Watching) {t : Ticket} (hp : m.phase.call? = some t) :
    m.worker.current = some t := by
  rw [h.current, watched?, hp]
  rfl

theorem watching_conclude {job : Job} {comp : Completion}
    (hcurrent : (m.worker.complete job comp).current = stray? (m.ended ++ [(job, comp)])) :
    (m.conclude job comp).Watching where
  current := hcurrent
  stage := fun _ ht => by cases ht

theorem Watching.step (h : m.Watching) (hs : Step m m') : m'.Watching := by
  cases hs with
  | issue | cancel | raise => exact h.of_same rfl rfl
  | send _ _ hw | wake _ _ hw =>
    cases Worker.send_eq_ok hw
    exact h.of_same rfl rfl
  -- the loop moves only where no call is looked at
  | turn w hw =>
    refine h.of_outside (h.outside fun job hrunning => ?_) (Worker.current_of_turn? hw)
    rw [Worker.turn?, hrunning] at hw
    cases hw
  | begin job hchosen =>
    exact h.of_outside (h.outside fun _ hrunning => by cases hchosen.symm.trans hrunning) rfl
  | skip t preparation callback args hstage hp hc =>
    apply watching_conclude
    rw [stray?_concat _ rfl]
    exact h.current_of_outside hp
  | proceed t preparation callback args hstage hp hc =>
    refine ⟨h.current_of_outside hp, fun t' ht => ?_⟩
    cases ht
    exact ⟨preparation, callback, args, hstage⟩
  | watch t hp =>
    have hstage := h.stage
    rw [hp] at hstage
    exact ⟨rfl, hstage⟩
  | enter t hp =>
    have hstage := h.stage
    rw [hp] at hstage
    exact ⟨h.current_of_call? (by rw [hp]; rfl), hstage⟩
  | refuse | «return» =>
    apply watching_conclude
    rw [stray?, lastEntered?_concat _ rfl]
    rfl
  -- nothing takes the token away, but the call is now the last one entered, and it panicked
  | panic t preparation callback args hstage hp =>
    apply watching_conclude
    rw [stray?, lastEntered?_concat _ rfl]
    exact h.current_of_call? (by rw [hp]; rfl)
  | finish job hjob hstage hp comp =>
    apply watching_conclude
    have hnot : wasEntered (job, comp) = false := by
      cases job <;> cases comp <;> first | rfl | cases hjob
    have hcurrent : (m.worker.complete job comp).current = m.worker.current := by
      cases job <;> cases comp <;> first | rfl | cases hjob
    rw [stray?_concat _ hnot, hcurrent]
    exact h.current_of_outside hp

theorem Reachable.watching (h : m.Reachable) : m.Watching := by
  obtain ⟨plugin, capacity, hsteps⟩ := h
  induction hsteps with
  | refl => exact watching_start plugin capacity
  | tail _ hs ih => exact ih.step hs

/-! ## When it is raised -/

theorem Step.stopping (hs : Step m m') (h : m.worker.stopping = true) : m'.worker.stopping = true := by
  have hconclude (job : Job) (comp : Completion) : (m.conclude job comp).worker.stopping = true := by
    obtain ⟨current, hcomplete⟩ := m.worker.complete_eq job comp
    rw [conclude, hcomplete]
    exact h
  cases hs with
  | send _ _ hw | wake _ _ hw =>
    rw [Worker.send_eq_ok hw]
    exact h
  | raise => rfl
  | turn _ hw => exact ((Worker.moves_turn? hw).stopping h).1
  | skip | refuse | panic | «return» | finish => exact hconclude _ _
  | _ => exact h

theorem Steps.stopping (hs : Steps m m') (h : m.worker.stopping = true) : m'.worker.stopping = true := by
  induction hs with
  | refl => exact h
  | tail _ hs ih => exact hs.stopping ih

theorem Watching.interrupted_iff (h : m.Watching) : m.worker.interrupted = true ↔
    m.worker.stopping = true ∨ ∃ t ∈ m.watched?, t ∈ m.worker.cancelled := by
  rw [Worker.interrupted, h.current, Bool.or_eq_true, Option.any_eq_true]
  simp only [List.contains_iff_mem, Option.mem_def]

theorem Watching.interrupted_cancel (h : m.Watching) {t : Ticket} (ht : t ∉ m.watched?) :
    (m.worker.cancel t).interrupted = m.worker.interrupted := by
  have hcancel := (h.of_same rfl rfl : Watching { m with worker := m.worker.cancel t }).interrupted_iff
  rw [Bool.eq_iff_iff, h.interrupted_iff]
  refine hcancel.trans (or_congr_right (exists_congr fun s => and_congr_right fun hs => ?_))
  have hne : s ≠ t := fun he => ht (he ▸ hs)
  exact List.mem_cons.trans (or_iff_right hne)

theorem mem_watched?_iff {t : Ticket} :
    t ∈ m.watched? ↔ m.phase.call? = some t ∨ m.phase.call? = none ∧ stray? m.ended = some t := by
  rw [watched?, Option.mem_def, Option.or_eq_some_iff]

/-- **The interrupt belongs to a call.** At every moment, and so whatever an incarnation comes to, it
is raised by the stop flag, for good, and else exactly by a cancellation of the call whose preparation
or callback is at work, or, if there is none, of the last call entered if its preparation panicked.
Nobody sees any other cancellation; and as long as no preparation panics, none but that of the call
at work is seen. -/
theorem interrupted_iff_cancelled (interp : Interpreter σ) :
    (∀ c : Chronicle σ, Chronicle.Reachable interp c → c.moment.Reachable) ∧
      ∀ m : Moment, m.Reachable →
        (m.worker.interrupted = true ↔ m.worker.stopping = true ∨ ∃ t ∈ m.worker.cancelled,
          m.phase.call? = some t ∨ m.phase.call? = none ∧ stray? m.ended = some t) ∧
        ((∀ job, job.ticket? ≠ none → (job, .panicked) ∉ m.ended) →
          (m.worker.interrupted = true ↔
            m.worker.stopping = true ∨ ∃ t ∈ m.worker.cancelled, m.phase.call? = some t)) ∧
        (∀ t, m.phase.call? = some t → ∃ preparation callback args,
          m.worker.stage = .running (.call t preparation callback args)) ∧
        (∀ t ∉ m.watched?, (m.worker.cancel t).interrupted = m.worker.interrupted) ∧
        (m.worker.stopping = true → ∀ m', Steps m m' → m'.worker.interrupted = true) := by
  refine ⟨fun c hc => hc.moment, fun m hm => ?_⟩
  have hwatching := hm.watching
  have hiff : m.worker.interrupted = true ↔ m.worker.stopping = true ∨ ∃ t ∈ m.worker.cancelled,
      m.phase.call? = some t ∨ m.phase.call? = none ∧ stray? m.ended = some t := by
    rw [hwatching.interrupted_iff]
    simp only [mem_watched?_iff, and_comm]
  refine ⟨hiff, fun hnone => ?_, fun t ht => hwatching.stage t ?_, fun t => hwatching.interrupted_cancel, ?_⟩
  · rw [hiff, stray?_eq_none hnone]
    simp only [reduceCtorEq, and_false, or_false]
  · cases hp : m.phase <;> rw [hp] at ht <;> first | exact ht | cases ht
  · intro hstop m' hsteps
    rw [Worker.interrupted, hsteps.stopping hstop, Bool.true_or]

/-- A call cancelled while its preparation is at work hears it; the token is gone when it returns. -/
theorem interrupted_iff_cancelled_preparing :
    let job : Job := .call 0 .pass "echo" .null
    let w : Worker := { plugin := "p", capacity := 4, stage := .running job, issued := 1, cancelled := [0] }
    let m : Moment := { worker := w.watch 0, phase := .preparing 0 }
    m.Reachable ∧ m.worker.interrupted = true ∧
      Steps m (m.conclude job (.returned (.ok .null))) ∧
      (m.conclude job (.returned (.ok .null))).worker.interrupted = false := by
  intro job w m
  have h₀ : Steps (start "p" 4) _ := .single (.issue _)
  have h₁ := h₀.tail (.send _ job _ rfl)
  have h₂ := ((h₁.tail (.turn _ _ rfl)).tail (.turn _ _ rfl)).tail (.begin _ _ rfl)
  have h₃ := (h₂.tail (.proceed _ 0 _ _ _ rfl rfl rfl)).tail (.watch _ 0 rfl)
  have h : Steps (start "p" 4) m := h₃.tail (.cancel _ 0)
  have hreturn : Steps m (m.conclude job (.returned (.ok .null))) :=
    .tail (.single (.enter m 0 rfl)) (.return _ 0 _ _ _ rfl rfl (.ok .null))
  have hall := (interrupted_iff_cancelled Script.interpreter).2
  refine ⟨⟨_, _, h⟩, (hall m ⟨_, _, h⟩).1.mpr (.inr ⟨0, .head _, .inl rfl⟩), hreturn, ?_⟩
  rw [Bool.eq_false_iff]
  intro hinterrupted
  have hnone : ∀ job' : Job, job'.ticket? ≠ none →
      (job', Completion.panicked) ∉ [(job, Completion.returned (.ok .null))] := by
    simp
  rcases ((hall _ ⟨_, _, h.trans hreturn⟩).2.1 hnone).mp hinterrupted with hstop | ⟨_, _, hcall⟩
  · cases hstop
  · cases hcall

/-- A call whose preparation panicked is cancelled afterwards: the idle worker is interrupted, and
so is the notice that comes next. -/
theorem interrupted_by_stray :
    let job : Job := .call 0 .panic "echo" .null
    let w : Worker := { plugin := "a", capacity := 4, issued := 1, cancelled := [0] }
    let i : Incarnation Script :=
      { sandbox := ⟨{}, .start .unlimited 0⟩, state := { plugin := "a" }, worker := w.watch 0 }
    let c : Chronicle Script :=
      { now := i, accepted := [job], begun := [job], ended := [(job, .panicked)] }
    Chronicle.Reachable Script.interpreter c ∧ c.now.worker.stopping = false ∧
      c.moment.phase.call? = none ∧ c.now.worker.interrupted = true ∧
      ∃ c', Chronicle.Steps Script.interpreter c c' ∧ c'.now.worker.stopping = false ∧
        c'.now.worker.stage = .chosen (.notice "saved" .null) ∧ c'.now.worker.interrupted = true := by
  intro job w i c
  have h₀ : Chronicle.Steps Script.interpreter
      (.start "a" 4 ⟨{}, .start .unlimited 0⟩ { plugin := "a" }) _ := .refl _
  have h₁ := (h₀.tail (.enlistCall _ .panic "echo" .null rfl)).tail (.send _ [] [] _ _ rfl rfl)
  have h₂ := ((h₁.tail (.advance _ {} _ rfl)).tail (.advance _ {} _ rfl)).tail (.advance _ {} _ rfl)
  have h : Chronicle.Steps Script.interpreter _ c := h₂.tail (.cancel _ 0)
  have k₀ : Chronicle.Steps Script.interpreter c c := .refl c
  have k₁ := (k₀.tail (.enlist _ (.notice "saved" .null) rfl rfl)).tail (.send _ [] [] _ _ rfl rfl)
  have k₂ := (k₁.tail (.advance _ {} _ rfl)).tail (.advance _ {} _ rfl)
  exact ⟨⟨_, _, _, _, h⟩, rfl, rfl, rfl, _, k₂, rfl, rfl, rfl⟩

end Moment

end PluginSandbox
