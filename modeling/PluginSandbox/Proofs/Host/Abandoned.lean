import PluginSandbox.Proofs.Host.Lived
import PluginSandbox.Proofs.Worker.Erasure

/-!
# Calls that are given up

A call that its host gave up on at the deadline while it waited was cancelled in
time. Such calls are as good as never made: they get nothing, and all else is
as it would be without them.
-/

namespace PluginSandbox

variable {σ : Type} {interp : Interpreter σ}

theorem Fleet.get?_settle (f : Fleet σ) (scene : Scene) (handle : Handle) :
    (f.settle interp scene).get? handle = (f.get? handle).map (·.settle interp scene) :=
  List.getElem?_map

namespace Host

variable {h h' : Host σ} {plugin callback : String} {args : Json} {ms : UInt64} {handle : Handle} {t : Ticket}

theorem outcome?_of_get? (plugin : String) (t : Ticket) {i : Incarnation σ} (hi : h.fleet.get? handle = some i) :
    (i.worker.reply t = .pending ∧ h.outcome? plugin handle t = none) ∨
      ∃ r, (∀ other ms, r ≠ .error (.timeout other ms)) ∧ h.outcome? plugin handle t = some r := by
  unfold outcome?
  rw [hi]
  dsimp only [bind, Option.bind]
  cases i.worker.reply t with
  | pending => exact .inl ⟨rfl, rfl⟩
  | dropped => exact .inr ⟨_, fun _ _ he => (by cases he), rfl⟩
  | settled r =>
    cases r with
    | ok v => exact .inr ⟨_, fun _ _ he => (by cases he), rfl⟩
    | error e => exact .inr ⟨_, fun _ _ he => (by cases e <;> cases he), rfl⟩

theorem awaitCall_eq_timeout (ha : h.awaitCall interp plugin handle t = (some (.error (.timeout plugin ms)), h')) :
    ∃ i late, h.fleet.get? handle = some i ∧ i.worker.reply t = .pending ∧
      h'.fleet.get? handle = some (Incarnation.settle interp late { i with worker := i.worker.cancel t }) := by
  cases hi : h.fleet.get? handle with
  | none =>
    unfold awaitCall outcome? at ha
    rw [hi] at ha
    cases ha
  | some i =>
    rcases outcome?_of_get? plugin t hi with ⟨hpending, houtcome⟩ | ⟨r, hr, houtcome⟩
    · unfold awaitCall at ha
      rw [houtcome] at ha
      dsimp only at ha
      split at ha
      · cases ha
      next =>
        cases ha
        refine ⟨i, h.scene.pass ms.toNat, rfl, hpending, (Fleet.get?_settle ..).trans ?_⟩
        rw [modify, Fleet.get?_modify, hi, Option.map_some, if_pos rfl]
        rfl
    · unfold awaitCall at ha
      rw [houtcome] at ha
      cases ha
      exact absurd rfl (hr plugin ms)

theorem find_ne_timeout (other : String) : h.find plugin ≠ .error (.timeout other ms) := by
  unfold find
  split <;> nofun

theorem enqueueCall_ne_timeout (other : String) :
    h.enqueueCall plugin callback args ≠ (.error (.timeout other ms), h') := by
  intro he
  unfold enqueueCall incarnation at he
  cases hl : h.find plugin with
  | error e =>
    rw [hl] at he
    cases he
    exact find_ne_timeout other hl
  | ok l =>
    rw [hl] at he
    dsimp only [bind, Except.bind] at he
    cases hi : h.fleet.get? l.handle with
    | none =>
      rw [hi] at he
      cases he
    | some i =>
      rw [hi] at he
      dsimp only at he
      cases hreason : i.sandbox.monitor.reason? with
      | some reason =>
        rw [hreason] at he
        cases he
      | none =>
        rw [hreason] at he
        dsimp only at he
        split at he <;> cases he

theorem call_eq_timeout (hc : h.call interp plugin callback args = (some (.error (.timeout plugin ms)), h')) :
    ∃ l t queued, h.find plugin = .ok l ∧ h.enqueueCall plugin callback args = (.ok t, queued) ∧
      (queued.settle interp).awaitCall interp plugin l.handle t = (some (.error (.timeout plugin ms)), h') := by
  unfold call at hc
  split at hc
  next l t queued hl he => exact ⟨l, t, queued, hl, he, hc⟩
  next e _ he =>
    cases hc
    exact absurd he (enqueueCall_ne_timeout plugin)
  next hl _ =>
    cases hc
    exact absurd hl (find_ne_timeout plugin)

theorem cancelledInTime_of_deadline {i : Incarnation σ} {late : Scene} {c : Chronicle σ}
    (hreach : Chronicle.Reachable interp c) (hi : c.now = i)
    (hplace : i.Placed (.call t .budget callback args)) :
    ∃ c', Chronicle.Steps interp c c' ∧
      c'.now = Incarnation.settle interp late { i with worker := i.worker.cancel t } ∧
      Chronicle.CancelledInTime interp c' t := by
  subst hi
  have hcancelled : Chronicle.Steps interp c { c with now.worker := c.now.worker.cancel t } :=
    (Chronicle.Step.cancel c t).single
  obtain ⟨c', hsteps, hnow⟩ := Incarnation.leadsTo_settle interp late _
    { c with now.worker := c.now.worker.cancel t } rfl
  refine ⟨c', hcancelled.trans hsteps, hnow, ?_⟩
  exact ⟨_, _, hreach.steps hcancelled, hsteps, rfl, hplace, List.mem_cons_self⟩

/-! ## The main result -/

section
open Chronicle

/-- **A call cancelled in time leaves no trace.** From when it is cancelled no moment lets it in, so that
its preparation is never at work, and it has no result. Whatever the interpreter, while the worker serves
there is a run in which such calls were not submitted, and all else is as it was. Where callbacks are
functions of the sandbox and the state, and only jobs act on these, every run that carried out the other
jobs has come to the same, also if either worker was stopped. A call that its host gave up on while it
waited was cancelled in time. -/
theorem cancelled_leaves_no_trace (interp : Interpreter σ) :
    (∀ (c : Chronicle σ) (job : Job) (t : Ticket), Reachable interp c → c.now.Placed job →
      job.ticket? = some t → t ∈ c.now.worker.cancelled →
        (∀ m, Moment.Steps c.moment m → m.phase.ticket? ≠ some t) ∧
          ∀ c', Steps interp c c' → c'.now.worker.stage ≠ .running job ∧
            (∀ comp, (job, comp) ∈ c'.ended → comp = .skipped) ∧ ∀ r, c'.now.worker.reply t ≠ .settled r) ∧
    (∀ plugin capacity sandbox (state : σ) (a : Chronicle σ) (calls : List Ticket),
      Steps interp (.start plugin capacity sandbox state) a → a.now.worker.stopping = false →
      .sent false ∉ a.now.events → (∀ t ∈ calls, CancelledInTime interp a t) →
        ∃ b, Steps interp (.start plugin capacity sandbox state) b ∧ Erased calls a b) ∧
    (interp.IsTransformer → ∀ works sandbox (state : σ) (a : Chronicle σ) (calls : List Ticket),
      SealedFrom interp works sandbox state a → .sent false ∉ a.now.events →
      (∀ t, t ∈ calls ↔ CancelledInTime interp a t) →
        (a.now.worker.stopping = false → ∃ b, SealedFrom interp works sandbox state b ∧ Erased calls a b) ∧
        ∀ b, SealedFrom interp works sandbox state b → .sent false ∉ b.now.events →
          (∀ t, ¬CancelledInTime interp b t) →
          (b.ended.map (·.1)).map Job.untagged =
            ((a.ended.map (·.1)).filter (!·.isAmong calls)).map Job.untagged →
          Agrees calls a b) ∧
    ∀ policy modules config graceMs scene ops plugin callback args ms h',
      let h := (run interp (start policy modules config graceMs scene) ops).host
      h.call interp plugin callback args = (some (.error (.timeout plugin ms)), h') →
        ∃ l t queued i, h.find plugin = .ok l ∧ h.enqueueCall plugin callback args = (.ok t, queued) ∧
          (queued.settle interp).fleet.get? l.handle = some i ∧ i.worker.reply t = .pending ∧ i.Lived interp ∧
          (i.Placed (.call t .budget callback args) → ∀ c, Reachable interp c → c.now = i →
            ∃ c', Steps interp c c' ∧ h'.fleet.get? l.handle = some c'.now ∧ CancelledInTime interp c' t) := by
  refine ⟨fun c job t => left_out_of_placed, ?_, ?_, ?_⟩
  · intro plugin capacity sandbox state a calls ha hopen hsent hcalls
    have hreach : Reachable interp a := ⟨plugin, capacity, sandbox, state, ha⟩
    obtain ⟨enlisted, hb⟩ := ha.without (clear_of_cancelledInTime hreach hopen hsent hcalls)
    exact ⟨_, hb, erased_without calls a enlisted⟩
  · intro ht works sandbox state a calls ha hsent hcalls
    refine ⟨fun hopen => ?_, fun b hb hbsent hnone => agrees_of_same ht ha hb hsent hbsent hcalls hnone⟩
    obtain ⟨enlisted, hb⟩ :=
      ha.without (clear_of_cancelledInTime ha.reachable hopen hsent fun t => (hcalls t).mp)
    exact ⟨_, hb, erased_without calls a enlisted⟩
  · intro policy modules config graceMs scene ops plugin callback args ms h' h hcall
    obtain ⟨l, t, queued, hl, hqueued, hawait⟩ := call_eq_timeout hcall
    obtain ⟨i, late, hi, hpending, hi'⟩ := awaitCall_eq_timeout hawait
    have hacted : h.Acted interp (queued.settle interp) := (acted_enqueueCall hqueued).trans queued.acted_settle
    have hlived : i.Lived interp :=
      (lived_run interp policy modules config graceMs scene ops).acted hacted.fleet l.handle i hi
    refine ⟨l, t, queued, i, hl, hqueued, hi, hpending, hlived, fun hplace c hreach hc => ?_⟩
    obtain ⟨c', hsteps, hnow, hcancelled⟩ := cancelledInTime_of_deadline hreach hc hplace
    exact ⟨c', hsteps, hnow ▸ hi', hcancelled⟩

def tally : Interpreter Nat where
  invoke _ _ callback _ box n :=
    match callback with
    | "fail" => .ends (.error (.raised "no")) box (n + 1)
    | "panic" => .ends (.panic "no") box (n + 1)
    | _ => .ends (.value (.nat n)) box (n + 1)
  awake n := (.value .null, n)
  hears _ := true
  breaks _ := false

theorem tally_isTransformer : tally.IsTransformer := by
  intro callback args box n
  unfold tally
  dsimp only
  split <;> exact ⟨_, _, _, fun _ _ => rfl⟩

/-- Three calls wait, and the second is cancelled; the third fails. Their worker comes to what one comes to
that was given the first and the third. A host gives up on a call that waits behind a busy one. -/
theorem cancelled_leaves_no_trace_queued :
    let first (t : Ticket) : Job := .call t .pass "first" .null
    let last (t : Ticket) : Job := .call t .pass "fail" .null
    let dropped : Job := .call 1 .pass "second" .null
    let box : Sandbox := ⟨{}, .start .unlimited 0⟩
    let failure : CallResult := .error (.raised "no")
    let events : List Event := [.entered "first" .null, .entered "fail" .null]
    let a : Chronicle Nat := {
      now.sandbox := box
      now.state := 2
      now.worker := {
        plugin := "p", capacity := 4, issued := 3, cancelled := [1]
        results := [(2, failure), (0, .ok (.nat 0))] }
      now.events := events
      accepted := [first 0, dropped, last 2]
      begun := [first 0, dropped, last 2]
      ended := [(first 0, .returned (.ok (.nat 0))), (dropped, .skipped), (last 2, .returned failure)] }
    let b : Chronicle Nat := {
      now.sandbox := box
      now.state := 2
      now.worker := { plugin := "p", capacity := 4, issued := 2, results := [(1, failure), (0, .ok (.nat 0))] }
      now.events := events
      accepted := [first 0, last 1]
      begun := [first 0, last 1]
      ended := [(first 0, .returned (.ok (.nat 0))), (last 1, .returned failure)] }
    let works : Nat → Sandbox → Nat → Sandbox × Nat := fun _ box n => (box, n)
    let h : Host Script := (run Script.interpreter (start {} .standard {} 5000 {})
      [.load "p" {} (Script.Recipe.factory {}), .startCall "p" "busy" .null]).host
    (SealedFrom tally works box 0 a ∧ SealedFrom tally works box 0 b ∧
      (∀ t, t ∈ [1] ↔ CancelledInTime tally a t) ∧ (∀ t, ¬CancelledInTime tally b t) ∧ Agrees [1] a b) ∧
    ∃ h' c, h.call Script.interpreter "p" "echo" (.nat 7) = (some (.error (.timeout "p" 30000)), h') ∧
      h'.fleet.get? 0 = some c.now ∧ CancelledInTime Script.interpreter c 1 := by
  intro first last dropped box failure events a b works h
  have a₀ : Relation.ReflTransGen (Sealed tally works) (.start "p" 4 box 0) _ := .refl
  have a₁ := a₀.tail (.quiet (.enlistCall _ .pass "first" .null rfl) rfl rfl)
  have a₂ := a₁.tail (.quiet (.send _ [] [] _ _ rfl rfl) rfl rfl)
  have a₃ := a₂.tail (.quiet (.enlistCall _ .pass "second" .null rfl) rfl rfl)
  have a₄ := a₃.tail (.quiet (.send _ [] [] _ _ rfl rfl) rfl rfl)
  have a₅ := a₄.tail (.quiet (.enlistCall _ .pass "fail" .null rfl) rfl rfl)
  have a₆ := a₅.tail (.quiet (.send _ [] [] _ _ rfl rfl) rfl rfl)
  have a₇ := a₆.tail (.quiet (.cancel _ 1) rfl rfl)
  have a₈ := (a₇.tail (.quiet (.advance _ {} _ rfl) rfl rfl)).tail (.quiet (.advance _ {} _ rfl) rfl rfl)
  let served : Chronicle Nat := {
    now.sandbox := box
    now.state := 1
    now.worker := {
      plugin := "p", capacity := 4, issued := 3, cancelled := [1], queue := [.run dropped, .run (last 2)]
      results := [(0, .ok (.nat 0))] }
    now.events := [.entered "first" .null]
    accepted := [first 0, dropped, last 2]
    begun := [first 0]
    ended := [(first 0, .returned (.ok (.nat 0)))] }
  have a₉ : Relation.ReflTransGen (Sealed tally works) (.start "p" 4 box 0) served :=
    a₈.tail (.run _ _ {} _ rfl rfl)
  have a₁₀ := (a₉.tail (.quiet (.advance _ {} _ rfl) rfl rfl)).tail (.quiet (.advance _ {} _ rfl) rfl rfl)
  have a₁₁ := a₁₀.tail (.run _ _ {} _ rfl rfl)
  have a₁₂ := (a₁₁.tail (.quiet (.advance _ {} _ rfl) rfl rfl)).tail (.quiet (.advance _ {} _ rfl) rfl rfl)
  have ha : SealedFrom tally works box 0 a := ⟨"p", 4, a₁₂.tail (.run _ _ {} _ rfl rfl)⟩
  have b₀ : Relation.ReflTransGen (Sealed tally works) (.start "p" 4 box 0) _ := .refl
  have b₁ := b₀.tail (.quiet (.enlistCall _ .pass "first" .null rfl) rfl rfl)
  have b₂ := b₁.tail (.quiet (.send _ [] [] _ _ rfl rfl) rfl rfl)
  have b₃ := b₂.tail (.quiet (.enlistCall _ .pass "fail" .null rfl) rfl rfl)
  have b₄ := b₃.tail (.quiet (.send _ [] [] _ _ rfl rfl) rfl rfl)
  have b₅ := (b₄.tail (.quiet (.advance _ {} _ rfl) rfl rfl)).tail (.quiet (.advance _ {} _ rfl) rfl rfl)
  have b₆ := b₅.tail (.run _ _ {} _ rfl rfl)
  have b₇ := (b₆.tail (.quiet (.advance _ {} _ rfl) rfl rfl)).tail (.quiet (.advance _ {} _ rfl) rfl rfl)
  have hb : SealedFrom tally works box 0 b := ⟨"p", 4, b₇.tail (.run _ _ {} _ rfl rfl)⟩
  have hcalls : ∀ t, t ∈ [1] ↔ CancelledInTime tally a t := by
    intro t
    constructor
    · intro ht
      have hskipped : (dropped, .skipped) ∈ a.ended := .tail _ (.head _)
      obtain ⟨u, hu, hcancelled⟩ := cancelledInTime_of_skipped ha.reachable hskipped
      have hone : 1 = u := Option.some.inj hu
      rw [List.mem_singleton.mp ht, hone]
      exact hcancelled
    · intro hcancelled
      obtain ⟨_, _, _, hkept⟩ := hcancelled.keptOut
      exact hkept.cancelled
  have hnone : ∀ t, ¬CancelledInTime tally b t := by
    intro t hcancelled
    obtain ⟨_, _, _, hkept⟩ := hcancelled.keptOut
    exact absurd hkept.cancelled List.not_mem_nil
  have hsame := (cancelled_leaves_no_trace tally).2.2.1 tally_isTransformer works box 0 a [1] ha
    (by simp [a, events]) hcalls
  refine ⟨⟨ha, hb, hcalls, hnone, hsame.2 b hb (by simp [b, events]) hnone rfl⟩, ?_⟩
  have hgiven : (h.call Script.interpreter "p" "echo" (.nat 7)).1 = some (.error (.timeout "p" 30000)) := rfl
  obtain ⟨l, t, queued, i, hl, hqueued, hi, -, ⟨c, hreach, hc⟩, hcancelled⟩ :=
    (cancelled_leaves_no_trace Script.interpreter).2.2.2 {} .standard {} 5000 {} _ "p" "echo" (.nat 7) 30000 _
      (Prod.ext hgiven rfl)
  cases hl.symm.trans rfl
  cases hqueued.symm.trans rfl
  cases hi.symm.trans rfl
  obtain ⟨c', -, hnow, hbarred⟩ := hcancelled (.inl (List.mem_singleton_self _)) c hreach hc
  exact ⟨_, c', Prod.ext hgiven rfl, hnow, hbarred⟩

end

end Host

end PluginSandbox
