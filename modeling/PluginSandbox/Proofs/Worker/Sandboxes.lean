import PluginSandbox.Proofs.Worker.Runs

/-!
# What becomes of a sandbox

On a worker the sandbox changes in two ways only: a call that starts begins to
count its instructions afresh, and a callback leaves it as its interpreter did.
-/

namespace PluginSandbox

variable {σ : Type}

def Conduct.sandbox : Conduct σ → Sandbox
  | ends _ box _ => box
  | waits box _ => box

def Conduct.state : Conduct σ → σ
  | ends _ _ s => s
  | waits _ s => s

def Sandbox.afresh (box : Sandbox) : Sandbox :=
  { box with monitor := box.monitor.resetInstructions }

namespace Incarnation

theorem sandbox_sendOwn (i : Incarnation σ) (notice : Option (String × Json)) :
    (i.sendOwn notice).sandbox = i.sandbox := by
  unfold sendOwn
  cases notice with
  | none => rfl
  | some notice =>
    dsimp only
    cases i.worker.notify notice.1 notice.2 <;> rfl

theorem sandbox_awake? {interp : Interpreter σ} {i : Incarnation σ} {job : Job} {r : Completion × Incarnation σ}
    (h : i.awake? interp job = some r) : r.2.sandbox = i.sandbox := by
  cases awakes_of_awake? h with
  | parked | inside => rfl

section
variable {interp : Interpreter σ} (P : Sandbox → Prop) (hafresh : ∀ box, P box → P box.afresh)
  (hinvoke : ∀ scene heard callback args box s, P box →
    P (interp.invoke scene heard callback args box s).sandbox) (scene : Scene)

include hinvoke in
theorem sandbox_enter (i : Incarnation σ) (h : P i.sandbox) (callback : String) (args : Json) :
    P (i.enter interp scene callback args).2.sandbox := by
  have hc := hinvoke scene ((i.record (.entered callback args)).heard interp) callback args i.sandbox i.state h
  unfold enter
  dsimp only [record] at hc ⊢
  split
  next o box s hi =>
    rw [hi] at hc
    exact hc
  next box s hi =>
    rw [hi] at hc
    exact hc

include hafresh hinvoke

theorem sandbox_run (i : Incarnation σ) (h : P i.sandbox) (job : Job) :
    P (i.run interp scene job).2.sandbox := by
  have hsent (label : Json) (notice : Option (String × Json)) :
      P ((i.record (.job label)).sendOwn notice).sandbox := by
    rw [sandbox_sendOwn]
    exact h
  have hruns := i.runs interp scene job
  generalize i.run interp scene job = r at hruns ⊢
  cases hruns with
  | skipped | refused | panicked | overBudget | parked | stopped => exact h
  | passed t callback args =>
    exact sandbox_enter P hinvoke scene { i with worker := i.worker.watch t } h callback args
  | budgeted t callback args =>
    exact sandbox_enter P hinvoke scene { i with worker := i.worker.watch t, sandbox := i.sandbox.afresh }
      (hafresh _ h) callback args
  | noticed callback args => exact sandbox_enter P hinvoke scene i h callback args
  | done label notice => exact hsent label notice
  | chained label notice callback args =>
    exact sandbox_enter P hinvoke scene _ (hsent label notice) callback args

theorem sandbox_begin (i : Incarnation σ) (h : P i.sandbox) (job : Job) :
    P (i.begin interp scene job).sandbox := by
  have hr := sandbox_run P hafresh hinvoke scene i h job
  unfold begin
  split
  next c i' hi =>
    rw [hi] at hr
    exact hr
  next i' hi =>
    rw [hi] at hr
    exact hr

/-- What holds of the sandbox, is kept when instructions are counted afresh and is kept by every
callback, still holds after a move. -/
theorem sandbox_advance? {i i' : Incarnation σ} (h : P i.sandbox) (hi : i.advance? interp scene = some i') :
    P i'.sandbox := by
  unfold advance? at hi
  split at hi
  next job _ =>
    cases hi
    exact sandbox_begin P hafresh hinvoke scene i h job
  next job _ =>
    obtain ⟨r, hr, hi⟩ := Option.map_eq_some_iff.mp hi
    subst hi
    exact (sandbox_awake? hr).symm ▸ h
  next =>
    obtain ⟨w, _, hi⟩ := Option.map_eq_some_iff.mp hi
    subst hi
    split <;> exact h

end

end Incarnation

end PluginSandbox
