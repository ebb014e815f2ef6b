import PluginSandbox.Proofs.Host.Acts
import PluginSandbox.Proofs.Monitor.History
import PluginSandbox.Proofs.Worker.Sandboxes
import PluginSandbox.Script

/-!
# Bounds

The checker and the limits of an incarnation bound what its script may do.
If no callback changes them, then nothing that runs on a worker does, and most
operations of the host leave the bounds of every incarnation as they were.
-/

namespace PluginSandbox

variable {σ : Type}

/-- What bounds a script, apart from what it has already used. -/
def Sandbox.bounds (box : Sandbox) : Checker × Limits :=
  (box.checker, box.monitor.limits)

def Interpreter.KeepsBounds (interp : Interpreter σ) : Prop :=
  ∀ scene interrupted callback args box s,
    (interp.invoke scene interrupted callback args box s).sandbox.bounds = box.bounds

/-! ## Incarnations -/

namespace Incarnation

section
variable {interp : Interpreter σ} {P : Sandbox → Prop} (hafresh : ∀ box, P box → P box.afresh)
  (hreset : ∀ box now, P box → P { box with monitor := box.monitor.reset now })
  (hinvoke : ∀ scene heard callback args box s, P box →
    P (interp.invoke scene heard callback args box s).sandbox)
include hafresh hreset hinvoke

theorem sandbox_act {i : Incarnation σ} (h : P i.sandbox) {a : Act σ} (ha : a.isRoutine = true) :
    P (i.act interp a).sandbox := by
  cases a with
  | call callback args =>
    rcases i.act_call interp callback args with ⟨t, w, -, hi⟩ | hi
    · rw [hi]; exact h
    · rw [hi]; exact h
  | notify callback args =>
    rcases i.act_notify interp callback args with ⟨w, -, hi⟩ | hi
    · rw [hi]; exact h
    · rw [hi]; exact h
  | cancel t => exact h
  | reset now => exact hreset _ now h
  | move scene =>
    rcases i.act_move interp scene with ⟨i', hi', hi⟩ | hi
    · rw [hi]; exact sandbox_advance? P hafresh hinvoke scene h hi'
    · rw [hi]; exact h
  | _ => cases ha

theorem sandbox_after {i : Incarnation σ} (h : P i.sandbox) {acts : List (Act σ)}
    (hacts : ∀ a ∈ acts, a.isRoutine = true) : P (i.after interp acts).sandbox := by
  induction acts generalizing i with
  | nil => exact h
  | cons a acts ih =>
    rw [List.forall_mem_cons] at hacts
    exact ih (sandbox_act hafresh hreset hinvoke h hacts.1) hacts.2

end

theorem bounds_after {interp : Interpreter σ} (hk : interp.KeepsBounds) (i : Incarnation σ) {acts : List (Act σ)}
    (hacts : ∀ a ∈ acts, a.isRoutine = true) : (i.after interp acts).sandbox.bounds = i.sandbox.bounds := by
  refine sandbox_after (P := fun box => box.bounds = i.sandbox.bounds) ?_ ?_ ?_ rfl hacts
  · exact fun _ hbox => hbox
  · exact fun _ _ hbox => hbox
  · exact fun scene heard callback args box s hbox => (hk scene heard callback args box s).trans hbox

end Incarnation

/-! ## Fleets -/

namespace Fleet

def bounds (f : Fleet σ) : List (Checker × Limits) :=
  f.members.map (·.sandbox.bounds)

theorem bounds_add (f : Fleet σ) (i : Incarnation σ) : (f.add i).2.bounds = f.bounds ++ [i.sandbox.bounds] := by
  simp [add, bounds]

theorem getElem?_bounds (f : Fleet σ) (handle : Handle) :
    f.bounds[handle]? = (f.get? handle).map (·.sandbox.bounds) :=
  List.getElem?_map

theorem Acted.bounds {interp : Interpreter σ} (hk : interp.KeepsBounds) {f f' : Fleet σ} (ha : f.Acted interp f') :
    f'.bounds = f.bounds := by
  refine List.ext_getElem? fun handle => ?_
  rw [getElem?_bounds, getElem?_bounds]
  cases hj : f'.get? handle with
  | some j =>
    obtain ⟨i, acts, hi, hroutine, rfl⟩ := ha.exists_of_get? hj
    rw [hi]
    exact congrArg some (Incarnation.bounds_after hk i hroutine)
  | none =>
    cases hi : f.get? handle with
    | none => rfl
    | some i =>
      obtain ⟨acts, -, hacts⟩ := ha.acts handle i hi
      cases hj.symm.trans hacts

end Fleet

/-! ## Scripts -/

namespace Script

theorem bounds_account {r : Bool × Monitor} {box : Sandbox} (hr : r.2.limits = box.monitor.limits)
    (counter : Monitor → Nat) (s : Script) : (account r counter box s).sandbox.bounds = box.bounds := by
  unfold account Sandbox.bounds
  dsimp only
  split
  · rw [← hr]; rfl
  · rw [← hr]; rfl

theorem sandbox_ask (r : Except Denial Unit) (text : String) (box : Sandbox) (s : Script) :
    (ask r text box s).sandbox = box := by
  cases r <;> rfl

/-- Scripts spend resources and ask the checker, and change neither it nor the limits. -/
theorem interpreter_keepsBounds : interpreter.KeepsBounds := by
  intro scene interrupted callback args box s
  show (invoke scene interrupted callback args box s).sandbox.bounds = box.bounds
  unfold invoke
  dsimp only
  split
  case h_4 => exact bounds_account (Monitor.limits_perform _ (.addInstructions _)) _ s
  case h_5 => exact bounds_account (Monitor.limits_perform _ (.setMemory _)) _ s
  case h_6 => exact bounds_account (Monitor.limits_perform _ (.addOutput _)) _ s
  case h_7 => exact bounds_account (Monitor.limits_perform _ .startTask) _ s
  all_goals first | rfl | exact congrArg Sandbox.bounds (sandbox_ask _ _ box s)

end Script

end PluginSandbox
