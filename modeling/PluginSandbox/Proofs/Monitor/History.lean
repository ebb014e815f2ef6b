import PluginSandbox.Monitor

/-!
# Histories of a monitor

Every operation that changes a monitor, and what a run of them answers.
-/

namespace PluginSandbox.Monitor

/-- What can be done to a monitor. What looks at the clock carries the time. -/
inductive Op where
  | addInstructions (n : UInt64)
  | setMemory (bytes : UInt64)
  | startTask
  | endTask
  | addOutput (n : UInt64)
  | tryFileOp (now : Nat)
  | tryNetworkRequest (now : Nat)
  | resetInstructions
  | resetOutput
  | setLimits (limits : Limits) (now : Nat)
  | reset (now : Nat)
deriving DecidableEq

namespace Op

def breach? : Op → Option Breach
  | addInstructions _ => some .instructions
  | setMemory _ => some .memory
  | startTask => some .tasks
  | addOutput _ => some .output
  | _ => none

def isReset : Op → Bool
  | reset _ => true
  | _ => false

def limits? : Op → Option Limits
  | setLimits limits _ => some limits
  | _ => none

end Op

def perform (m : Monitor) : Op → Option Bool × Monitor
  | .addInstructions n => (m.addInstructions n).map some id
  | .setMemory bytes => (m.setMemory bytes).map some id
  | .startTask => m.startTask.map some id
  | .endTask => (none, m.endTask)
  | .addOutput n => (m.addOutput n).map some id
  | .tryFileOp now => (m.tryFileOp now).map some id
  | .tryNetworkRequest now => (m.tryNetworkRequest now).map some id
  | .resetInstructions => (none, m.resetInstructions)
  | .resetOutput => (none, m.resetOutput)
  | .setLimits limits now => (none, m.setLimits limits now)
  | .reset now => (none, m.reset now)

def after (m : Monitor) (ops : List Op) : Monitor :=
  ops.foldl (fun m op => (m.perform op).2) m

def answers (m : Monitor) : List Op → List (Op × Option Bool)
  | [] => []
  | op :: ops => (op, (m.perform op).1) :: answers (m.perform op).2 ops

/-- A comparison touches the latch and its flag and nothing else. -/
theorem exists_check_eq (m : Monitor) (kind : Breach) (value limit : Nat) :
    ∃ latch exceeded, (m.check kind value limit).2 = { m with latch := latch, exceeded := exceeded } := by
  unfold check latchOnce
  split
  · cases m.latch with
    | none => exact ⟨some kind, true, rfl⟩
    | some first => exact ⟨m.latch, m.exceeded, rfl⟩
  · exact ⟨m.latch, m.exceeded, rfl⟩

theorem limits_check (m : Monitor) (kind : Breach) (value limit : Nat) :
    (m.check kind value limit).2.limits = m.limits := by
  obtain ⟨latch, exceeded, heq⟩ := m.exists_check_eq kind value limit
  rw [heq]

theorem limits_perform (m : Monitor) (op : Op) : (m.perform op).2.limits = op.limits?.getD m.limits := by
  cases op with
  | addInstructions | setMemory | startTask | addOutput => exact limits_check _ _ _ _
  | _ => rfl

theorem after_concat (m : Monitor) (ops : List Op) (op : Op) :
    m.after (ops ++ [op]) = ((m.after ops).perform op).2 := by
  unfold after
  rw [List.foldl_append, List.foldl_cons, List.foldl_nil]

theorem answers_concat (m : Monitor) (ops : List Op) (op : Op) :
    m.answers (ops ++ [op]) = m.answers ops ++ [(op, ((m.after ops).perform op).1)] := by
  induction ops generalizing m with
  | nil => rfl
  | cons first ops ih => exact congrArg ((first, (m.perform first).1) :: ·) (ih (m.perform first).2)

end PluginSandbox.Monitor
