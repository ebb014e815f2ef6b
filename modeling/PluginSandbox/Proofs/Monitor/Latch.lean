import Mathlib.Data.List.DropRight
import PluginSandbox.Proofs.Monitor.History

/-!
# The latch of a monitor

The latch and the flag beside it tell one fact about the history: which
accounting call was the first, since the last full reset, to answer that a
ceiling is broken.
-/

namespace PluginSandbox.Monitor

/-! ## The latch in a history -/

def breachOf (entry : Op × Option Bool) : Option Breach :=
  if entry.2 = some true then entry.1.breach? else none

theorem breachOf_eq_none {op : Op} (h : op.breach? = none) (answer : Option Bool) :
    breachOf (op, answer) = none := by
  unfold breachOf
  rw [h]
  exact ite_self _

def sinceReset (log : List (Op × Option Bool)) : List (Op × Option Bool) :=
  log.rtakeWhile fun entry => !entry.1.isReset

/-- The first ceiling reported as broken since the last full reset. -/
def firstBreach (log : List (Op × Option Bool)) : Option Breach :=
  (sinceReset log).findSome? breachOf

theorem firstBreach_concat_reset (log : List (Op × Option Bool)) {entry : Op × Option Bool}
    (h : entry.1.isReset = true) : firstBreach (log ++ [entry]) = none := by
  unfold firstBreach sinceReset
  rw [List.rtakeWhile_concat_neg _ _ _ (by simp [h])]
  rfl

theorem firstBreach_concat (log : List (Op × Option Bool)) {entry : Op × Option Bool}
    (h : entry.1.isReset = false) :
    firstBreach (log ++ [entry]) = (firstBreach log).or (breachOf entry) := by
  unfold firstBreach sinceReset
  rw [List.rtakeWhile_concat_pos _ _ _ (by simp [h]), List.findSome?_append]
  simp

/-! ## What one operation does to it -/

def Agrees (m : Monitor) : Prop :=
  m.exceeded = m.latch.isSome

theorem latch_latchOnce (m : Monitor) (kind : Breach) : (m.latchOnce kind).latch = m.latch.or (some kind) := by
  unfold latchOnce
  cases h : m.latch with
  | none => rfl
  | some first => exact h

theorem Agrees.latchOnce {m : Monitor} (h : m.Agrees) (kind : Breach) : (m.latchOnce kind).Agrees := by
  unfold Monitor.latchOnce
  split
  · rfl
  · exact h

theorem latch_check (m : Monitor) (kind : Breach) (value limit : Nat) :
    (m.check kind value limit).2.latch =
      m.latch.or (if (m.check kind value limit).1 = true then some kind else none) := by
  unfold check
  split
  · exact m.latch_latchOnce kind
  · exact (Option.or_none).symm

theorem Agrees.check {m : Monitor} (h : m.Agrees) (kind : Breach) (value limit : Nat) :
    (m.check kind value limit).2.Agrees := by
  unfold Monitor.check
  split
  · exact h.latchOnce kind
  · exact h

/-- Short of a full reset, an operation latches the ceiling that it reports as broken, if none is
latched yet, and does nothing else to the latch. -/
theorem latch_perform (m : Monitor) {op : Op} (h : op.isReset = false) :
    (m.perform op).2.latch = m.latch.or (breachOf (op, (m.perform op).1)) := by
  have hcheck (m' : Monitor) (kind : Breach) (value limit : Nat) (hm : m'.latch = m.latch) :
      (m'.check kind value limit).2.latch =
        m.latch.or (if some (m'.check kind value limit).1 = some true then some kind else none) := by
    rw [latch_check, hm]
    simp only [Option.some.injEq]
  cases op with
  | addInstructions n => exact hcheck _ _ _ _ rfl
  | setMemory bytes => exact hcheck _ _ _ _ rfl
  | startTask => exact hcheck _ _ _ _ rfl
  | addOutput n => exact hcheck _ _ _ _ rfl
  | reset now => cases h
  | _ =>
    rw [breachOf_eq_none rfl, Option.or_none]
    rfl

theorem Agrees.perform {m : Monitor} (h : m.Agrees) (op : Op) : (m.perform op).2.Agrees := by
  cases op with
  | addInstructions n => exact Agrees.check (m := { m with instructions := m.instructions + n }) h _ _ _
  | setMemory bytes => exact Agrees.check (m := { m with memory := bytes }) h _ _ _
  | startTask => exact Agrees.check (m := { m with tasks := m.tasks + 1 }) h _ _ _
  | addOutput n => exact Agrees.check (m := { m with output := m.output + n }) h _ _ _
  | reset now => rfl
  | _ => exact h

/-! ## Over whole runs -/

theorem agrees_after_start (limits : Limits) (now : Nat) (ops : List Op) :
    ((start limits now).after ops).Agrees := by
  induction ops using List.reverseRecOn with
  | nil => rfl
  | append_singleton ops op ih =>
    rw [after_concat]
    exact ih.perform op

theorem latch_after_start (limits : Limits) (now : Nat) (ops : List Op) :
    ((start limits now).after ops).latch = firstBreach ((start limits now).answers ops) := by
  induction ops using List.reverseRecOn with
  | nil => rfl
  | append_singleton ops op ih =>
    rw [after_concat, answers_concat]
    cases h : op.isReset with
    | true =>
      rw [firstBreach_concat_reset _ h]
      cases op <;> first | rfl | cases h
    | false => rw [latch_perform _ h, firstBreach_concat _ h, ih]

/-- **The latch.** After any run it is the first ceiling reported as broken since the last full
reset; flag, report and reason agree with it; only a full reset clears it, and nothing but the
first breach sets it. -/
theorem latch_eq_firstBreach (limits : Limits) (now : Nat) (ops : List Op) :
    let m := (start limits now).after ops
    m.latch = firstBreach ((start limits now).answers ops) ∧
      (m.isExceeded = m.latch.isSome ∧ m.usage.exceeded = m.latch.isSome) ∧
      (m.reason? = m.latch.map Breach.reason ∧ m.usage.reason = m.latch.map Breach.reason) ∧
      (∀ op : Op, op.isReset = false → op.breach? = none ∨ m.latch.isSome = true →
        (m.perform op).2.latch = m.latch ∧ (m.perform op).2.isExceeded = m.isExceeded) ∧
      ∀ op : Op, op.isReset = true →
        (m.perform op).2.latch = none ∧ (m.perform op).2.isExceeded = false := by
  intro m
  have hagrees : m.Agrees := agrees_after_start limits now ops
  refine ⟨latch_after_start limits now ops, ⟨hagrees, rfl⟩, ⟨rfl, rfl⟩, ?_, ?_⟩
  · intro op hop hkeeps
    have hlatch : (m.perform op).2.latch = m.latch := by
      rw [latch_perform m hop]
      rcases hkeeps with hnone | hsome
      · rw [breachOf_eq_none hnone, Option.or_none]
      · obtain ⟨kind, hkind⟩ := Option.isSome_iff_exists.mp hsome
        rw [hkind, Option.some_or]
    refine ⟨hlatch, ?_⟩
    calc (m.perform op).2.isExceeded = (m.perform op).2.latch.isSome := hagrees.perform op
      _ = m.latch.isSome := by rw [hlatch]
      _ = m.isExceeded := hagrees.symm
  · intro op hop
    cases op <;> first | exact ⟨rfl, rfl⟩ | cases hop

/-- Too much output comes first; neither the breach after it, nor more room, nor the end of a task
changes what is latched. -/
theorem latch_eq_firstBreach_output :
    let limits : Limits := { Limits.standard with instructions := 10, output := 5 }
    let m := (start limits 0).after
      [.setMemory 3, .addOutput 6, .addInstructions 20, .resetOutput, .setLimits .unlimited 1]
    m.latch = some .output ∧ m.isExceeded = true ∧ m.reason? = some "output size limit exceeded" ∧
      (m.perform .endTask).2.latch = some .output ∧
      (m.perform (.addInstructions 20)).2.latch = some .output ∧
      (m.perform (.reset 2)).2.latch = none := by
  intro limits m
  obtain ⟨hlatch, ⟨hflag, -⟩, ⟨hreason, -⟩, hkeeps, hclears⟩ := latch_eq_firstBreach limits 0
    [.setMemory 3, .addOutput 6, .addInstructions 20, .resetOutput, .setLimits .unlimited 1]
  have houtput : m.latch = some .output := hlatch.trans (by decide)
  refine ⟨houtput, ?_, ?_, ?_, ?_, ?_⟩
  · rw [show m.isExceeded = _ from hflag, houtput]
    rfl
  · rw [show m.reason? = _ from hreason, houtput]
    rfl
  · exact (hkeeps .endTask rfl (.inl rfl)).1.trans houtput
  · exact (hkeeps (.addInstructions 20) rfl (.inr (by rw [houtput]; rfl))).1.trans houtput
  · exact (hclears (.reset 2) rfl).1

end PluginSandbox.Monitor
