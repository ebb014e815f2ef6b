import Mathlib.Algebra.Ring.Nat
import Mathlib.Data.List.Infix
import PluginSandbox.Proofs.Monitor.Budget

/-!
# Counters against their ceilings

A counter is a word and wraps, while what is compared with the ceiling stops at
the largest word. Told from the operations, both are right as long as the exact
count fits in the word, and the addition that takes it out of the word is seen.
-/

namespace PluginSandbox.Monitor

/-! ## The limits in force -/

def inForce (limits : Limits) (ops : List Op) : Limits :=
  ((ops.filterMap Op.limits?).getLast?).getD limits

theorem inForce_concat (limits : Limits) (ops : List Op) (op : Op) :
    inForce limits (ops ++ [op]) = op.limits?.getD (inForce limits ops) := by
  unfold inForce
  rw [List.filterMap_append, List.getLast?_append]
  cases h : op.limits? <;> simp [h]

section
variable (limits : Limits) (now : Nat) (ops : List Op)

theorem limits_after_start : ((start limits now).after ops).limits = inForce limits ops := by
  induction ops using List.reverseRecOn with
  | nil => rfl
  | append_singleton ops op ih => rw [after_concat, limits_perform, inForce_concat, ih]

theorem ceilings_after_start :
    ((start limits now).after ops).ceilings = (inForce limits ops).ceilings := by
  have hmirrored : (start limits now).Mirrored := rfl
  rw [← limits_after_start limits now ops]
  exact hmirrored.after ops

end

/-! ## Answers -/

theorem answer_check (m : Monitor) (kind : Breach) (value limit : Nat) :
    (m.check kind value limit).1 = true ↔ 0 < limit ∧ limit < value := by
  unfold check
  split
  next h => exact iff_of_true rfl h
  next h => exact iff_of_false Bool.false_ne_true h

theorem latched_of_answer (m : Monitor) {op : Op} (hop : op.breach? ≠ none)
    (h : (m.perform op).1 = some true) : (m.perform op).2.latch ≠ none := by
  have hreset : op.isReset = false := by cases op <;> first | rfl | exact absurd rfl hop
  rw [latch_perform m hreset, breachOf, if_pos h]
  exact fun hnone => hop (Option.or_eq_none_iff.mp hnone).2

/-! ## Meters -/

inductive Meter where
  | instructions
  | output

namespace Meter

def count : Meter → Monitor → UInt64
  | instructions, m => m.instructions
  | output, m => m.output

def limit : Meter → Limits → UInt64
  | instructions, l => l.instructions
  | output, l => l.output

def add : Meter → UInt64 → Op
  | instructions, n => .addInstructions n
  | output, n => .addOutput n

def amount : Meter → Op → Nat
  | instructions, .addInstructions n => n.toNat
  | output, .addOutput n => n.toNat
  | _, _ => 0

def clears : Meter → Op → Bool
  | instructions, .resetInstructions => true
  | output, .resetOutput => true
  | _, .reset _ => true
  | _, _ => false

/-- The exact sum of what was added since the meter was last cleared. -/
def total (meter : Meter) (ops : List Op) : Nat :=
  ((ops.rtakeWhile fun op => !meter.clears op).map meter.amount).sum

variable (meter : Meter)

theorem total_concat (ops : List Op) (op : Op) :
    meter.total (ops ++ [op]) = if meter.clears op = true then 0 else meter.total ops + meter.amount op := by
  unfold total
  split
  next h => rw [List.rtakeWhile_concat_neg _ _ _ (by simp [h])]; rfl
  next h => rw [List.rtakeWhile_concat_pos _ _ _ (by simp [h])]; simp

theorem total_add (ops : List Op) (n : UInt64) :
    meter.total (ops ++ [meter.add n]) = meter.total ops + n.toNat := by
  rw [total_concat]
  cases meter <;> rfl

theorem count_check (m : Monitor) (kind : Breach) (value limit : Nat) :
    meter.count (m.check kind value limit).2 = meter.count m := by
  obtain ⟨latch, exceeded, heq⟩ := m.exists_check_eq kind value limit
  rw [heq]
  cases meter <;> rfl

theorem count_perform (m : Monitor) (op : Op) :
    (meter.count (m.perform op).2).toNat =
      if meter.clears op = true then 0 else ((meter.count m).toNat + meter.amount op) % 2 ^ 64 := by
  have hkept (w : UInt64) : w.toNat = (w.toNat + 0) % 2 ^ 64 := (Nat.mod_eq_of_lt w.toNat_lt).symm
  cases op with
  | addInstructions n =>
    refine (congrArg UInt64.toNat (meter.count_check _ _ _ _)).trans ?_
    cases meter with
    | instructions => exact UInt64.toNat_add _ _
    | output => exact hkept _
  | addOutput n =>
    refine (congrArg UInt64.toNat (meter.count_check _ _ _ _)).trans ?_
    cases meter with
    | instructions => exact hkept _
    | output => exact UInt64.toNat_add _ _
  | setMemory bytes =>
    refine (congrArg UInt64.toNat (meter.count_check _ _ _ _)).trans ?_
    cases meter <;> exact hkept _
  | startTask =>
    refine (congrArg UInt64.toNat (meter.count_check _ _ _ _)).trans ?_
    cases meter <;> exact hkept _
  | reset now => cases meter <;> rfl
  | _ => cases meter <;> exact hkept _

theorem count_after_start (limits : Limits) (now : Nat) (ops : List Op) :
    (meter.count ((start limits now).after ops)).toNat = meter.total ops % 2 ^ 64 := by
  induction ops using List.reverseRecOn with
  | nil => cases meter <;> rfl
  | append_singleton ops op ih =>
    rw [after_concat, count_perform, total_concat, ih]
    split
    · rfl
    · exact Nat.mod_add_mod _ _ _

/-- What is compared is the sum of the word before and the amount, up to the largest word. -/
theorem answer_add {m : Monitor} {l : Limits} (hm : m.ceilings = l.ceilings) (n : UInt64) :
    (m.perform (meter.add n)).1 = some true ↔
      0 < (meter.limit l).toNat ∧
        (meter.limit l).toNat < min (2 ^ 64 - 1) ((meter.count m).toNat + n.toNat) := by
  cases meter with
  | instructions =>
    have hlimit : m.ceilings.instructions = l.instructions := by rw [hm]; rfl
    refine (Option.some_inj.trans (answer_check _ _ _ _)).trans ?_
    rw [hlimit]
    exact Iff.rfl
  | output =>
    have hlimit : m.ceilings.output = l.output := by rw [hm]; rfl
    refine (Option.some_inj.trans (answer_check _ _ _ _)).trans ?_
    rw [hlimit]
    exact Iff.rfl

end Meter

/-! ## Tasks -/

/-- The tasks that run: one more with each start, one less with each end, and never less than none. -/
def tally (running : Nat) : Op → Nat
  | .startTask => running + 1
  | .endTask => running - 1
  | .reset _ => 0
  | _ => running

def tasksRunning (ops : List Op) : Nat :=
  ops.foldl tally 0

theorem tasksRunning_concat (ops : List Op) (op : Op) :
    tasksRunning (ops ++ [op]) = tally (tasksRunning ops) op :=
  List.foldl_concat ..

/-- At no time since the last full reset was the number of tasks too large for its word. -/
def TasksFit (ops : List Op) : Prop :=
  ∀ before later, ops = before ++ later → (∀ op ∈ later, op.isReset = false) → tasksRunning before < 2 ^ 32

theorem TasksFit.now {ops : List Op} (h : TasksFit ops) : tasksRunning ops < 2 ^ 32 :=
  h ops [] (List.append_nil _).symm fun _ hop => by cases hop

theorem TasksFit.before {ops : List Op} {op : Op} (h : TasksFit (ops ++ [op])) (hop : op.isReset = false) :
    TasksFit ops := by
  intro before later hsplit hlater
  refine h before (later ++ [op]) (by rw [hsplit, List.append_assoc]) fun op' hop' => ?_
  rcases List.mem_append.mp hop' with hop' | hop'
  · exact hlater op' hop'
  · exact List.mem_singleton.mp hop' ▸ hop

theorem tasks_check (m : Monitor) (kind : Breach) (value limit : Nat) :
    (m.check kind value limit).2.tasks = m.tasks := by
  obtain ⟨latch, exceeded, heq⟩ := m.exists_check_eq kind value limit
  rw [heq]

theorem tasks_perform (m : Monitor) (op : Op) (hfits : tally m.tasks.toNat op < 2 ^ 32) :
    (m.perform op).2.tasks.toNat = tally m.tasks.toNat op := by
  cases op with
  | addInstructions n => exact congrArg UInt32.toNat (tasks_check _ _ _ _)
  | setMemory bytes => exact congrArg UInt32.toNat (tasks_check _ _ _ _)
  | addOutput n => exact congrArg UInt32.toNat (tasks_check _ _ _ _)
  | startTask =>
    refine (congrArg UInt32.toNat (tasks_check _ _ _ _)).trans ?_
    exact (UInt32.toNat_add _ _).trans (Nat.mod_eq_of_lt hfits)
  | endTask =>
    show (if m.tasks = 0 then 0 else m.tasks - 1).toNat = m.tasks.toNat - 1
    split
    next hzero => rw [hzero]; rfl
    next hpos =>
      have hle : (1 : UInt32) ≤ m.tasks := by grind
      exact UInt32.toNat_sub_of_le _ _ hle
  | _ => rfl

theorem tasks_after_start (limits : Limits) (now : Nat) (ops : List Op) (h : TasksFit ops) :
    ((start limits now).after ops).tasks.toNat = tasksRunning ops := by
  induction ops using List.reverseRecOn with
  | nil => rfl
  | append_singleton ops op ih =>
    rw [after_concat, tasksRunning_concat]
    cases hop : op.isReset with
    | true => cases op <;> first | rfl | cases hop
    | false =>
      -- the number fits at this moment, so the word does not wrap in this step
      have hbefore := ih (h.before hop)
      have hfits := h.now
      rw [tasksRunning_concat, ← hbefore] at hfits
      rw [tasks_perform _ _ hfits, hbefore]

theorem answer_startTask {m : Monitor} {l : Limits} (hm : m.ceilings = l.ceilings) :
    (m.perform .startTask).1 = some true ↔
      0 < l.tasks.toNat ∧ l.tasks.toNat < min (2 ^ 32 - 1) (m.tasks.toNat + 1) := by
  have hlimit : m.ceilings.tasks = l.tasks := by rw [hm]; rfl
  rw [← hlimit]
  exact Option.some_inj.trans (answer_check _ _ _ _)

/-! ## The main result -/

/-- **No crossing of a ceiling goes unseen.** After any run the counters of instructions and output
are the exact sums since they were last cleared, as long as these fit in a word, and an addition
says that its ceiling is broken exactly if the exact sum is over it; the addition by which the sum
leaves the word says so under every ceiling short of the largest. The same holds of the tasks that
run. What says so leaves the monitor latched. -/
theorem no_crossing_unseen (limits : Limits) (now : Nat) (ops : List Op) :
    let m := (start limits now).after ops
    let l := inForce limits ops
    (∀ meter : Meter,
      (meter.total ops < 2 ^ 64 → (meter.count m).toNat = meter.total ops) ∧
      ∀ n : UInt64,
        (meter.total (ops ++ [meter.add n]) < 2 ^ 64 →
          ((m.perform (meter.add n)).1 = some true ↔
            0 < (meter.limit l).toNat ∧ (meter.limit l).toNat < meter.total (ops ++ [meter.add n]))) ∧
        (meter.total ops < 2 ^ 64 → 2 ^ 64 ≤ meter.total (ops ++ [meter.add n]) →
          0 < (meter.limit l).toNat → (meter.limit l).toNat < 2 ^ 64 - 1 →
          (m.perform (meter.add n)).1 = some true)) ∧
    (TasksFit ops → m.tasks.toNat = tasksRunning ops) ∧
    (TasksFit (ops ++ [.startTask]) →
      ((m.perform .startTask).1 = some true ↔
        0 < l.tasks.toNat ∧ l.tasks.toNat < tasksRunning (ops ++ [.startTask]))) ∧
    ∀ op : Op, op.breach? ≠ none → (m.perform op).1 = some true →
      (m.perform op).2.latch ≠ none ∧ (m.perform op).2.isExceeded = true := by
  intro m l
  have hceilings : m.ceilings = l.ceilings := ceilings_after_start limits now ops
  refine ⟨fun meter => ?_, tasks_after_start limits now ops, fun hfits => ?_, fun op hop htrue => ?_⟩
  · have hcount : meter.total ops < 2 ^ 64 → (meter.count m).toNat = meter.total ops := fun hfits =>
      (meter.count_after_start limits now ops).trans (Nat.mod_eq_of_lt hfits)
    -- before the addition the sum fits, so the word is the sum and only the comparison may saturate
    refine ⟨hcount, fun n => ?_⟩
    rw [meter.total_add, meter.answer_add hceilings]
    constructor
    · intro hfits
      rw [hcount (by omega)]
      omega
    · intro hfits hcrosses hpos hshort
      rw [hcount hfits]
      omega
  · have hbefore : m.tasks.toNat = tasksRunning ops := tasks_after_start limits now ops (hfits.before rfl)
    have hnow := hfits.now
    rw [tasksRunning_concat, tally] at hnow ⊢
    rw [answer_startTask hceilings, hbefore]
    omega
  · have hlatched := latched_of_answer m hop htrue
    have hagrees : (m.perform op).2.Agrees := (agrees_after_start limits now ops).perform op
    exact ⟨hlatched, hagrees.trans (Option.isSome_iff_ne_none.mpr hlatched)⟩

/-- The word of the instructions wraps to sixteen under a ceiling near its end, and the addition says
so. A task ends that never started, and the second one after it is one too many. -/
theorem no_crossing_unseen_wrapped :
    let limits : Limits := { Limits.standard with instructions := 100, tasks := 1 }
    let ops : List Op :=
      [.addInstructions 101, .reset 1, .setLimits { limits with instructions := 0xFFFFFFFFFFFFFFFE } 2,
        .addInstructions 0xFFFFFFFFFFFFFFF0, .endTask, .startTask]
    let m := (start limits 0).after ops
    let more : Op := .addInstructions 0x20
    TasksFit (ops ++ [.startTask]) ∧
      m.instructions.toNat = 0xFFFFFFFFFFFFFFF0 ∧
      ((m.perform more).1 = some true ∧ (m.perform more).2.latch ≠ none ∧
        (m.perform more).2.instructions = 0x10) ∧
      ((m.perform .startTask).1 = some true ∧ (m.perform .startTask).2.latch ≠ none) := by
  intro limits ops m more
  have hfits : TasksFit (ops ++ [.startTask]) := by
    intro before later hsplit _
    have hall : ∀ done ∈ (ops ++ [Op.startTask]).inits, tasksRunning done < 2 ^ 32 := by decide +kernel
    exact hall before ((List.mem_inits _ _).mpr ⟨later, hsplit.symm⟩)
  obtain ⟨hmeters, -, htasks, hlast⟩ := no_crossing_unseen limits 0 ops
  obtain ⟨hcount, hadds⟩ := hmeters .instructions
  have hlatches (op : Op) (hop : op.breach? ≠ none) (h : (m.perform op).1 = some true) :
      (m.perform op).2.latch ≠ none := (hlast op hop h).1
  have hword : m.instructions.toNat = 0xFFFFFFFFFFFFFFF0 := by
    rw [show m.instructions.toNat = _ from hcount (by decide +kernel)]
    decide +kernel
  have hover : (m.perform more).1 = some true :=
    (hadds 0x20).2 (by decide +kernel) (by decide +kernel) (by decide +kernel) (by decide +kernel)
  have hcrowded : (m.perform .startTask).1 = some true := (htasks hfits).mpr (by decide +kernel)
  exact ⟨hfits, hword, ⟨hover, hlatches more nofun hover, by decide +kernel⟩, hcrowded,
    hlatches .startTask nofun hcrowded⟩

end PluginSandbox.Monitor
