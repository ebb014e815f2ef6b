import PluginSandbox.Proofs.Monitor.Latch

/-!
# Budgets

As long as what is spent stays within the limit of instructions, that limit is
not what latches a monitor, whatever else is spent and reset meanwhile.
-/

namespace PluginSandbox.Monitor

/-! ## Ceilings and limits -/

def Mirrored (m : Monitor) : Prop :=
  m.ceilings = m.limits.ceilings

theorem Mirrored.check {m : Monitor} (h : m.Mirrored) (kind : Breach) (value limit : Nat) :
    (m.check kind value limit).2.Mirrored := by
  obtain ⟨latch, exceeded, heq⟩ := m.exists_check_eq kind value limit
  rw [heq]
  exact h

theorem Mirrored.perform {m : Monitor} (h : m.Mirrored) (op : Op) : (m.perform op).2.Mirrored := by
  cases op with
  | addInstructions n => exact Mirrored.check (m := { m with instructions := m.instructions + n }) h _ _ _
  | setMemory bytes => exact Mirrored.check (m := { m with memory := bytes }) h _ _ _
  | startTask => exact Mirrored.check (m := { m with tasks := m.tasks + 1 }) h _ _ _
  | addOutput n => exact Mirrored.check (m := { m with output := m.output + n }) h _ _ _
  | setLimits limits now => rfl
  | _ => exact h

theorem Mirrored.after {m : Monitor} (h : m.Mirrored) (ops : List Op) : (m.after ops).Mirrored := by
  induction ops generalizing m with
  | nil => exact h
  | cons op ops ih => exact ih (h.perform op)

/-! ## Spending -/

namespace Op

def cost : Op → Nat
  | addInstructions n => n.toNat
  | _ => 0

def keepsLimits : Op → Bool
  | setLimits _ _ => false
  | _ => true

end Op

def cost : List Op → Nat
  | [] => 0
  | op :: ops => op.cost + cost ops

theorem cost_append (ops more : List Op) : cost (ops ++ more) = cost ops + cost more := by
  induction ops with
  | nil => exact (Nat.zero_add _).symm
  | cons op ops ih => rw [List.cons_append, cost, ih, cost, Nat.add_assoc]

theorem after_append (m : Monitor) (ops more : List Op) : m.after (ops ++ more) = (m.after ops).after more :=
  List.foldl_append

/-- At most `spent` instructions are counted against `limit`, and it is not broken. -/
structure Within (m : Monitor) (limit : UInt64) (spent : Nat) : Prop where
  ceiling : m.ceilings.instructions = limit
  counted : m.instructions.toNat ≤ spent
  unbroken : m.latch ≠ some .instructions

section
variable {m : Monitor} {limit : UInt64} {spent : Nat} (h : m.Within limit spent)
include h

theorem Within.check (kind : Breach) (hkind : kind ≠ .instructions) (m' : Monitor)
    (hceilings : m'.ceilings = m.ceilings) (hcounter : m'.instructions = m.instructions)
    (hlatch : m'.latch = m.latch) (value limit' : Nat) : (m'.check kind value limit').2.Within limit spent := by
  obtain ⟨latch, exceeded, heq⟩ := m'.exists_check_eq kind value limit'
  refine ⟨?_, ?_, ?_⟩
  · rw [heq]
    exact (congrArg Ceilings.instructions hceilings).trans h.ceiling
  · rw [heq]
    exact Nat.le_trans (Nat.le_of_eq (congrArg UInt64.toNat hcounter)) h.counted
  · rw [latch_check, hlatch]
    intro hinstructions
    rcases Option.or_eq_some_iff.mp hinstructions with hm | ⟨-, hnew⟩
    · exact h.unbroken hm
    · split at hnew
      · exact hkind (Option.some.inj hnew)
      · cases hnew

theorem Within.addInstructions (n : UInt64) (hroom : limit = 0 ∨ spent + n.toNat ≤ limit.toNat) :
    (m.addInstructions n).2.Within limit (spent + n.toNat) := by
  have hcounted := h.counted
  -- What is compared does not pass the limit, so the counter has not wrapped either.
  have hunder : ¬ (0 < limit.toNat ∧ limit.toNat < min (UInt64.size - 1) (m.instructions.toNat + n.toNat)) := by
    rcases hroom with hzero | hroom
    · rw [hzero]
      exact fun hover => absurd hover.1 (Nat.lt_irrefl 0)
    · omega
  unfold Monitor.addInstructions Monitor.check
  dsimp only
  rw [h.ceiling, if_neg hunder]
  refine ⟨h.ceiling, ?_, h.unbroken⟩
  calc (m.instructions + n).toNat = (m.instructions.toNat + n.toNat) % 2 ^ 64 := UInt64.toNat_add _ _
    _ ≤ m.instructions.toNat + n.toNat := Nat.mod_le _ _
    _ ≤ spent + n.toNat := by omega

theorem Within.perform {op : Op} (hop : op.keepsLimits = true) (hroom : limit = 0 ∨ spent + op.cost ≤ limit.toNat) :
    (m.perform op).2.Within limit (spent + op.cost) := by
  cases op with
  | addInstructions n => exact h.addInstructions n hroom
  | setMemory bytes => exact h.check .memory (by decide) { m with memory := bytes } rfl rfl rfl _ _
  | startTask => exact h.check .tasks (by decide) { m with tasks := m.tasks + 1 } rfl rfl rfl _ _
  | addOutput n => exact h.check .output (by decide) { m with output := m.output + n } rfl rfl rfl _ _
  | setLimits limits now => cases hop
  | resetInstructions => exact ⟨h.ceiling, Nat.zero_le _, h.unbroken⟩
  | reset now => exact ⟨h.ceiling, Nat.zero_le _, fun hlatch => by cases hlatch⟩
  | _ => exact ⟨h.ceiling, h.counted, h.unbroken⟩

theorem Within.after {ops : List Op} (hops : ∀ op ∈ ops, op.keepsLimits = true)
    (hroom : limit = 0 ∨ spent + cost ops ≤ limit.toNat) : (m.after ops).Within limit (spent + cost ops) := by
  induction ops generalizing m spent with
  | nil => exact h
  | cons op ops ih =>
    have hcost : spent + cost (op :: ops) = spent + op.cost + cost ops := (Nat.add_assoc _ _ _).symm
    rw [hcost] at hroom ⊢
    have hfirst : limit = 0 ∨ spent + op.cost ≤ limit.toNat := hroom.imp_right (by omega)
    exact ih (h.perform (hops op List.mem_cons_self) hfirst) (fun op' hop' => hops op' (List.mem_cons_of_mem _ hop'))
      hroom

end

end PluginSandbox.Monitor
