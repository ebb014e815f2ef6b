import PluginSandbox.Proofs.Bucket.Windows
import PluginSandbox.Proofs.Monitor.Counters

/-!
# Limits of a live monitor

A monitor keeps its limits, beside them the ceilings, and each rate once more in a
bucket. New limits are compared with the kept limits to tell whether a bucket has to
go, not with the bucket, so only the agreement of the copies makes that right.
-/

namespace PluginSandbox.Monitor

/-! ## What is enforced -/

/-- The accounting under each ceiling; a task is always one. -/
def charge : Breach → UInt64 → Op
  | .instructions, n => .addInstructions n
  | .memory, bytes => .setMemory bytes
  | .tasks, _ => .startTask
  | .output, n => .addOutput n

def ceiling : Breach → Limits → Nat
  | .instructions, l => l.instructions.toNat
  | .memory, l => l.memory.toNat
  | .tasks, l => l.tasks.toNat
  | .output, l => l.output.toNat

/-- What the accounting compares with its ceiling: a count with the amount in it, up to the largest
word. -/
def charged (m : Monitor) : Breach → UInt64 → Nat
  | .instructions, n => min (2 ^ 64 - 1) (m.instructions.toNat + n.toNat)
  | .memory, bytes => bytes.toNat
  | .tasks, _ => min (2 ^ 32 - 1) (m.tasks.toNat + 1)
  | .output, n => min (2 ^ 64 - 1) (m.output.toNat + n.toNat)

inductive Rate where
  | fileOps
  | networkRequests
deriving DecidableEq

namespace Rate

def perSecond : Rate → Limits → UInt32
  | fileOps, l => l.fileOpsPerSecond
  | networkRequests, l => l.networkRequestsPerSecond

def bucket : Rate → Monitor → Bucket
  | fileOps, m => m.fileOps
  | networkRequests, m => m.networkRequests

def attempt : Rate → Nat → Op
  | fileOps, now => .tryFileOp now
  | networkRequests, now => .tryNetworkRequest now

end Rate

/-! ## Ceilings -/

theorem check_fst (m : Monitor) (kind : Breach) (value limit : Nat) :
    (m.check kind value limit).1 = decide (0 < limit ∧ limit < value) := by
  rw [Bool.eq_iff_iff, answer_check, decide_eq_true_iff]

theorem answer_charge {m : Monitor} {l : Limits} (hm : m.ceilings = l.ceilings) (kind : Breach) (n : UInt64) :
    (m.perform (charge kind n)).1 = some (decide (0 < ceiling kind l ∧ ceiling kind l < m.charged kind n)) := by
  obtain ⟨limits, ceilings⟩ := m
  obtain rfl : ceilings = l.ceilings := hm
  cases kind <;> exact congrArg some (check_fst _ _ _ _)

/-! ## Buckets -/

namespace Rate

variable (rate : Rate) (m : Monitor)

theorem perform_attempt (now : Nat) :
    (m.perform (rate.attempt now)).1 = some ((rate.bucket m).allow now).1 ∧
      rate.bucket (m.perform (rate.attempt now)).2 = ((rate.bucket m).allow now).2 := by
  cases rate <;> exact ⟨rfl, rfl⟩

theorem bucket_check (kind : Breach) (value limit : Nat) :
    rate.bucket (m.check kind value limit).2 = rate.bucket m := by
  obtain ⟨latch, exceeded, heq⟩ := m.exists_check_eq kind value limit
  rw [heq]
  cases rate <;> rfl

theorem bucket_setLimits (new : Limits) (now : Nat) :
    rate.bucket (m.setLimits new now) =
      if rate.perSecond m.limits = rate.perSecond new then rate.bucket m else .full (rate.perSecond new) now := by
  cases rate <;> rfl

theorem bucket_reset (now : Nat) : rate.bucket (m.reset now) = .full (rate.bucket m).rate now := by
  cases rate <;> rfl

end Rate

end PluginSandbox.Monitor

namespace PluginSandbox.Bucket

structure Keeps (b : Bucket) (rate : UInt32) : Prop where
  rate_eq : b.rate = rate
  level_le : b.level ≤ rate.toNat * billion

theorem keeps_full (rate : UInt32) (now : Nat) : (full rate now).Keeps rate :=
  ⟨rfl, level_full_le rate now⟩

theorem Keeps.allow {b : Bucket} {rate : UInt32} (h : b.Keeps rate) (now : Nat) : (b.allow now).2.Keeps rate := by
  obtain ⟨rfl, hlevel⟩ := h
  exact ⟨rate_allow b now, level_allow_le hlevel now⟩

theorem Keeps.allow_iff {b : Bucket} {rate : UInt32} (h : b.Keeps rate) (now : Nat) :
    (b.allow now).1 = true ↔
      rate = 0 ∨ billion ≤ min (rate.toNat * billion) (b.level + (now - b.refilledAt) * rate.toNat) := by
  obtain ⟨rfl, -⟩ := h
  by_cases hrate : b.rate = 0
  · rw [allow_unlimited hrate]
    exact iff_of_true rfl (.inl hrate)
  · rw [allow_iff_token hrate]
    exact (or_iff_right hrate).symm

end PluginSandbox.Bucket

namespace PluginSandbox.Monitor

/-! ## The copies -/

structure Mirrors (m : Monitor) (l : Limits) : Prop where
  limits : m.limits = l
  ceilings : m.ceilings = l.ceilings
  buckets : ∀ rate : Rate, (rate.bucket m).Keeps (rate.perSecond l)

theorem mirrors_start (limits : Limits) (now : Nat) : (start limits now).Mirrors limits where
  limits := rfl
  ceilings := rfl
  buckets rate := by cases rate <;> exact Bucket.keeps_full _ now

/-- A bucket goes exactly if its own rate is not the new one. -/
theorem Mirrors.bucket_setLimits {m : Monitor} {l : Limits} (h : m.Mirrors l) (new : Limits) (now : Nat) (rate : Rate) :
    rate.bucket (m.setLimits new now) =
      if (rate.bucket m).rate = rate.perSecond new then rate.bucket m else .full (rate.perSecond new) now := by
  rw [rate.bucket_setLimits, h.limits, (h.buckets rate).rate_eq]

theorem Mirrors.bucket_reset {m : Monitor} {l : Limits} (h : m.Mirrors l) (now : Nat) (rate : Rate) :
    rate.bucket (m.reset now) = .full (rate.perSecond l) now := by
  rw [rate.bucket_reset, (h.buckets rate).rate_eq]

theorem Mirrors.keeps_perform {m : Monitor} {l : Limits} (h : m.Mirrors l) (op : Op) (rate : Rate) :
    (rate.bucket (m.perform op).2).Keeps (rate.perSecond (op.limits?.getD l)) := by
  have hsame := h.buckets rate
  have hcheck (m' : Monitor) (hm' : rate.bucket m' = rate.bucket m) (kind : Breach) (value limit : Nat) :
      (rate.bucket (m'.check kind value limit).2).Keeps (rate.perSecond l) := by
    rw [rate.bucket_check, hm']
    exact hsame
  cases op with
  | addInstructions n => exact hcheck { m with instructions := m.instructions + n } (by cases rate <;> rfl) _ _ _
  | setMemory bytes => exact hcheck { m with memory := bytes } (by cases rate <;> rfl) _ _ _
  | startTask => exact hcheck { m with tasks := m.tasks + 1 } (by cases rate <;> rfl) _ _ _
  | addOutput n => exact hcheck { m with output := m.output + n } (by cases rate <;> rfl) _ _ _
  | tryFileOp now =>
    cases rate with
    | fileOps => exact hsame.allow now
    | networkRequests => exact hsame
  | tryNetworkRequest now =>
    cases rate with
    | fileOps => exact hsame
    | networkRequests => exact hsame.allow now
  | setLimits new now =>
    show (rate.bucket (m.setLimits new now)).Keeps (rate.perSecond new)
    rw [h.bucket_setLimits]
    -- Compared are the kept limits; that it is as good as the bucket's own rate is the invariant.
    split
    next heq => exact ⟨heq, (hsame.rate_eq.symm.trans heq) ▸ hsame.level_le⟩
    next => exact Bucket.keeps_full _ now
  | reset now =>
    show (rate.bucket (m.reset now)).Keeps (rate.perSecond l)
    rw [h.bucket_reset]
    exact Bucket.keeps_full _ now
  | endTask => cases rate <;> exact hsame
  | resetInstructions => cases rate <;> exact hsame
  | resetOutput => cases rate <;> exact hsame

theorem Mirrors.perform {m : Monitor} {l : Limits} (h : m.Mirrors l) (op : Op) :
    (m.perform op).2.Mirrors (op.limits?.getD l) := by
  have hlimits : (m.perform op).2.limits = op.limits?.getD l := by rw [limits_perform, h.limits]
  have hmirrored : m.Mirrored := by
    unfold Mirrored
    rw [h.limits]
    exact h.ceilings
  refine ⟨hlimits, ?_, h.keeps_perform op⟩
  rw [← hlimits]
  exact hmirrored.perform op

theorem mirrors_after_start (limits : Limits) (now : Nat) (ops : List Op) :
    ((start limits now).after ops).Mirrors (inForce limits ops) := by
  induction ops using List.reverseRecOn with
  | nil => exact mirrors_start limits now
  | append_singleton ops op ih =>
    rw [after_concat, inForce_concat]
    exact ih.perform op

/-! ## The main result -/

/-- **Live limits stay mirrored.** After any run the limits are those that were set last, every
accounting holds its count against the ceiling that they give, and an attempt passes by the tokens of
a bucket that fills at the rate that they give. New limits leave the counts and the latch, and
they leave a bucket, too, unless it has another rate; then there is a full one instead. A full
reset leaves limits and rates, and fills the buckets. -/
theorem live_limits_mirrored (limits : Limits) (t₀ : Nat) (ops : List Op) :
    let m := (start limits t₀).after ops
    let l := inForce limits ops
    m.limits = l ∧
    (∀ (kind : Breach) (n : UInt64),
      (m.perform (charge kind n)).1 = some (decide (0 < ceiling kind l ∧ ceiling kind l < m.charged kind n))) ∧
    (∀ (rate : Rate) (now : Nat),
      let b := rate.bucket m
      let perSecond := rate.perSecond l
      b.rate = perSecond ∧ b.level ≤ perSecond.toNat * billion ∧
        (m.perform (rate.attempt now)).1 = some (decide (perSecond = 0 ∨
          billion ≤ min (perSecond.toNat * billion) (b.level + (now - b.refilledAt) * perSecond.toNat))) ∧
        rate.bucket (m.perform (rate.attempt now)).2 = (b.allow now).2) ∧
    (∀ (new : Limits) (now : Nat),
      let m' := (m.perform (.setLimits new now)).2
      m'.usage = m.usage ∧ m'.latch = m.latch ∧ m'.isExceeded = m.isExceeded ∧
        ∀ rate : Rate, rate.bucket m' =
          if (rate.bucket m).rate = rate.perSecond new then rate.bucket m else .full (rate.perSecond new) now) ∧
    ∀ now : Nat,
      let m' := (m.perform (.reset now)).2
      m'.limits = l ∧ m'.ceilings = l.ceilings ∧ ∀ rate : Rate, rate.bucket m' = .full (rate.perSecond l) now := by
  intro m l
  have hmirrors : m.Mirrors l := mirrors_after_start limits t₀ ops
  refine ⟨hmirrors.limits, answer_charge hmirrors.ceilings, fun rate now => ?_, fun new now => ?_, fun now => ?_⟩
  · have hkeeps := hmirrors.buckets rate
    obtain ⟨hanswer, hbucket⟩ := rate.perform_attempt m now
    refine ⟨hkeeps.rate_eq, hkeeps.level_le, ?_, hbucket⟩
    rw [hanswer, Option.some_inj, Bool.eq_iff_iff, hkeeps.allow_iff, decide_eq_true_iff]
  · exact ⟨rfl, rfl, rfl, hmirrors.bucket_setLimits new now⟩
  · have hreset : (m.perform (.reset now)).2.Mirrors l := hmirrors.perform (.reset now)
    exact ⟨hreset.limits, hreset.ceilings, hmirrors.bucket_reset now⟩

/-- A rate is changed and changed back. The limits are those of the start, and the bucket is a new
one for all that; the other one, whose rate stayed, has what was left in it. -/
example :
    let faster : Limits := { Limits.standard with fileOpsPerSecond := 500 }
    let m := (start .standard 0).after
      [.tryFileOp 1, .tryNetworkRequest 1, .setLimits faster 2, .setLimits .standard 3]
    m.limits = .standard ∧ m.fileOps = .full 100 3 ∧ m.networkRequests = ⟨20, 19 * billion, 1⟩ := by
  decide +kernel

end PluginSandbox.Monitor
