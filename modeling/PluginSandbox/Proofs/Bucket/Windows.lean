import Mathlib.Algebra.Order.Field.Rat
import Mathlib.Data.List.Induction
import Mathlib.Tactic.FieldSimp
import Mathlib.Tactic.Linarith
import Mathlib.Tactic.Positivity
import PluginSandbox.Bucket

/-!
# Token buckets and windows of time

A bucket keeps one level, cut off at each refill. What it answers is told by all
windows of the past at once: an operation passes exactly if, with it, no window
that ends with it has let more pass than the capacity and what came in meanwhile.
-/

namespace PluginSandbox.Bucket

/-! ## Ledgers -/

/-- An answer and the time of it. The filling of a bucket counts as one that let nothing pass. -/
structure Entry where
  time : Nat
  passed : Bool

def passages (entries : List Entry) : Nat :=
  entries.countP (·.passed)

inductive Op where
  | allow (now : Nat)
  | reset (now : Nat)

def Op.time : Op → Nat
  | allow now => now
  | reset now => now

/-- A bucket, and what it has answered since it was filled. -/
structure Ledger where
  bucket : Bucket
  entries : List Entry

namespace Ledger

def start (rate : UInt32) (now : Nat) : Ledger where
  bucket := full rate now
  entries := [⟨now, false⟩]

def step (l : Ledger) : Op → Ledger
  | .allow now =>
    { bucket := (l.bucket.allow now).2
      entries := l.entries ++ [⟨now, (l.bucket.allow now).1⟩] }
  | .reset now =>
    { bucket := l.bucket.reset now
      entries := [⟨now, false⟩] }

def after (l : Ledger) (ops : List Op) : Ledger :=
  ops.foldl step l

theorem after_concat (l : Ledger) (ops : List Op) (op : Op) : l.after (ops ++ [op]) = (l.after ops).step op :=
  List.foldl_concat ..

end Ledger

/-! ## Windows -/

theorem passages_concat (entries : List Entry) (x : Entry) :
    passages (entries ++ [x]) = passages entries + x.passed.toNat := by
  unfold passages
  rw [List.countP_append, List.countP_singleton]
  cases x.passed <;> rfl

theorem passages_refused (now : Nat) : passages [⟨now, false⟩] = 0 := rfl

theorem window_concat {entries : List Entry} {x e : Entry} {later : List Entry} (h : e :: later <:+ entries ++ [x]) :
    (e = x ∧ later = []) ∨ ∃ between, later = between ++ [x] ∧ e :: between <:+ entries := by
  rcases List.suffix_concat_iff.mp h with hnil | ⟨window, heq, hwindow⟩
  · cases hnil
  · cases window with
    | nil => exact .inl (List.cons_eq_cons.mp heq)
    | cons y between =>
      obtain ⟨rfl, hlater⟩ := List.cons_eq_cons.mp heq
      exact .inr ⟨between, hlater, hwindow⟩

theorem exists_window_exchange {entries : List Entry} {now : Nat} {a : Bool} {e : Entry} {later : List Entry}
    (h : e :: later <:+ entries ++ [⟨now, a⟩]) (b : Bool) :
    ∃ e' later', e' :: later' <:+ entries ++ [⟨now, b⟩] ∧ e'.time = e.time ∧
      passages (e' :: later') + a.toNat = passages (e :: later) + b.toNat := by
  -- the last answer ends every window that is left, so no more than its own passage changes
  rcases window_concat h with ⟨rfl, rfl⟩ | ⟨between, rfl, before, hbefore⟩
  · refine ⟨⟨now, b⟩, [], List.suffix_append entries _, rfl, ?_⟩
    cases a <;> cases b <;> rfl
  · refine ⟨e, between ++ [⟨now, b⟩], ⟨before, by rw [← hbefore]; simp⟩, rfl, ?_⟩
    rw [← List.cons_append, ← List.cons_append, passages_concat, passages_concat]
    dsimp only
    omega

/-- The most that may pass from `since` to `now`, in billionths. -/
def room (rate since now : Nat) : Nat :=
  rate * billion + (now - since) * rate

theorem room_self (rate now : Nat) : room rate now now = rate * billion := by
  simp [room]

theorem room_later (rate : Nat) {since now later : Nat} (hsince : since ≤ now) (h : now ≤ later) :
    room rate since later = room rate since now + (later - now) * rate := by
  have hsplit : later - since = (now - since) + (later - now) := by omega
  rw [room, hsplit, Nat.add_mul, ← Nat.add_assoc]
  rfl

theorem ordered_concat {entries : List Entry} {x : Entry} (h : entries.Pairwise (·.time ≤ ·.time))
    (hlast : ∀ e ∈ entries, e.time ≤ x.time) : (entries ++ [x]).Pairwise (·.time ≤ ·.time) :=
  List.pairwise_append.mpr ⟨h, List.pairwise_singleton .., fun e he _ hy => List.mem_singleton.mp hy ▸ hlast e he⟩

/-- The level is the room that is left in the window that has the least of it. -/
structure Tells (rate level now : Nat) (entries : List Entry) : Prop where
  ordered : entries.Pairwise (·.time ≤ ·.time)
  recent : ∀ e ∈ entries, e.time ≤ now
  fits : ∀ e later, e :: later <:+ entries → level + billion * passages (e :: later) ≤ room rate e.time now
  tight : ∃ e later, e :: later <:+ entries ∧ level + billion * passages (e :: later) = room rate e.time now

theorem tells_full (rate now : Nat) : Tells rate (rate * billion) now [⟨now, false⟩] := by
  have hwindow : rate * billion + billion * passages [⟨now, false⟩] = room rate now now := by
    rw [room_self, passages_refused, Nat.mul_zero, Nat.add_zero]
  refine ⟨List.pairwise_singleton .., fun e he => ?_, fun e later h => ?_, ⟨now, false⟩, [], List.suffix_rfl, hwindow⟩
  · rw [List.mem_singleton.mp he]
  · rcases List.suffix_cons_iff.mp h with heq | hnil
    · obtain ⟨rfl, rfl⟩ := List.cons_eq_cons.mp heq
      exact Nat.le_of_eq hwindow
    · cases List.suffix_nil.mp hnil

section
variable {rate level since now : Nat} {entries : List Entry}

theorem Tells.refill (h : Tells rate level since entries) (hnow : since ≤ now) :
    Tells rate (min (rate * billion) (level + (now - since) * rate)) now (entries ++ [⟨now, false⟩]) where
  ordered := ordered_concat h.ordered fun e he => Nat.le_trans (h.recent e he) hnow
  recent := by
    intro e he
    rcases List.mem_append.mp he with he | he
    · exact Nat.le_trans (h.recent e he) hnow
    · rw [List.mem_singleton.mp he]
  fits := by
    intro e later hw
    rcases window_concat hw with ⟨rfl, rfl⟩ | ⟨between, rfl, hwindow⟩
    · rw [room_self, passages_refused, Nat.mul_zero, Nat.add_zero]
      exact Nat.min_le_left _ _
    · have hfits := h.fits e between hwindow
      have hroom := room_later rate (h.recent e (hwindow.subset List.mem_cons_self)) hnow
      have hcount : passages (e :: (between ++ [⟨now, false⟩])) = passages (e :: between) := passages_concat (e :: between) _
      rw [hcount]
      omega
  tight := by
    obtain ⟨e, later, hwindow, htight⟩ := h.tight
    have hroom := room_later rate (h.recent e (hwindow.subset List.mem_cons_self)) hnow
    -- if the capacity cuts the refill, the window that opens now is the tight one
    rcases Nat.le_total (rate * billion) (level + (now - since) * rate) with hcut | hgain
    · refine ⟨⟨now, false⟩, [], List.suffix_append entries _, ?_⟩
      rw [room_self, passages_refused, Nat.mul_zero, Nat.add_zero, Nat.min_eq_left hcut]
    · obtain ⟨before, hbefore⟩ := hwindow
      refine ⟨e, later ++ [⟨now, false⟩], ⟨before, by rw [← hbefore]; simp⟩, ?_⟩
      have hcount : passages (e :: (later ++ [⟨now, false⟩])) = passages (e :: later) := passages_concat (e :: later) _
      rw [hcount, Nat.min_eq_right hgain]
      omega

theorem Tells.spend {left : Nat} (h : Tells rate (left + billion) now (entries ++ [⟨now, false⟩])) :
    Tells rate left now (entries ++ [⟨now, true⟩]) where
  ordered := ordered_concat (List.pairwise_append.mp h.ordered).1 fun e he => h.recent e (List.mem_append_left _ he)
  recent := by
    intro e he
    rcases List.mem_append.mp he with he | he
    · exact h.recent e (List.mem_append_left _ he)
    · rw [List.mem_singleton.mp he]
  fits := by
    intro e later hw
    obtain ⟨e', later', hw', htime, hcount⟩ := exists_window_exchange hw false
    have hfits := h.fits e' later' hw'
    have hone : passages (e :: later) = passages (e' :: later') + 1 := hcount.symm
    rw [htime] at hfits
    rw [hone, Nat.mul_add]
    omega
  tight := by
    obtain ⟨e, later, hw, htight⟩ := h.tight
    obtain ⟨e', later', hw', htime, hcount⟩ := exists_window_exchange hw true
    refine ⟨e', later', hw', ?_⟩
    have hone : passages (e' :: later') = passages (e :: later) + 1 := hcount
    rw [hone, Nat.mul_add, htime]
    omega

theorem Tells.token_iff (h : Tells rate level now (entries ++ [⟨now, false⟩])) :
    billion ≤ level ↔ ∀ e later, e :: later <:+ entries ++ [⟨now, true⟩] →
      billion * passages (e :: later) ≤ room rate e.time now := by
  constructor
  · intro htoken e later hw
    obtain ⟨left, rfl⟩ := Nat.exists_eq_add_of_le' htoken
    have hfits := h.spend.fits e later hw
    exact Nat.le_trans (Nat.le_add_left _ _) hfits
  · intro hall
    -- the tight window alone forces a whole token
    obtain ⟨e, later, hw, htight⟩ := h.tight
    obtain ⟨e', later', hw', htime, hcount⟩ := exists_window_exchange hw true
    have hfits := hall e' later' hw'
    have hone : passages (e' :: later') = passages (e :: later) + 1 := hcount
    rw [hone, Nat.mul_add, htime] at hfits
    omega

end

/-! ## Runs -/

theorem level_full_le (rate : UInt32) (now : Nat) : (full rate now).level ≤ rate.toNat * billion := by
  rw [full]

theorem allow_unlimited {b : Bucket} (h : b.rate = 0) (now : Nat) : b.allow now = (true, b) :=
  if_pos h

theorem allow_cases {b : Bucket} (h : b.rate ≠ 0) (now : Nat) :
    ∃ level, min (b.rate.toNat * billion) (b.level + (now - b.refilledAt) * b.rate.toNat) = level ∧
      ((∃ left, left + billion = level ∧ b.allow now = (true, ⟨b.rate, left, now⟩)) ∨
        (level < billion ∧ b.allow now = (false, ⟨b.rate, level, now⟩))) := by
  unfold allow refill capacity
  rw [if_neg h]
  -- the amounts are named, so that nothing counts down from a billion
  generalize min (b.rate.toNat * billion) (b.level + (now - b.refilledAt) * b.rate.toNat) = level
  refine ⟨level, rfl, ?_⟩
  dsimp only
  rcases Nat.lt_or_ge level billion with hshort | htoken
  · rw [if_neg (Nat.not_le_of_lt hshort)]
    exact .inr ⟨hshort, rfl⟩
  · rw [if_pos htoken]
    exact .inl ⟨level - billion, Nat.sub_add_cancel htoken, rfl⟩

theorem rate_allow (b : Bucket) (now : Nat) : (b.allow now).2.rate = b.rate := by
  by_cases hrate : b.rate = 0
  · rw [allow_unlimited hrate]
  · obtain ⟨level, -, ⟨left, -, hallow⟩ | ⟨-, hallow⟩⟩ := allow_cases hrate now <;> rw [hallow]

theorem level_allow_le {b : Bucket} (h : b.level ≤ b.rate.toNat * billion) (now : Nat) :
    (b.allow now).2.level ≤ b.rate.toNat * billion := by
  by_cases hrate : b.rate = 0
  · rwa [allow_unlimited hrate]
  · obtain ⟨level, hlevel, hcases⟩ := allow_cases hrate now
    have hcapacity : level ≤ b.rate.toNat * billion := hlevel ▸ Nat.min_le_left _ _
    rcases hcases with ⟨left, hleft, hallow⟩ | ⟨-, hallow⟩
    · rw [hallow]
      exact Nat.le_trans (Nat.le.intro hleft) hcapacity
    · rwa [hallow]

namespace Ledger

/-- The level of a bucket that limits is told by the windows since it was filled. -/
def Told (l : Ledger) : Prop :=
  Tells l.bucket.rate.toNat l.bucket.level l.bucket.refilledAt l.entries

theorem told_start (rate : UInt32) (now : Nat) : (start rate now).Told :=
  tells_full rate.toNat now

theorem told_step {l : Ledger} (h : l.Told) (hrate : l.bucket.rate ≠ 0) {op : Op}
    (hclock : l.bucket.refilledAt ≤ op.time) : (l.step op).Told ∧ (l.step op).bucket.refilledAt = op.time := by
  cases op with
  | allow now =>
    obtain ⟨level, hlevel, hcases⟩ := allow_cases hrate now
    have hrefilled := Tells.refill h (show l.bucket.refilledAt ≤ now from hclock)
    rw [hlevel] at hrefilled
    rcases hcases with ⟨left, rfl, hallow⟩ | ⟨-, hallow⟩
    · rw [step, hallow]
      exact ⟨hrefilled.spend, rfl⟩
    · rw [step, hallow]
      exact ⟨hrefilled, rfl⟩
  | reset now => exact ⟨told_start l.bucket.rate now, rfl⟩

theorem level_step_le {l : Ledger} (h : l.bucket.level ≤ l.bucket.rate.toNat * billion) (op : Op) :
    (l.step op).bucket.level ≤ l.bucket.rate.toNat * billion := by
  cases op with
  | allow now => exact level_allow_le h now
  | reset now => exact level_full_le l.bucket.rate now

variable (rate : UInt32) (t₀ : Nat) (ops : List Op)

theorem rate_after : ((start rate t₀).after ops).bucket.rate = rate := by
  induction ops using List.reverseRecOn with
  | nil => rfl
  | append_singleton ops op ih =>
    rw [after_concat]
    cases op with
    | allow now => exact (rate_allow _ now).trans ih
    | reset now => exact ih

theorem level_after_le : ((start rate t₀).after ops).bucket.level ≤ rate.toNat * billion := by
  induction ops using List.reverseRecOn with
  | nil => exact level_full_le rate t₀
  | append_singleton ops op ih =>
    have hstep := level_step_le (l := (start rate t₀).after ops) (by rwa [rate_after]) op
    rwa [rate_after, ← after_concat] at hstep

variable {rate t₀ ops}

theorem told_after (hrate : rate ≠ 0) (hclock : (t₀ :: ops.map Op.time).Pairwise (· ≤ ·)) :
    ((start rate t₀).after ops).Told ∧
      ((start rate t₀).after ops).bucket.refilledAt = (t₀ :: ops.map Op.time).getLast (List.cons_ne_nil _ _) := by
  induction ops using List.reverseRecOn with
  | nil => exact ⟨told_start rate t₀, rfl⟩
  | append_singleton ops op ih =>
    simp only [List.map_append, List.map_cons, List.map_nil, ← List.cons_append, List.getLast_concat] at hclock ⊢
    obtain ⟨hbefore, -, hlast⟩ := List.pairwise_append.mp hclock
    obtain ⟨htold, htime⟩ := ih hbefore
    rw [after_concat]
    refine told_step htold ((rate_after rate t₀ ops).symm ▸ hrate) ?_
    rw [htime]
    exact hlast _ (List.getLast_mem _) _ (List.mem_singleton_self _)

end Ledger

/-! ## Exact amounts -/

def seconds (ns : Nat) : ℚ :=
  ns / billion

def tokens (b : Bucket) : ℚ :=
  b.level / billion

/-- What may pass in a window of the length: the capacity, and what comes in meanwhile. -/
def allowance (rate : UInt32) (length : ℚ) : ℚ :=
  rate.toNat + rate.toNat * length

theorem billion_pos : (0 : ℚ) < billion := by
  exact_mod_cast (by decide : 0 < billion)

theorem room_eq (rate : UInt32) {since now : Nat} (h : since ≤ now) :
    (room rate.toNat since now : ℚ) = billion * allowance rate (seconds now - seconds since) := by
  have hb := billion_pos.ne'
  unfold room allowance seconds
  push_cast [Nat.cast_sub h]
  field_simp

theorem le_room_iff (rate : UInt32) {since now : Nat} (h : since ≤ now) (n : Nat) :
    billion * n ≤ room rate.toNat since now ↔ (n : ℚ) ≤ allowance rate (seconds now - seconds since) := by
  rw [← Nat.cast_le (α := ℚ), room_eq rate h, Nat.cast_mul]
  exact mul_le_mul_iff_right₀ billion_pos

theorem seconds_le {a b : Nat} (h : a ≤ b) : seconds a ≤ seconds b :=
  div_le_div_of_nonneg_right (Nat.cast_le.mpr h) billion_pos.le

theorem allowance_nonneg (rate : UInt32) {length : ℚ} (h : 0 ≤ length) : 0 ≤ allowance rate length := by
  unfold allowance
  positivity

theorem allowance_mono (rate : UInt32) {a b : ℚ} (h : a ≤ b) : allowance rate a ≤ allowance rate b := by
  unfold allowance
  gcongr

/-! ## Windows anywhere -/

def Entry.within (opens length : ℚ) (e : Entry) : Bool :=
  opens ≤ seconds e.time ∧ seconds e.time ≤ opens + length

theorem Entry.within_iff {opens length : ℚ} {e : Entry} :
    e.within opens length = true ↔ opens ≤ seconds e.time ∧ seconds e.time ≤ opens + length :=
  decide_eq_true_iff

theorem passages_sublist {part whole : List Entry} (h : List.Sublist part whole) : passages part ≤ passages whole :=
  h.countP_le

theorem exists_window (p : Entry → Bool) (entries : List Entry) :
    passages (entries.filter p) = 0 ∨
      ∃ e later, e :: later <:+ entries ∧ p e = true ∧ passages (entries.filter p) ≤ passages (e :: later) := by
  induction entries with
  | nil => exact .inl rfl
  | cons x entries ih =>
    by_cases hx : p x = true
    · exact .inr ⟨x, entries, List.suffix_rfl, hx, passages_sublist List.filter_sublist⟩
    · rw [List.filter_cons_of_neg hx]
      refine ih.imp_right fun ⟨e, later, hwindow, he, hle⟩ => ?_
      exact ⟨e, later, hwindow.trans (List.suffix_cons x entries), he, hle⟩

/-- No window lets more pass than the capacity and what comes in while it lasts. -/
def Bounded (rate : UInt32) (entries : List Entry) : Prop :=
  ∀ opens length : ℚ, 0 ≤ length →
    (passages (entries.filter (·.within opens length)) : ℚ) ≤ allowance rate length

theorem bounded_start (rate : UInt32) (now : Nat) : Bounded rate [⟨now, false⟩] := by
  intro opens length hlength
  have hnone : passages ([⟨now, false⟩].filter (Entry.within opens length)) = 0 :=
    Nat.le_zero.mp (passages_sublist List.filter_sublist)
  rw [hnone, Nat.cast_zero]
  exact allowance_nonneg rate hlength

theorem bounded_concat {rate : UInt32} {entries : List Entry} {x : Entry} (h : Bounded rate entries)
    (hlast : ∀ e later, e :: later <:+ entries ++ [x] →
      (passages (e :: later) : ℚ) ≤ allowance rate (seconds x.time - seconds e.time)) :
    Bounded rate (entries ++ [x]) := by
  intro opens length hlength
  -- a window that has closed before `x` was there already
  by_cases hopen : seconds x.time ≤ opens + length
  · rcases exists_window (Entry.within opens length) (entries ++ [x]) with hnone | ⟨e, later, hwindow, he, hle⟩
    · rw [hnone, Nat.cast_zero]
      exact allowance_nonneg rate hlength
    · have hopens := (Entry.within_iff.mp he).1
      calc (passages ((entries ++ [x]).filter (Entry.within opens length)) : ℚ)
          ≤ passages (e :: later) := Nat.cast_le.mpr hle
        _ ≤ allowance rate (seconds x.time - seconds e.time) := hlast e later hwindow
        _ ≤ allowance rate length := allowance_mono rate (by linarith)
  · have hout : ¬ x.within opens length = true := fun hx => hopen (Entry.within_iff.mp hx).2
    rw [List.filter_append, List.filter_cons_of_neg hout, List.filter_nil, List.append_nil]
    exact h opens length hlength

section
variable {entries : List Entry} {x e : Entry} {later : List Entry}
  (hordered : (entries ++ [x]).Pairwise (·.time ≤ ·.time)) (h : e :: later <:+ entries ++ [x])
include hordered

theorem time_le_last {y : Entry} (hy : y ∈ entries ++ [x]) : y.time ≤ x.time := by
  rcases List.mem_append.mp hy with hy | hy
  · exact (List.pairwise_append.mp hordered).2.2 y hy x (List.mem_singleton_self x)
  · rw [List.mem_singleton.mp hy]

include h

theorem time_le_of_window : e.time ≤ x.time :=
  time_le_last hordered (h.subset List.mem_cons_self)

theorem passages_within :
    passages (e :: later) ≤
      passages ((entries ++ [x]).filter (Entry.within (seconds e.time) (seconds x.time - seconds e.time))) := by
  have hfirst : ∀ y ∈ e :: later, e.time ≤ y.time := by
    intro y hy
    rcases List.mem_cons.mp hy with rfl | hy
    · exact Nat.le_refl y.time
    · exact (List.pairwise_cons.mp (hordered.sublist h.sublist)).1 y hy
  have hall : (e :: later).filter (Entry.within (seconds e.time) (seconds x.time - seconds e.time)) = e :: later := by
    refine List.filter_eq_self.mpr fun y hy => Entry.within_iff.mpr ⟨seconds_le (hfirst y hy), ?_⟩
    have hlast := seconds_le (time_le_last hordered (h.subset hy))
    linarith
  rw [← hall]
  exact passages_sublist (h.sublist.filter _)

end

namespace Ledger

variable {rate : UInt32} {t₀ : Nat} {ops : List Op}

theorem passages_le {l : Ledger} (h : l.Told) {e : Entry} {later : List Entry} (hwindow : e :: later <:+ l.entries) :
    (passages (e :: later) : ℚ) ≤ allowance l.bucket.rate (seconds l.bucket.refilledAt - seconds e.time) :=
  (le_room_iff _ (h.recent e (hwindow.subset List.mem_cons_self)) _).mp
    (Nat.le_trans (Nat.le_add_left _ _) (h.fits e later hwindow))

theorem bounded_after (hrate : rate ≠ 0) (hclock : (t₀ :: ops.map Op.time).Pairwise (· ≤ ·)) :
    Bounded rate ((start rate t₀).after ops).entries := by
  induction ops using List.reverseRecOn with
  | nil => exact bounded_start rate t₀
  | append_singleton ops op ih =>
    obtain ⟨htold, htime⟩ := told_after hrate hclock
    have hlimit := rate_after rate t₀ (ops ++ [op])
    simp only [List.map_append, List.map_cons, List.map_nil, ← List.cons_append, List.getLast_concat] at hclock htime
    rw [after_concat] at htold htime hlimit ⊢
    cases op with
    | reset now => exact bounded_start rate now
    | allow now =>
      refine bounded_concat (ih (List.pairwise_append.mp hclock).1) fun e later hwindow => ?_
      have hle := passages_le htold hwindow
      rwa [hlimit, htime] at hle

end Ledger

theorem allow_iff_token {b : Bucket} (h : b.rate ≠ 0) (now : Nat) :
    (b.allow now).1 = true ↔
      billion ≤ min (b.rate.toNat * billion) (b.level + (now - b.refilledAt) * b.rate.toNat) := by
  obtain ⟨level, hlevel, ⟨left, hleft, hallow⟩ | ⟨hshort, hallow⟩⟩ := allow_cases h now
  · rw [hlevel, hallow]
    exact iff_of_true rfl (Nat.le.intro (Nat.add_comm .. ▸ hleft))
  · rw [hlevel, hallow]
    exact iff_of_false Bool.false_ne_true (Nat.not_le_of_lt hshort)

def Ledger.passing (l : Ledger) (now : Nat) : List Entry :=
  l.entries ++ [⟨now, true⟩]

section
variable {l : Ledger} (h : l.Told) (hrate : l.bucket.rate ≠ 0) {now : Nat} (hnow : l.bucket.refilledAt ≤ now)
include h hrate hnow

theorem allow_iff_windows :
    (l.bucket.allow now).1 = true ↔ ∀ e later, e :: later <:+ l.passing now →
      (passages (e :: later) : ℚ) ≤ allowance l.bucket.rate (seconds now - seconds e.time) := by
  have hrecent : ∀ e later, e :: later <:+ l.passing now → e.time ≤ now := by
    intro e later hwindow
    rcases List.mem_append.mp (hwindow.subset List.mem_cons_self) with he | he
    · exact Nat.le_trans (h.recent e he) hnow
    · rw [List.mem_singleton.mp he]
  rw [allow_iff_token hrate, (h.refill hnow).token_iff]
  refine forall₂_congr fun e later => forall_congr' fun hwindow => ?_
  exact le_room_iff l.bucket.rate (hrecent e later hwindow) _

theorem exists_overfull (hrefused : (l.bucket.allow now).1 = false) :
    ∃ length : ℚ, 0 ≤ length ∧ allowance l.bucket.rate length <
      passages ((l.passing now).filter (Entry.within (seconds now - length) length)) := by
  have hsome := mt (allow_iff_windows h hrate hnow).mpr (ne_true_of_eq_false hrefused)
  push Not at hsome
  obtain ⟨e, later, hwindow, hover⟩ := hsome
  -- the window from `e` until now would get too full, and all that is in it lies within that time
  have hordered : (l.passing now).Pairwise (·.time ≤ ·.time) :=
    ordered_concat h.ordered fun y hy => Nat.le_trans (h.recent y hy) hnow
  have hfirst : e.time ≤ now := time_le_of_window (x := ⟨now, true⟩) hordered hwindow
  have hcount : passages (e :: later) ≤
      passages ((l.passing now).filter (Entry.within (seconds e.time) (seconds now - seconds e.time))) :=
    passages_within (x := ⟨now, true⟩) hordered hwindow
  refine ⟨seconds now - seconds e.time, sub_nonneg.mpr (seconds_le hfirst), ?_⟩
  rw [sub_sub_cancel]
  exact hover.trans_le (Nat.cast_le.mpr hcount)

end

/-- An operation passes exactly if every window that ends with it has room for it, so that the
windows bound what passes and are the only cause of a refusal. -/
theorem exactly_what_windows_allow (rate : UInt32) (t₀ : Nat) (ops : List Op) (now : Nat)
    (hclock : ((t₀ :: ops.map Op.time) ++ [now]).Pairwise (· ≤ ·)) :
    let l := (Ledger.start rate t₀).after ops
    let answer := (l.bucket.allow now).1
    (answer = true ↔ rate = 0 ∨ ∀ e later, e :: later <:+ l.passing now →
        (passages (e :: later) : ℚ) ≤ allowance rate (seconds now - seconds e.time)) ∧
      (answer = false → ∃ length : ℚ, 0 ≤ length ∧ allowance rate length <
        passages ((l.passing now).filter (Entry.within (seconds now - length) length))) ∧
      (rate ≠ 0 → Bounded rate l.entries) ∧
      0 ≤ l.bucket.tokens ∧ l.bucket.tokens ≤ rate.toNat := by
  intro l answer
  have hlimit : l.bucket.rate = rate := Ledger.rate_after rate t₀ ops
  obtain ⟨hbefore, -, hlast⟩ := List.pairwise_append.mp hclock
  have htokens : 0 ≤ l.bucket.tokens ∧ l.bucket.tokens ≤ rate.toNat := by
    unfold tokens
    refine ⟨by positivity, (div_le_iff₀ billion_pos).mpr ?_⟩
    exact_mod_cast Ledger.level_after_le rate t₀ ops
  by_cases hrate : rate = 0
  · have hpass : answer = true := congrArg Prod.fst (allow_unlimited (hlimit.trans hrate) now)
    exact ⟨iff_of_true hpass (.inl hrate), fun h => absurd (h.symm.trans hpass) Bool.false_ne_true,
      fun h => absurd hrate h, htokens⟩
  · obtain ⟨htold, htime⟩ := Ledger.told_after hrate hbefore
    have hlimits : l.bucket.rate ≠ 0 := hlimit ▸ hrate
    have hnow : l.bucket.refilledAt ≤ now :=
      htime ▸ hlast _ (List.getLast_mem _) now (List.mem_singleton_self now)
    have hwindows := allow_iff_windows htold hlimits hnow
    have hrefused := exists_overfull htold hlimits hnow
    rw [hlimit] at hwindows hrefused
    exact ⟨hwindows.trans (or_iff_right hrate).symm, hrefused, fun _ => Ledger.bounded_after hrate hbefore, htokens⟩

/-- Two pass at once and a third after half a second. What comes a tenth of a second later is one too
many for the window from the start. -/
theorem exactly_what_windows_allow_two :
    let ops : List Op := [.allow 0, .allow 0, .allow 100000000, .allow 500000000]
    let l := (Ledger.start 2 0).after ops
    ((0 :: ops.map Op.time) ++ [600000000]).Pairwise (· ≤ ·) ∧
      l.entries.map (·.passed) = [false, true, true, false, true] ∧
      (l.bucket.allow 600000000).1 = false ∧
      (∃ length : ℚ, 0 ≤ length ∧ allowance 2 length <
        passages ((l.passing 600000000).filter (Entry.within (seconds 600000000 - length) length))) ∧
      Bounded 2 l.entries := by
  intro ops l
  have hclock : ((0 :: ops.map Op.time) ++ [600000000]).Pairwise (· ≤ ·) := by decide
  obtain ⟨-, hrefused, hbounded, -⟩ := exactly_what_windows_allow 2 0 ops 600000000 hclock
  have hanswer : (l.bucket.allow 600000000).1 = false := by decide +kernel
  exact ⟨hclock, by decide +kernel, hanswer, hrefused hanswer, hbounded (by decide)⟩

end PluginSandbox.Bucket
