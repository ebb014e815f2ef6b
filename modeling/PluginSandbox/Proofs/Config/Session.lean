import PluginSandbox.Proofs.Config.Writes
import PluginSandbox.Proofs.Delivery.Topics

/-!
# Sessions of a configuration store

A store lives on with its fleet: values are written, watchers come and go, and
between two operations the workers and their other clients do what they like.
A session remembers every attempt to tell a watcher of a change.
-/

namespace PluginSandbox.ConfigStore

variable {σ : Type}

/-- What can happen to a store, whoever does it. Reading changes nothing, and `between` is all that
happens to the fleet by other means. -/
inductive Op (σ : Type) where
  | set (key : String) (value : Json)
  | get (key : String)
  | watch (plugin key callback : String) (handle : Handle)
  | unwatch (id : SubscriptionId)
  | unwatchPlugin (plugin : String)
  | between (fleet : Fleet σ)

namespace Op

def write? : Op σ → Option (String × Json)
  | set key value => some (key, value)
  | _ => none

def drops (r : Registration) : Op σ → Bool
  | unwatch id => id = r.id
  | unwatchPlugin plugin => plugin = r.plugin
  | _ => false

end Op

structure Session (σ : Type) where
  store : ConfigStore
  fleet : Fleet σ
  nextId : Nat := 0
  told : List Attempt := []

namespace Session

def seeded (seeds : List (String × Json)) (fleet : Fleet σ) : Session σ :=
  { store := .ofList seeds, fleet }

/-- The watcher that registers next. No two have the same id. -/
def registration (s : Session σ) (plugin callback : String) (handle : Handle) : Registration :=
  ⟨⟨s.nextId⟩, plugin, callback, handle⟩

def step (s : Session σ) : Op σ → Session σ
  | .set key value =>
    let written := s.store.set key value s.fleet
    { s with
      store := written.2.1
      fleet := written.2.2
      told := s.told ++ s.store.tells key value s.fleet }
  | .get _ => s
  | .watch plugin key callback handle =>
    { s with
      store := s.store.watch key (s.registration plugin callback handle)
      nextId := s.nextId + 1 }
  | .unwatch id => { s with store := (s.store.unwatch id).2 }
  | .unwatchPlugin plugin => { s with store := (s.store.unwatchPlugin plugin).2 }
  | .between fleet => { s with fleet }

def after (s : Session σ) (ops : List (Op σ)) : Session σ :=
  ops.foldl step s

def watchers (s : Session σ) (key : String) : List Registration :=
  s.store.watchers.handlers key

def toldTo (s : Session σ) (r : Registration) : List Attempt :=
  s.told.filter (·.handler = r)

theorem after_concat (s : Session σ) (ops : List (Op σ)) (op : Op σ) :
    s.after (ops ++ [op]) = (s.after ops).step op := by
  unfold after
  rw [List.foldl_concat]

/-! ## Values -/

theorem get?_step (s : Session σ) (op : Op σ) (key : String) :
    (s.step op).store.get? key = (lastValue key op.write?.toList).or (s.store.get? key) := by
  cases op with
  | set k value =>
    refine (s.store.get?_set k value s.fleet key).trans ?_
    rw [Op.write?, Option.toList_some, ← List.nil_append [_], lastValue_concat]
    split
    next => rfl
    next => rfl
  | _ => rfl

theorem get?_after_seeded (seeds : List (String × Json)) (fleet : Fleet σ) (ops : List (Op σ)) (key : String) :
    ((seeded seeds fleet).after ops).store.get? key =
      (lastValue key (ops.filterMap Op.write?)).or (lastValue key seeds) := by
  induction ops using List.reverseRecOn with
  | nil => exact get?_ofList seeds key
  | append_singleton ops op ih =>
    have hop : [op].filterMap Op.write? = op.write?.toList := by
      cases h : op.write? <;> simp [h]
    rw [after_concat, get?_step, ih, List.filterMap_append, hop, lastValue_append, Option.or_assoc]

/-! ## The watchers -/

section
variable (s : Session σ)

theorem watchers_set (k : String) (value : Json) (key : String) :
    (s.step (.set k value)).watchers key = s.watchers key :=
  congrArg (·.handlers key) (s.store.watchers_set k value s.fleet)

theorem watchers_watch (plugin k callback : String) (handle : Handle) (key : String) :
    (s.step (.watch plugin k callback handle)).watchers key =
      if key = k then s.watchers key ++ [s.registration plugin callback handle] else s.watchers key :=
  s.store.watchers.handlers_insert k key _

variable {s} (h : s.store.watchers.Keyed)
include h

theorem watchers_unwatch (id : SubscriptionId) (key : String) :
    (s.step (.unwatch id)).watchers key = (s.watchers key).filter (·.id != id) :=
  Topics.handlers_keep h _ key

theorem watchers_unwatchPlugin (plugin : String) (key : String) :
    (s.step (.unwatchPlugin plugin)).watchers key = (s.watchers key).filter (·.plugin != plugin) :=
  Topics.handlers_keep h _ key

end

/-- A watcher stands once, under one key, with an id given to it alone, and nobody else was told. -/
structure Sound (s : Session σ) : Prop where
  keyed : s.store.watchers.Keyed
  nodup : ∀ key, (s.watchers key).Nodup
  apart : ∀ {key key' r}, r ∈ s.watchers key → r ∈ s.watchers key' → key = key'
  issued : ∀ {key r}, r ∈ s.watchers key → r.id.value < s.nextId
  told : ∀ a ∈ s.told, a.handler.id.value < s.nextId

theorem sound_seeded (seeds : List (String × Json)) (fleet : Fleet σ) : (seeded seeds fleet).Sound where
  keyed := Topics.keyed_empty
  nodup := fun _ => List.nodup_nil
  apart := fun h => by cases h
  issued := fun h => by cases h
  told := fun _ h => by cases h

theorem Sound.of_subset {s s' : Session σ} (h : s.Sound) (hkeyed : s'.store.watchers.Keyed)
    (hnodup : ∀ key, (s'.watchers key).Nodup) (hsub : ∀ {key r}, r ∈ s'.watchers key → r ∈ s.watchers key)
    (hnext : s'.nextId = s.nextId) (htold : s'.told = s.told) : s'.Sound where
  keyed := hkeyed
  nodup := hnodup
  apart := fun hr hr' => h.apart (hsub hr) (hsub hr')
  issued := fun hr => hnext ▸ h.issued (hsub hr)
  told := by rw [htold, hnext]; exact h.told

theorem Sound.watch {s : Session σ} (h : s.Sound) (plugin k callback : String) (handle : Handle) :
    (s.step (.watch plugin k callback handle)).Sound := by
  -- the new id lies beyond all ids of watchers
  have hnew (key : String) : s.registration plugin callback handle ∉ s.watchers key :=
    fun hr => absurd (h.issued hr) (Nat.lt_irrefl _)
  have hmem {key : String} {r : Registration}
      (hr : r ∈ (s.step (.watch plugin k callback handle)).watchers key) :
      r ∈ s.watchers key ∨ key = k ∧ r = s.registration plugin callback handle := by
    rw [watchers_watch] at hr
    split at hr
    next hk =>
      rcases List.mem_append.mp hr with hr | hr
      · exact .inl hr
      · exact .inr ⟨hk, List.mem_singleton.mp hr⟩
    next => exact .inl hr
  refine ⟨h.keyed.insert k _, ?_, ?_, ?_, ?_⟩
  · intro key
    rw [watchers_watch]
    split
    next => exact List.nodup_append.mpr ⟨h.nodup key, List.pairwise_singleton _ _, fun r hr r' hr' heq =>
        hnew key (List.mem_singleton.mp hr' ▸ heq ▸ hr)⟩
    next => exact h.nodup key
  · intro key key' r hr hr'
    rcases hmem hr with hr | ⟨hk, rfl⟩
    · rcases hmem hr' with hr' | ⟨-, rfl⟩
      · exact h.apart hr hr'
      · exact absurd hr (hnew key)
    · rcases hmem hr' with hr' | ⟨hk', -⟩
      · exact absurd hr' (hnew key')
      · exact hk.trans hk'.symm
  · intro key r hr
    rcases hmem hr with hr | ⟨-, rfl⟩
    · exact Nat.lt_succ_of_lt (h.issued hr)
    · exact Nat.lt_succ_self _
  · intro a ha
    exact Nat.lt_succ_of_lt (h.told a ha)

theorem Sound.set {s : Session σ} (h : s.Sound) (k : String) (value : Json) : (s.step (.set k value)).Sound := by
  have hw := s.watchers_set k value
  refine ⟨?_, fun key => hw key ▸ h.nodup key, ?_, ?_, ?_⟩
  · have hkeyed : (s.store.set k value s.fleet).2.1.watchers.Keyed := by
      rw [ConfigStore.watchers_set]
      exact h.keyed
    exact hkeyed
  · intro key key' r hr hr'
    exact h.apart (hw key ▸ hr) (hw key' ▸ hr')
  · intro key r hr
    exact h.issued (hw key ▸ hr)
  · intro a ha
    rcases List.mem_append.mp ha with ha | ha
    · exact h.told a ha
    · exact h.issued (handler_of_mem_tells ha)

theorem Sound.step {s : Session σ} (h : s.Sound) (op : Op σ) : (s.step op).Sound := by
  cases op with
  | set k value => exact h.set k value
  | get k => exact h
  | watch plugin k callback handle => exact h.watch plugin k callback handle
  | unwatch id =>
    refine h.of_subset (h.keyed.keep _) (fun key => ?_) (fun {key r} hr => ?_) rfl rfl
    · exact watchers_unwatch h.keyed id key ▸ (h.nodup key).filter _
    · exact List.mem_of_mem_filter (watchers_unwatch h.keyed id key ▸ hr)
  | unwatchPlugin plugin =>
    refine h.of_subset (h.keyed.keep _) (fun key => ?_) (fun {key r} hr => ?_) rfl rfl
    · exact watchers_unwatchPlugin h.keyed plugin key ▸ (h.nodup key).filter _
    · exact List.mem_of_mem_filter (watchers_unwatchPlugin h.keyed plugin key ▸ hr)
  | between fleet => exact ⟨h.keyed, h.nodup, h.apart, h.issued, h.told⟩

theorem Sound.after {s : Session σ} (h : s.Sound) (ops : List (Op σ)) : (s.after ops).Sound := by
  induction ops generalizing s with
  | nil => exact h
  | cons op ops ih => exact ih (h.step op)

end Session

end PluginSandbox.ConfigStore
