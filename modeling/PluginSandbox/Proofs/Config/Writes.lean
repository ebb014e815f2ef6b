import Mathlib.Data.List.Induction
import Mathlib.Data.List.Nodup
import PluginSandbox.ConfigStore
import PluginSandbox.Proofs.Delivery.Attempts
import PluginSandbox.Proofs.Lookup

/-!
# What a write does

A write stores its value under its key and nowhere else. Where it changes the
value it is handed to every watcher of the key, and otherwise to nobody.
-/

namespace PluginSandbox.ConfigStore

/-! ## Values -/

theorem lookup_put (key other : String) (value : Json) (values : List (String × Json)) :
    (put key value values).lookup other = if other = key then some value else values.lookup other := by
  induction values with
  | nil => rw [put, lookup_cons]
  | cons entry rest ih =>
    obtain ⟨k, v⟩ := entry
    unfold put
    by_cases hk : k = key
    · rw [if_pos hk, ← hk, lookup_cons, lookup_cons]
      by_cases ho : other = k <;> simp [ho]
    · rw [if_neg hk, lookup_cons, lookup_cons, ih]
      by_cases ho : other = k
      · rw [if_pos ho, if_pos ho, if_neg (ho ▸ hk)]
      · rw [if_neg ho, if_neg ho]

def lastValue (key : String) (entries : List (String × Json)) : Option Json :=
  ((entries.filter (·.1 = key)).getLast?).map (·.2)

theorem lastValue_concat (key : String) (entries : List (String × Json)) (entry : String × Json) :
    lastValue key (entries ++ [entry]) = if key = entry.1 then some entry.2 else lastValue key entries := by
  unfold lastValue
  by_cases hk : entry.1 = key
  · rw [if_pos hk.symm, List.filter_append, List.filter_singleton, decide_eq_true hk]
    simp
  · rw [if_neg (Ne.symm hk), List.filter_append, List.filter_singleton, decide_eq_false hk]
    simp

theorem lastValue_append (key : String) (entries more : List (String × Json)) :
    lastValue key (entries ++ more) = (lastValue key more).or (lastValue key entries) := by
  unfold lastValue
  rw [List.filter_append, List.getLast?_append]
  cases ((more.filter (·.1 = key)).getLast?) <;> simp

theorem get?_ofList (seeds : List (String × Json)) (key : String) :
    (ofList seeds).get? key = lastValue key seeds := by
  unfold ofList get?
  dsimp only
  induction seeds using List.reverseRecOn with
  | nil => rfl
  | append_singleton seeds seed ih =>
    rw [List.foldl_concat, lookup_put, ih, lastValue_concat]

/-! ## Writes -/

section
variable {σ : Type} (c : ConfigStore) (key : String) (value : Json) (f : Fleet σ)

/-- The attempts that a write makes: one for each watcher of the key, if the value changes. -/
def tells : List Attempt :=
  if c.get? key = some value then []
  else f.attempts (change key (c.get? key) value) (c.watchers.handlers key)

variable {c key value} in
theorem set_of_eq (h : c.get? key = some value) : c.set key value f = ({}, c, f) := by
  unfold set
  dsimp only
  rw [if_pos h]

variable {c key value} in
theorem set_of_ne (h : c.get? key ≠ some value) :
    c.set key value f =
      let told := f.deliver (change key (c.get? key) value) (c.watchers.handlers key)
      (told.1, { c with values := put key value c.values }, told.2) := by
  unfold set
  dsimp only
  rw [if_neg h]

theorem watchers_set : (c.set key value f).2.1.watchers = c.watchers := by
  by_cases h : c.get? key = some value
  · rw [set_of_eq f h]
  · rw [set_of_ne f h]

theorem get?_set (other : String) :
    (c.set key value f).2.1.get? other = if other = key then some value else c.get? other := by
  by_cases h : c.get? key = some value
  · rw [set_of_eq f h]
    by_cases ho : other = key
    · rw [if_pos ho, ho]
      exact h
    · rw [if_neg ho]
  · rw [set_of_ne f h]
    exact lookup_put key other value c.values

theorem report_set : (c.set key value f).1 = .on (c.tells key value f) := by
  unfold tells
  by_cases h : c.get? key = some value
  · rw [set_of_eq f h, if_pos h]
    rfl
  · rw [set_of_ne f h, if_neg h]
    exact f.deliver_report _ _

theorem get?_fleet_set (handle : Handle) :
    (c.set key value f).2.2.get? handle =
      (f.get? handle).map (·.enqueue ((c.tells key value f).filterMap (·.message? handle))) := by
  unfold tells
  by_cases h : c.get? key = some value
  · rw [set_of_eq f h, if_pos h]
    unfold Incarnation.enqueue
    simp
  · rw [set_of_ne f h, if_neg h]
    exact f.get?_deliver _ _ handle

theorem map_handler_tells :
    (c.tells key value f).map (·.handler) =
      if c.get? key = some value then [] else c.watchers.handlers key := by
  unfold tells
  split
  next => rfl
  next => exact f.map_handler_attempts _ _

variable {c key value f} in
theorem payload_of_mem_tells {a : Attempt} (ha : a ∈ c.tells key value f) :
    a.payload = change key (c.get? key) value := by
  unfold tells at ha
  split at ha
  next => cases ha
  next => exact f.payload_of_mem_attempts _ _ ha

variable {c key value f} in
theorem handler_of_mem_tells {a : Attempt} (ha : a ∈ c.tells key value f) :
    a.handler ∈ c.watchers.handlers key := by
  have hmem : a.handler ∈ (c.tells key value f).map (·.handler) := List.mem_map_of_mem ha
  rw [map_handler_tells] at hmem
  split at hmem
  next => cases hmem
  next => exact hmem

/-! ## The attempts on one watcher -/

variable {c} in
theorem tells_filter_of_mem {r : Registration} (hr : r ∈ c.watchers.handlers key)
    (hnodup : (c.watchers.handlers key).Nodup) :
    ((c.tells key value f).filter (·.handler = r)).map (·.payload) =
      if c.get? key = some value then [] else [change key (c.get? key) value] := by
  have hpayload : ((c.tells key value f).filter (·.handler = r)).map (·.payload) =
      ((c.tells key value f).filter (·.handler = r)).map fun _ => change key (c.get? key) value :=
    List.map_congr_left fun a ha => payload_of_mem_tells (List.mem_filter.mp ha).1
  have hcount : ((c.tells key value f).filter (·.handler = r)).length =
      ((c.tells key value f).map (·.handler)).count r := by
    rw [List.count, List.countP_map, List.countP_eq_length_filter]
    rfl
  rw [hpayload, List.map_const', hcount, map_handler_tells]
  split
  next => rfl
  next => rw [List.count_eq_one_of_mem hnodup hr]; rfl

variable {c} in
theorem tells_filter_of_not_mem {r : Registration} (hr : r ∉ c.watchers.handlers key) :
    (c.tells key value f).filter (·.handler = r) = [] := by
  rw [List.filter_eq_nil_iff]
  intro a ha heq
  exact hr (of_decide_eq_true heq ▸ handler_of_mem_tells ha)

end

end PluginSandbox.ConfigStore
