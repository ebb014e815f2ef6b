import PluginSandbox.Proofs.Lookup
import PluginSandbox.Delivery

/-!
# The handlers of a topic

What adding a handler and keeping some of them does to the handlers of each
topic, as long as each topic stands once.
-/

namespace PluginSandbox.Topics

variable (ts : Topics) (topic other : String) (r : Registration)

def Keyed : Prop :=
  (ts.buckets.map (·.1)).Nodup

theorem keyed_empty : ({} : Topics).Keyed :=
  List.nodup_nil

theorem mem_buckets_iff {ts : Topics} (h : ts.Keyed) {topic : String} {rs : List Registration} :
    (topic, rs) ∈ ts.buckets ↔ ts.buckets.lookup topic = some rs :=
  (lookup_eq_some_iff_mem h).symm

/-! ## Adding a handler -/

theorem handlers_insert :
    (ts.insert topic r).handlers other =
      if other = topic then ts.handlers other ++ [r] else ts.handlers other := by
  obtain ⟨buckets⟩ := ts
  unfold insert handlers
  dsimp only
  induction buckets with
  | nil =>
    unfold insertInto
    by_cases ho : other = topic
    · rw [if_pos ho, ho, List.lookup_cons_self]
      rfl
    · rw [if_neg ho, lookup_cons_of_ne ho]
  | cons bucket rest ih =>
    obtain ⟨t, rs⟩ := bucket
    unfold insertInto
    by_cases ht : t = topic
    · rw [if_pos ht, ← ht]
      by_cases ho : other = t
      · rw [if_pos ho, ho, List.lookup_cons_self, List.lookup_cons_self]
        rfl
      · rw [if_neg ho, lookup_cons_of_ne ho, lookup_cons_of_ne ho]
    · rw [if_neg ht]
      by_cases ho : other = t
      · rw [if_neg (ho ▸ ht), ho, List.lookup_cons_self, List.lookup_cons_self]
      · rw [lookup_cons_of_ne ho, lookup_cons_of_ne ho, ih]

theorem mem_keys_insertInto (buckets : List (String × List Registration)) :
    other ∈ (insertInto topic r buckets).map (·.1) ↔ other ∈ buckets.map (·.1) ∨ other = topic := by
  induction buckets with
  | nil => simp [insertInto]
  | cons bucket rest ih =>
    obtain ⟨t, rs⟩ := bucket
    unfold insertInto
    by_cases ht : t = topic
    · rw [if_pos ht]
      simp only [List.map_cons, List.mem_cons, ht]
      exact (or_iff_left_of_imp fun h => .inl h).symm
    · rw [if_neg ht, List.map_cons, List.mem_cons, ih, List.map_cons, List.mem_cons, or_assoc]

variable {ts}

theorem Keyed.insert (h : ts.Keyed) : (ts.insert topic r).Keyed := by
  obtain ⟨buckets⟩ := ts
  unfold Keyed Topics.insert at *
  dsimp only at *
  induction buckets with
  | nil => exact List.pairwise_singleton _ _
  | cons bucket rest ih =>
    obtain ⟨t, rs⟩ := bucket
    rw [List.map_cons, List.nodup_cons] at h
    unfold insertInto
    by_cases ht : t = topic
    · rw [if_pos ht]
      exact List.nodup_cons.mpr h
    · rw [if_neg ht, List.map_cons, List.nodup_cons, mem_keys_insertInto]
      exact ⟨not_or.mpr ⟨h.1, ht⟩, ih h.2⟩

/-! ## Keeping some handlers -/

theorem Keyed.keep (h : ts.Keyed) (p : Registration → Bool) : (ts.keep p).Keyed := by
  unfold Keyed Topics.keep
  refine List.Nodup.sublist (List.filter_sublist.map _) ?_
  rw [List.map_map]
  exact h

theorem handlers_keep (h : ts.Keyed) (p : Registration → Bool) (topic : String) :
    (ts.keep p).handlers topic = (ts.handlers topic).filter p := by
  obtain ⟨buckets⟩ := ts
  unfold Keyed at h
  unfold handlers keep
  dsimp only at *
  induction buckets with
  | nil => rfl
  | cons bucket rest ih =>
    obtain ⟨t, rs⟩ := bucket
    rw [List.map_cons, List.nodup_cons] at h
    rw [List.map_cons, List.filter_cons]
    by_cases ht : topic = t
    · -- A topic without handlers is dropped, and then none of the others is this one.
      subst ht
      have hrest : rest.lookup topic = none := lookup_of_not_mem_keys h.1
      have hkept := ih h.2
      rw [hrest] at hkept
      rw [List.lookup_cons_self]
      split
      next => rw [List.lookup_cons_self]; rfl
      next hempty =>
        have hnil : rs.filter p = [] := by simpa using hempty
        rw [hkept, Option.getD_some, hnil]
        rfl
    · rw [lookup_cons_of_ne ht, ← ih h.2]
      split
      next => rw [lookup_cons_of_ne ht]
      next => rfl

/-! ## All handlers -/

theorem mem_all_insert {r' : Registration} : r' ∈ (ts.insert topic r).all ↔ r' ∈ ts.all ∨ r' = r := by
  obtain ⟨buckets⟩ := ts
  unfold all Topics.insert
  dsimp only
  induction buckets with
  | nil => simp [insertInto]
  | cons bucket rest ih =>
    obtain ⟨t, rs⟩ := bucket
    unfold insertInto
    by_cases ht : t = topic
    · simp only [if_pos ht, List.flatMap_cons, List.mem_append, List.mem_singleton]
      exact or_right_comm
    · simp only [if_neg ht, List.flatMap_cons, List.mem_append, ih, or_assoc]

theorem all_keep (ts : Topics) (p : Registration → Bool) : (ts.keep p).all = ts.all.filter p := by
  obtain ⟨buckets⟩ := ts
  unfold all keep
  dsimp only
  induction buckets with
  | nil => rfl
  | cons bucket rest ih =>
    obtain ⟨t, rs⟩ := bucket
    rw [List.map_cons, List.filter_cons, List.flatMap_cons, List.filter_append, ← ih]
    by_cases hempty : rs.filter p = []
    · simp [hempty]
    · simp [hempty]

theorem mem_all_of_keep {p : Registration → Bool} {r : Registration} (h : r ∈ (ts.keep p).all) : r ∈ ts.all := by
  rw [all_keep] at h
  exact List.mem_of_mem_filter h

theorem mem_all_of_handlers {r : Registration} (h : r ∈ ts.handlers topic) : r ∈ ts.all := by
  unfold handlers at h
  cases hl : ts.buckets.lookup topic with
  | none => rw [hl] at h; cases h
  | some rs =>
    rw [hl] at h
    exact List.mem_flatMap.mpr ⟨_, mem_of_lookup hl, h⟩

end PluginSandbox.Topics
