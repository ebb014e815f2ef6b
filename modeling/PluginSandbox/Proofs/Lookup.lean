import Mathlib.Data.List.Nodup

/-!
# Looking up by key

Lists of keys with their values. Of the entries of one key the first one counts,
and where the keys are distinct every entry does.
-/

namespace PluginSandbox

section
variable {κ ν : Type} [BEq κ] [LawfulBEq κ] {entries : List (κ × ν)} {key : κ} {value : ν}

theorem lookup_cons_of_ne {k : κ} (h : key ≠ k) (value : ν) (entries : List (κ × ν)) :
    ((k, value) :: entries).lookup key = entries.lookup key := by
  rw [List.lookup_cons, beq_eq_false_iff_ne.mpr h]

theorem lookup_cons [DecidableEq κ] (key k : κ) (value : ν) (entries : List (κ × ν)) :
    ((k, value) :: entries).lookup key = if key = k then some value else entries.lookup key := by
  by_cases hkey : key = k
  · rw [if_pos hkey, hkey, List.lookup_cons_self]
  · rw [if_neg hkey, lookup_cons_of_ne hkey]

theorem lookup_filter_of_ne {k : κ} (h : key ≠ k) (entries : List (κ × ν)) :
    (entries.filter (·.1 != k)).lookup key = entries.lookup key := by
  induction entries with
  | nil => rfl
  | cons entry entries ih =>
    obtain ⟨k', value⟩ := entry
    rw [List.filter_cons]
    by_cases hk : k' = k
    · rw [if_neg (by simp [hk]), ih, hk, lookup_cons_of_ne h]
    · rw [if_pos (bne_iff_ne.mpr hk), List.lookup_cons, List.lookup_cons, ih]

theorem mem_of_lookup (h : entries.lookup key = some value) : (key, value) ∈ entries := by
  obtain ⟨before, later, heq, -⟩ := List.lookup_eq_some_iff.mp h
  rw [heq]
  exact List.mem_append_right _ List.mem_cons_self

theorem lookup_of_not_mem_keys (h : key ∉ entries.map (·.1)) : entries.lookup key = none := by
  rw [List.lookup_eq_none_iff]
  intro entry hentry
  exact bne_iff_ne.mpr fun heq => h (heq ▸ List.mem_map_of_mem hentry)

theorem lookup_of_unique (hmem : (key, value) ∈ entries)
    (hunique : ∀ other, (key, other) ∈ entries → other = value) : entries.lookup key = some value := by
  cases hl : entries.lookup key with
  | none =>
    have hne := List.lookup_eq_none_iff.mp hl _ hmem
    simp at hne
  | some other => rw [hunique other (mem_of_lookup hl)]

theorem lookup_eq_some_iff_mem (h : (entries.map (·.1)).Nodup) :
    entries.lookup key = some value ↔ (key, value) ∈ entries := by
  refine ⟨mem_of_lookup, fun hmem => lookup_of_unique hmem fun other hother => ?_⟩
  exact (Prod.mk.inj (List.inj_on_of_nodup_map h hother hmem rfl)).2

end

end PluginSandbox
