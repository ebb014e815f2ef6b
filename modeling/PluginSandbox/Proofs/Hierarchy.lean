import Mathlib.Data.List.Infix
import PluginSandbox.Capability.Registry

/-!
# The order of capabilities

Implication is the prefix order on names closed by a dot. It is a partial
order, and what implies a given capability is a chain. The registry is a
forest of depth two under this order.
-/

namespace PluginSandbox.Capability

/-- The name with a dot at its end, so that nesting is being a longer prefix. -/
def dotted (c : Capability) : List Char :=
  c.name.toList ++ ['.']

theorem dotted_injective {a b : Capability} (h : a.dotted = b.dotted) : a = b := by
  unfold dotted at h
  have hn : a.name.toList = b.name.toList := List.append_cancel_right h
  cases a; cases b
  rw [String.toList_inj] at hn
  exact congrArg Capability.mk hn

/-! ## Implication as a prefix -/

theorem isNested_iff_dotted {c p : Capability} : c.isNested p = true ↔ p.dotted <+: c.name.toList := by
  unfold isNested dotted
  exact List.isPrefixOf_iff_prefix

theorem implies_iff_dotted {a b : Capability} : a.implies b = true ↔ a.dotted <+: b.dotted := by
  unfold implies
  rw [Bool.or_eq_true, beq_iff_eq, isNested_iff_dotted]
  show _ ↔ a.dotted <+: b.name.toList ++ ['.']
  rw [List.prefix_concat_iff]
  exact or_congr_left ⟨fun h => h ▸ rfl, dotted_injective⟩

@[simp] theorem implies_refl (a : Capability) : a.implies a = true :=
  implies_iff_dotted.mpr (List.prefix_refl _)

theorem implies_trans {a b c : Capability} (hab : a.implies b = true) (hbc : b.implies c = true) :
    a.implies c = true := by
  rw [implies_iff_dotted] at hab hbc ⊢
  exact hab.trans hbc

theorem implies_antisymm {a b : Capability} (hab : a.implies b = true) (hba : b.implies a = true) :
    a = b := by
  rw [implies_iff_dotted] at hab hba
  exact dotted_injective (hab.eq_of_length_le hba.length_le)

theorem implies_or_implies {a b c : Capability} (ha : a.implies c = true) (hb : b.implies c = true) :
    a.implies b = true ∨ b.implies a = true := by
  rw [implies_iff_dotted] at ha hb
  rw [implies_iff_dotted, implies_iff_dotted]
  exact List.prefix_or_prefix_of_prefix ha hb

theorem isNested_iff {c p : Capability} : c.isNested p = true ↔ p.implies c = true ∧ c ≠ p := by
  rw [isNested_iff_dotted]
  constructor
  · intro h
    refine ⟨implies_iff_dotted.mpr (h.trans (List.prefix_append _ _)), ?_⟩
    intro he
    have := h.length_le
    rw [he, dotted, List.length_append, List.length_singleton] at this
    omega
  · intro ⟨h, hne⟩
    rw [implies_iff_dotted] at h
    rcases List.prefix_concat_iff.mp h with he | hp
    · exact absurd (dotted_injective he).symm hne
    · exact hp

theorem implies_of_isNested {c p : Capability} (h : c.isNested p = true) : p.implies c = true :=
  (isNested_iff.mp h).1

theorem eq_or_isNested_of_implies {a b : Capability} (h : a.implies b = true) :
    b = a ∨ b.isNested a = true := by
  by_cases he : b = a
  · exact Or.inl he
  · exact Or.inr (isNested_iff.mpr ⟨h, he⟩)

/-! ## The registry -/

/-- Everything registered with a parent is nested under it and is nobody's
parent, and a name nested under a parent has it as its own. -/
theorem registered_forest :
    (registered.all fun i => i.parent.all fun p =>
      i.name.isNested p && registered.all fun j =>
        j.parent != some i.name && (!j.name.isNested p || j.parent == some p)) = true := by
  decide +kernel

theorem forest_of_mem {i : Info} (hi : i ∈ registered) {p : Capability} (hp : i.parent = some p) :
    i.name.isNested p = true ∧ ∀ j ∈ registered, j.parent ≠ some i.name ∧
      (j.name.isNested p = true → j.parent = some p) := by
  have h := List.all_eq_true.mp registered_forest i hi
  rw [hp, Option.all_some, Bool.and_eq_true, List.all_eq_true] at h
  refine ⟨h.1, fun j hj => ?_⟩
  have hj' := h.2 j hj
  simp only [Bool.and_eq_true, Bool.or_eq_true, bne_iff_ne, Bool.not_eq_true', beq_iff_eq] at hj'
  refine ⟨hj'.1, fun hn => ?_⟩
  rcases hj'.2 with hf | he
  · rw [hn] at hf; cases hf
  · exact he

theorem mem_children {c d : Capability} :
    d ∈ c.children ↔ ∃ i ∈ registered, i.parent = some c ∧ i.name = d := by
  simp only [children, List.mem_map, List.mem_filter, beq_iff_eq, and_assoc]

theorem isNested_of_mem_children {c d : Capability} (h : d ∈ c.children) : d.isNested c = true := by
  obtain ⟨i, hi, hp, rfl⟩ := mem_children.mp h
  exact (forest_of_mem hi hp).1

theorem children_eq_nil_of_mem_children {c d : Capability} (h : d ∈ c.children) : d.children = [] := by
  obtain ⟨i, hi, hp, rfl⟩ := mem_children.mp h
  refine List.eq_nil_iff_forall_not_mem.mpr fun e he => ?_
  obtain ⟨j, hj, hj', _⟩ := mem_children.mp he
  exact ((forest_of_mem hi hp).2 j hj).1 hj'

theorem mem_children_of_isNested {c g : Capability} (hc : c.isRegistered = true)
    (hg : g.children ≠ []) (h : c.isNested g = true) : c ∈ g.children := by
  obtain ⟨d, hd⟩ := List.exists_mem_of_ne_nil _ hg
  obtain ⟨i, hi, hp, _⟩ := mem_children.mp hd
  obtain ⟨j, hj, hn⟩ := List.any_eq_true.mp hc
  have hn' : j.name = c := by simpa using hn
  have := ((forest_of_mem hi hp).2 j hj).2 (by rw [hn']; exact h)
  exact mem_children.mpr ⟨j, hj, this, hn'⟩

end PluginSandbox.Capability
