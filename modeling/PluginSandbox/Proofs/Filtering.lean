import PluginSandbox.Policy
import PluginSandbox.Proofs.Checker.Fields
import PluginSandbox.Proofs.Hierarchy

/-!
# What a filtered request holds

Narrowing replaces a capability above a denial by its registered children,
and a denial that stays below something kept is carried to the checker.
`has_filter_iff` says which capabilities the two together let through.
-/

namespace PluginSandbox.Policy

variable {p : Policy}

theorem denies_iff {c : Capability} : p.denies c = true ↔ ∃ d ∈ p.denied, d.implies c = true :=
  List.any_eq_true

theorem denies_eq_false_iff {c : Capability} :
    p.denies c = false ↔ ∀ d ∈ p.denied, d.implies c = false := by
  unfold denies
  rw [List.any_eq_false]
  simp only [Bool.not_eq_true]

theorem deniesWithin_eq_false_iff {c : Capability} :
    p.deniesWithin c = false ↔ ∀ d ∈ p.denied, d.isNested c = false := by
  unfold deniesWithin
  rw [List.any_eq_false]
  simp only [Bool.not_eq_true]

theorem denies_of_implies {a c : Capability} (h : a.implies c = true) (ha : p.denies a = true) :
    p.denies c = true := by
  obtain ⟨d, hd, hda⟩ := denies_iff.mp ha
  exact denies_iff.mpr ⟨d, hd, Capability.implies_trans hda h⟩

theorem denies_eq_false_of_implies {a c : Capability} (h : a.implies c = true)
    (hc : p.denies c = false) : p.denies a = false := by
  cases ha : p.denies a with
  | false => rfl
  | true => rw [denies_of_implies h ha] at hc; cases hc

/-! ## Narrowing -/

theorem narrow_eq (p : Policy) (c : Capability) :
    p.narrow c =
      if p.denies c then []
      else if !p.deniesWithin c || c.children.isEmpty then [c]
      else c.children.flatMap p.narrow := by
  have hattach : (c.children.attach.flatMap fun d => p.narrow d.1) = c.children.flatMap p.narrow := by
    rw [List.flatMap_subtype fun _ _ => rfl, List.unattach_attach]
  rw [narrow]
  simp only [hattach]

theorem narrow_of_denies {c : Capability} (h : p.denies c = true) : p.narrow c = [] := by
  rw [narrow_eq, if_pos h]

theorem narrow_of_keeps {c : Capability} (h : p.denies c = false)
    (hk : p.deniesWithin c = false ∨ c.children = []) : p.narrow c = [c] := by
  rw [narrow_eq, h]
  rcases hk with hw | he
  · simp [hw]
  · simp [he]

theorem narrow_of_splits {c : Capability} (h : p.denies c = false) (hw : p.deniesWithin c = true)
    (he : c.children ≠ []) : p.narrow c = c.children.flatMap p.narrow := by
  rw [narrow_eq, h, hw]
  simp [he]

theorem mem_narrow_child {c d k : Capability} (hd : d ∈ c.children) :
    k ∈ p.narrow d ↔ p.denies d = false ∧ k = d := by
  cases h : p.denies d with
  | true => simp [narrow_of_denies h]
  | false =>
    rw [narrow_of_keeps h (Or.inr (Capability.children_eq_nil_of_mem_children hd))]
    simp

theorem denies_eq_false_of_mem_narrow {c k : Capability} (hk : k ∈ p.narrow c) : p.denies k = false := by
  cases h : p.denies c with
  | true => rw [narrow_of_denies h] at hk; cases hk
  | false =>
    by_cases hkeep : p.deniesWithin c = false ∨ c.children = []
    · rw [narrow_of_keeps h hkeep, List.mem_singleton] at hk
      rw [hk]; exact h
    · rw [not_or, Bool.not_eq_false] at hkeep
      rw [narrow_of_splits h hkeep.1 hkeep.2, List.mem_flatMap] at hk
      obtain ⟨d, hd, hkd⟩ := hk
      obtain ⟨hdd, rfl⟩ := (mem_narrow_child hd).mp hkd
      exact hdd

/-- What is left of `g` covers an undenied `c` exactly if `g` did and was not
split, or one of the children it was split into does. -/
theorem exists_narrow_implies_iff {g c : Capability} (hc : p.denies c = false) :
    (∃ k ∈ p.narrow g, k.implies c = true) ↔
      g.implies c = true ∧
        (p.deniesWithin g = false ∨ g.children = [] ∨ ∃ d ∈ g.children, d.implies c = true) := by
  cases hg : p.denies g with
  | true =>
    rw [narrow_of_denies hg]
    constructor
    · intro ⟨_, hk, _⟩; cases hk
    · intro ⟨h, _⟩
      rw [denies_of_implies h hg] at hc; cases hc
  | false =>
    by_cases hkeep : p.deniesWithin g = false ∨ g.children = []
    · rw [narrow_of_keeps hg hkeep]
      constructor
      · intro ⟨k, hk, hkc⟩
        rw [List.mem_singleton] at hk
        subst hk
        exact ⟨hkc, or_assoc.mp (Or.inl hkeep)⟩
      · intro ⟨h, _⟩
        exact ⟨g, List.mem_singleton_self g, h⟩
    · have hsplit := hkeep
      rw [not_or, Bool.not_eq_false] at hsplit
      rw [narrow_of_splits hg hsplit.1 hsplit.2]
      constructor
      · intro ⟨k, hk, hkc⟩
        obtain ⟨d, hd, hkd⟩ := List.mem_flatMap.mp hk
        obtain ⟨_, rfl⟩ := (mem_narrow_child hd).mp hkd
        have hgk := Capability.implies_of_isNested (Capability.isNested_of_mem_children hd)
        exact ⟨Capability.implies_trans hgk hkc, Or.inr (Or.inr ⟨k, hd, hkc⟩)⟩
      · intro ⟨_, hor⟩
        rcases hor with hw | he | ⟨d, hd, hdc⟩
        · exact absurd (Or.inl hw) hkeep
        · exact absurd (Or.inr he) hkeep
        · -- a denial of the child `d` would reach `c`, so the child is kept
          have hdd := denies_eq_false_of_implies hdc hc
          exact ⟨d, List.mem_flatMap.mpr ⟨d, hd, (mem_narrow_child hd).mpr ⟨hdd, rfl⟩⟩, hdc⟩

/-! ## The filtered set -/

theorem mem_narrowAll {cs : List Capability} {k : Capability} :
    k ∈ p.narrowAll cs ↔ ∃ g ∈ cs, k ∈ p.narrow g := by
  unfold narrowAll
  rw [Capability.mem_foldl_addTo, List.mem_flatMap]
  simp only [List.not_mem_nil, false_or]

theorem mem_carryDenials {kept requested : List Capability} {d : Capability} :
    d ∈ p.carryDenials kept requested ↔
      d ∈ requested ∨ d ∈ p.denied ∧ ∃ k ∈ kept, k.implies d = true := by
  unfold carryDenials
  rw [Capability.mem_foldl_addTo, List.mem_filter, List.any_eq_true]

theorem mem_denied_filter {cwd : Option String} {s : PermissionSet} {d : Capability} :
    d ∈ (Checker.ofPermissions cwd (p.filter s)).denied ↔
      d ∈ s.deniedCapabilities ∨
        d ∈ p.denied ∧ ∃ k ∈ p.narrowAll s.capabilities, k.implies d = true := by
  rw [Checker.mem_denied_ofPermissions]
  exact mem_carryDenials

theorem mem_granted_filter {cwd : Option String} {s : PermissionSet} {k : Capability} :
    k ∈ (Checker.ofPermissions cwd (p.filter s)).granted ↔ ∃ g ∈ s.capabilities, k ∈ p.narrow g := by
  rw [Checker.mem_granted_ofPermissions]
  exact mem_narrowAll

theorem denies_eq_false_of_has {cwd : Option String} {s : PermissionSet} {c : Capability}
    (h : (Checker.ofPermissions cwd (p.filter s)).has c = true) : p.denies c = false := by
  obtain ⟨hden, k, hk, hkc⟩ := Checker.has_iff.mp h
  obtain ⟨g, hg, hkg⟩ := mem_granted_filter.mp hk
  rw [denies_eq_false_iff]
  intro d hd
  cases hdc : d.implies c with
  | false => rfl
  | true =>
    -- `d` and the grant `k` both cover `c`, so narrowing took `k` away or `d` was carried
    rcases Capability.implies_or_implies hdc hkc with hdk | hkd
    · have := denies_eq_false_iff.mp (denies_eq_false_of_mem_narrow hkg) d hd
      rw [hdk] at this; cases this
    · have hcarried : d ∈ (Checker.ofPermissions cwd (p.filter s)).denied :=
        mem_denied_filter.mpr (Or.inr ⟨hd, k, mem_narrowAll.mpr ⟨g, hg, hkg⟩, hkd⟩)
      rw [hden d hcarried] at hdc; cases hdc

theorem has_filter_iff_narrow {cwd : Option String} {s : PermissionSet} {c : Capability} :
    (Checker.ofPermissions cwd (p.filter s)).has c = true ↔
      p.denies c = false ∧ (∀ d ∈ s.deniedCapabilities, d.implies c = false) ∧
        ∃ g ∈ s.capabilities, ∃ k ∈ p.narrow g, k.implies c = true := by
  constructor
  · intro h
    obtain ⟨hden, k, hk, hkc⟩ := Checker.has_iff.mp h
    obtain ⟨g, hg, hkg⟩ := mem_granted_filter.mp hk
    exact ⟨denies_eq_false_of_has h, fun d hd => hden d (mem_denied_filter.mpr (Or.inl hd)),
      g, hg, k, hkg, hkc⟩
  · intro ⟨hp, hs, g, hg, k, hkg, hkc⟩
    refine Checker.has_iff.mpr ⟨fun d hd => ?_, k, mem_granted_filter.mpr ⟨g, hg, hkg⟩, hkc⟩
    rcases mem_denied_filter.mp hd with hd | ⟨hd, _⟩
    · exact hs d hd
    · exact denies_eq_false_iff.mp hp d hd

theorem exists_narrow_of_leaf {g c : Capability} (hr : c.isRegistered = true) (hl : c.children = [])
    (h : g.implies c = true) (hc : p.denies c = false) : ∃ k ∈ p.narrow g, k.implies c = true := by
  -- where `g` has children, a leaf under it is one of them, since the registry has two levels
  rw [exists_narrow_implies_iff hc]
  refine ⟨h, Or.inr ?_⟩
  by_cases hg : g.children = []
  · exact Or.inl hg
  · rcases Capability.eq_or_isNested_of_implies h with rfl | hn
    · exact absurd hl hg
    · exact Or.inr ⟨c, Capability.mem_children_of_isNested hr hg hn, Capability.implies_refl c⟩

/-- **What a filtered request holds.** No denial of the policy or of the
request covers `c`, and some request covers it that was not split by a denial
below it, or was split into children one of which covers it. -/
theorem has_filter_iff (cwd : Option String) (p : Policy) (s : PermissionSet) (c : Capability) :
    let k := Checker.ofPermissions cwd (p.filter s)
    (k.has c = true ↔
      (∀ d ∈ p.denied, d.implies c = false) ∧
      (∀ d ∈ s.deniedCapabilities, d.implies c = false) ∧
      ∃ g ∈ s.capabilities, g.implies c = true ∧
        ((∀ d ∈ p.denied, d.isNested g = false) ∨ g.children = [] ∨
          ∃ d ∈ g.children, d.implies c = true)) ∧
    (p.denies c = true → k.has c = false) ∧
    (k.has c = true → ∃ g ∈ s.capabilities, g.implies c = true) ∧
    (c.isRegistered = true → c.children = [] → (∃ g ∈ s.capabilities, g.implies c = true) →
      p.denies c = false → (∀ d ∈ s.deniedCapabilities, d.implies c = false) → k.has c = true) := by
  intro k
  have hiff : k.has c = true ↔ p.denies c = false ∧ (∀ d ∈ s.deniedCapabilities, d.implies c = false) ∧
      ∃ g ∈ s.capabilities, g.implies c = true ∧
        (p.deniesWithin g = false ∨ g.children = [] ∨ ∃ d ∈ g.children, d.implies c = true) := by
    rw [has_filter_iff_narrow]
    refine and_congr_right fun hp => and_congr_right fun _ => ?_
    simp only [exists_narrow_implies_iff hp]
  refine ⟨?_, ?_, ?_, ?_⟩
  · simpa only [denies_eq_false_iff, deniesWithin_eq_false_iff] using hiff
  · intro hp
    cases hk : k.has c with
    | false => rfl
    | true => rw [denies_eq_false_of_has hk] at hp; cases hp
  · intro hk
    obtain ⟨_, _, g, hg, hgc, _⟩ := hiff.mp hk
    exact ⟨g, hg, hgc⟩
  · intro hr hl ⟨g, hg, hgc⟩ hp hs
    exact has_filter_iff_narrow.mpr ⟨hp, hs, g, hg, exists_narrow_of_leaf hr hl hgc hp⟩

end PluginSandbox.Policy
