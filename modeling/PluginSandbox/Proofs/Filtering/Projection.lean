import PluginSandbox.Proofs.Filtering

/-!
# Filtering twice

What is kept of a request is not narrowed again, so a filtered request passes
through the same policy unchanged. The denials it carries are those of the
request and, after them, what the policy denies below something that is kept.
-/

namespace PluginSandbox

theorem Capability.isRegistered_of_mem_children {c d : Capability} (h : d ∈ c.children) : d.isRegistered = true := by
  obtain ⟨i, hi, -, hname⟩ := mem_children.mp h
  exact List.any_eq_true.mpr ⟨i, hi, beq_iff_eq.mpr hname⟩

namespace Policy

variable {p : Policy}

/-! ## What is kept -/

theorem eq_or_mem_children_of_mem_narrow {g k : Capability} (hk : k ∈ p.narrow g) : k = g ∨ k ∈ g.children := by
  cases hg : p.denies g with
  | true =>
    rw [narrow_of_denies hg] at hk
    cases hk
  | false =>
    by_cases hkeep : p.deniesWithin g = false ∨ g.children = []
    · rw [narrow_of_keeps hg hkeep] at hk
      exact .inl (List.mem_singleton.mp hk)
    · rw [not_or, Bool.not_eq_false] at hkeep
      rw [narrow_of_splits hg hkeep.1 hkeep.2, List.mem_flatMap] at hk
      obtain ⟨d, hd, hkd⟩ := hk
      obtain ⟨-, rfl⟩ := (mem_narrow_child hd).mp hkd
      exact .inr hd

theorem narrow_of_mem_narrow {g k : Capability} (hk : k ∈ p.narrow g) : p.narrow k = [k] := by
  have hundenied := denies_eq_false_of_mem_narrow hk
  rcases eq_or_mem_children_of_mem_narrow hk with rfl | hchild
  · by_cases hkeep : p.deniesWithin k = false ∨ k.children = []
    · exact narrow_of_keeps hundenied hkeep
    · -- a capability that is split is not among its own children
      rw [not_or, Bool.not_eq_false] at hkeep
      rw [narrow_of_splits hundenied hkeep.1 hkeep.2, List.mem_flatMap] at hk
      obtain ⟨d, hd, hkd⟩ := hk
      obtain ⟨-, rfl⟩ := (mem_narrow_child hd).mp hkd
      exact absurd (Capability.children_eq_nil_of_mem_children hd) hkeep.2
  · exact narrow_of_keeps hundenied (.inr (Capability.children_eq_nil_of_mem_children hchild))

theorem nodup_narrowAll (cs : List Capability) : (p.narrowAll cs).Nodup :=
  nodup_foldl_add Capability.addTo_eq _ [] List.nodup_nil

theorem narrowAll_narrowAll (cs : List Capability) : p.narrowAll (p.narrowAll cs) = p.narrowAll cs := by
  have hkept : (p.narrowAll cs).flatMap p.narrow = p.narrowAll cs := by
    have hsingle : ∀ k ∈ p.narrowAll cs, p.narrow k = [k] := by
      intro k hk
      obtain ⟨g, -, hkg⟩ := mem_narrowAll.mp hk
      exact narrow_of_mem_narrow hkg
    rw [List.flatMap_congr hsingle, List.flatMap_singleton']
  rw [narrowAll, hkept]
  exact foldl_add_of_nodup Capability.addTo_eq _ [] (nodup_narrowAll cs)

theorem requested_of_mem_narrowAll {cs : List Capability} {k : Capability} (hk : k ∈ p.narrowAll cs) :
    k ∈ cs ∨ ∃ g ∈ cs, k.isRegistered = true ∧ k.isNested g = true := by
  obtain ⟨g, hg, hkg⟩ := mem_narrowAll.mp hk
  rcases eq_or_mem_children_of_mem_narrow hkg with rfl | hchild
  · exact .inl hg
  · exact .inr ⟨g, hg, Capability.isRegistered_of_mem_children hchild, Capability.isNested_of_mem_children hchild⟩

/-! ## What is carried -/

theorem carryDenials_eq (p : Policy) (kept requested : List Capability) :
    p.carryDenials kept requested =
      requested ++ (p.denied.filter fun d => d ∉ requested ∧ ∃ k ∈ kept, k.implies d = true).eraseDups := by
  unfold carryDenials
  rw [foldl_add_eq Capability.addTo_eq, List.filter_filter]
  refine congrArg (fun ds => requested ++ List.eraseDups ds) (List.filter_congr fun d _ => ?_)
  rw [Bool.eq_iff_iff, Bool.and_eq_true, List.any_eq_true, decide_eq_true_eq, decide_eq_true_eq]

theorem carryDenials_carryDenials (kept requested : List Capability) :
    p.carryDenials kept (p.carryDenials kept requested) = p.carryDenials kept requested := by
  have hnone : (p.denied.filter fun d =>
      d ∉ p.carryDenials kept requested ∧ ∃ k ∈ kept, k.implies d = true) = [] := by
    rw [List.filter_eq_nil_iff]
    intro d hd hnew
    obtain ⟨hnot, hk⟩ := of_decide_eq_true hnew
    exact hnot (mem_carryDenials.mpr (.inr ⟨hd, hk⟩))
  rw [carryDenials_eq p kept (p.carryDenials kept requested), hnone]
  exact List.append_nil _

/-! ## The main result -/

/-- **Filtering is a projection with a minimal remainder.** What is kept was requested or is registered
below what was, each once; what is carried are the denials of the request and then, each once and in
their order, those of the policy that are below something kept. -/
theorem filter_projects (p : Policy) (s : PermissionSet) :
    let f := p.filter s
    p.filter f = f ∧
      f.capabilities.Nodup ∧
      (∀ k ∈ f.capabilities, k ∈ s.capabilities ∨
        ∃ g ∈ s.capabilities, k.isRegistered = true ∧ k.isNested g = true) ∧
      f.deniedCapabilities = s.deniedCapabilities ++ (p.denied.filter fun d =>
        d ∉ s.deniedCapabilities ∧ ∃ k ∈ f.capabilities, k.implies d = true).eraseDups ∧
      f.allowedPaths = s.allowedPaths ∧ f.blockedPaths = s.blockedPaths ∧
      f.allowedHosts = s.allowedHosts ∧ f.blockedHosts = s.blockedHosts := by
  intro f
  have hagain : p.filter f = f := by
    unfold f filter
    simp only [narrowAll_narrowAll, carryDenials_carryDenials]
  exact ⟨hagain, nodup_narrowAll _, fun k hk => requested_of_mem_narrowAll hk, carryDenials_eq p _ _, rfl, rfl, rfl,
    rfl⟩

/-- A denial above what is requested, one beside it and one below it, which is listed twice. -/
theorem filter_projects_overlapping :
    let p : Policy := { denied := [.shell, ⟨"editor.buffer.write"⟩, .filesystemWrite, ⟨"editor.buffer.write"⟩] }
    let s : PermissionSet :=
      { capabilities := [.filesystem, .editorBuffer, .shell, .editorBuffer], deniedCapabilities := [.config] }
    let f := p.filter s
    f.capabilities = [.filesystemRead, .editorBuffer] ∧
      f.deniedCapabilities = [.config, ⟨"editor.buffer.write"⟩] ∧ p.filter f = f ∧
      ∃ g ∈ s.capabilities, Capability.filesystemRead.isNested g = true := by
  intro p s f
  obtain ⟨hagain, -, hkept, -⟩ := filter_projects p s
  refine ⟨by decide +kernel, by decide +kernel, hagain, ?_⟩
  rcases hkept .filesystemRead (by decide +kernel) with hrequested | ⟨g, hg, -, hnested⟩
  · exact absurd hrequested (by decide)
  · exact ⟨g, hg, hnested⟩

end Policy

end PluginSandbox
