import PluginSandbox.Proofs.Checker.History
import PluginSandbox.Proofs.Hierarchy

/-!
# What is held after a history

A capability is held after a run of operations by the grants that stand: those
made since the last reset and not taken back by name afterwards. A denial since
the last reset overrides them all, whatever comes before or after it.
-/

namespace PluginSandbox.Checker

namespace Op

def grants : Op → List Capability
  | .grant c => [c]
  | .grantAll cs => cs
  | .apply s => s.capabilities
  | _ => []

def denials : Op → List Capability
  | .deny c => [c]
  | .apply s => s.deniedCapabilities
  | _ => []

end Op

/-- Since the last reset `g` was granted, with no later revoke of exactly `g`. -/
def Stands (ops : List Op) (g : Capability) : Prop :=
  ∃ before op after, sinceReset ops = before ++ op :: after ∧ g ∈ op.grants ∧ Op.revoke g ∉ after

/-! ## Grants -/

theorem not_stands_nil {ops : List Op} (h : sinceReset ops = []) (g : Capability) : ¬ Stands ops g := by
  rintro ⟨before, op, after, hops, -⟩
  rw [h] at hops
  exact absurd hops.symm (by simp)

theorem stands_concat (ops : List Op) {op : Op} (h : op.isReset = false) (g : Capability) :
    Stands (ops ++ [op]) g ↔ g ∈ op.grants ∨ Stands ops g ∧ op ≠ .revoke g := by
  unfold Stands
  rw [sinceReset_concat ops h]
  constructor
  · rintro ⟨before, o, after, hops, hg, hafter⟩
    rcases List.eq_nil_or_concat after with rfl | ⟨after, last, rfl⟩
    · obtain ⟨-, hlast⟩ := List.append_inj' hops rfl
      cases hlast
      exact .inl hg
    · rw [List.concat_eq_append, ← List.cons_append, ← List.append_assoc] at hops
      obtain ⟨hbefore, hlast⟩ := List.append_inj' hops rfl
      cases hlast
      rw [List.concat_eq_append, List.mem_append, not_or, List.mem_singleton] at hafter
      exact .inr ⟨⟨before, o, after, hbefore, hg, hafter.1⟩, Ne.symm hafter.2⟩
  · rintro (hg | ⟨⟨before, o, after, hops, hg, hafter⟩, hne⟩)
    · exact ⟨_, op, [], rfl, hg, List.not_mem_nil⟩
    · refine ⟨before, o, after ++ [op], by rw [hops, List.append_assoc, List.cons_append], hg, ?_⟩
      rw [List.mem_append, not_or, List.mem_singleton]
      exact ⟨hafter, Ne.symm hne⟩

theorem mem_granted_step {cwd : Option String} {k : Checker} {op : Op} (h : op.isReset = false)
    (g : Capability) : g ∈ (step cwd k op).granted ↔ g ∈ op.grants ∨ g ∈ k.granted ∧ op ≠ .revoke g := by
  cases op with
  | grant c => simp [step, grant, Capability.mem_addTo, Op.grants, or_comm, @eq_comm _ c g]
  | grantAll cs => simp [step, grantAll_eq, Capability.mem_foldl_addTo, Op.grants, or_comm]
  | revoke c => simp [step, revoke, Op.grants, @eq_comm _ c g]
  | apply s => simp [step, apply_eq, Capability.mem_foldl_addTo, Op.grants, or_comm]
  | reset => cases h
  | _ => simp [step, deny, allowPath, blockPath, setWorkspace, allowHost, blockHost, Op.grants]

theorem mem_granted_run (cwd : Option String) (ops : List Op) (g : Capability) :
    g ∈ (run cwd ops).granted ↔ Stands ops g := by
  induction ops using List.reverseRecOn with
  | nil => exact iff_of_false List.not_mem_nil (not_stands_nil rfl g)
  | append_singleton ops op ih =>
    rw [run_concat]
    cases h : op.isReset with
    | true =>
      rw [eq_reset_of_isReset h]
      exact iff_of_false List.not_mem_nil (not_stands_nil (sinceReset_concat_reset ops) g)
    | false => rw [mem_granted_step h, ih, stands_concat ops h]

/-! ## Denials -/

theorem mem_denied_run (cwd : Option String) (ops : List Op) (d : Capability) :
    d ∈ (run cwd ops).denied ↔ d ∈ given Op.denials ops := by
  have himages : d ∈ (run cwd ops).denied ↔ ∃ c ∈ given Op.denials ops, id c = d := by
    refine mem_run_iff denied rfl (fun k op h x => ?_) ops d
    cases op with
    | deny c => simp [step, deny, Capability.mem_addTo, Op.denials]
    | apply s => simp [step, apply_eq, Capability.mem_foldl_addTo, Op.denials]
    | grantAll cs => simp [step, grantAll_eq, Op.denials]
    | reset => cases h
    | _ => simp [step, grant, revoke, allowPath, blockPath, setWorkspace, allowHost, blockHost, Op.denials]
  rw [himages]
  simp only [id, exists_eq_right]

theorem mem_given_append {α : Type} {part : Op → List α} {a : α} (ops : List Op) {op : Op} {later : List Op}
    (hreset : op.isReset = false) (hlater : ∀ o ∈ later, o.isReset = false) (ha : a ∈ part op) :
    a ∈ given part (ops ++ op :: later) := by
  induction later using List.reverseRecOn with
  | nil =>
    rw [given_concat part ops hreset]
    exact List.mem_append_right _ ha
  | append_singleton later o ih =>
    rw [List.forall_mem_append] at hlater
    rw [← List.cons_append, ← List.append_assoc, given_concat part _ (hlater.2 o (List.mem_singleton_self o))]
    exact List.mem_append_left _ (ih hlater.1)

theorem isReset_of_mem_denials {op : Op} {d : Capability} (h : d ∈ op.denials) : op.isReset = false := by
  cases op with
  | reset => cases h
  | _ => rfl

/-! ## What is held -/

theorem has_run_iff (cwd : Option String) (ops : List Op) (c : Capability) :
    (run cwd ops).has c = true ↔
      (∃ g, Stands ops g ∧ g.implies c = true) ∧ ¬ ∃ d ∈ given Op.denials ops, d.implies c = true := by
  rw [has_iff, and_comm]
  simp only [mem_granted_run, mem_denied_run, not_exists, not_and, Bool.not_eq_true]

theorem has_run_of_denied {cwd : Option String} {ops later : List Op} {op : Op} {c d : Capability}
    (hlater : ∀ o ∈ later, o.isReset = false) (hd : d ∈ op.denials) (h : d.implies c = true) :
    (run cwd (ops ++ op :: later)).has c = false := by
  rw [← Bool.not_eq_true, has_run_iff]
  rintro ⟨-, hnone⟩
  exact hnone ⟨d, mem_given_append ops (isReset_of_mem_denials hd) hlater hd, h⟩

theorem has_run_revoke {cwd : Option String} {ops : List Op} {c g r : Capability} (hne : g ≠ r)
    (hg : Stands ops g) (h : g.implies c = true) :
    (run cwd (ops ++ [.revoke r])).has c = (run cwd ops).has c := by
  have hstays : Stands (ops ++ [.revoke r]) g :=
    (stands_concat ops rfl g).mpr (.inr ⟨hg, fun he => hne (Op.revoke.inj he).symm⟩)
  have hdenials : given Op.denials (ops ++ [.revoke r]) = given Op.denials ops := by
    rw [given_concat Op.denials ops rfl]
    exact List.append_nil _
  rw [Bool.eq_iff_iff, has_run_iff, has_run_iff, hdenials]
  exact and_congr_left' (iff_of_true ⟨g, hstays, h⟩ ⟨g, hg, h⟩)

/-- **Capability history.** Held is what a standing grant implies and no denial since the last
reset does. A denial lasts until the next reset, for all that it implies, and a revoke takes
nothing away that another standing grant covers. -/
theorem has_run_history (cwd : Option String) (ops : List Op) (c : Capability) :
    ((run cwd ops).has c = true ↔
        (∃ g, Stands ops g ∧ g.implies c = true) ∧ ¬ ∃ d ∈ given Op.denials ops, d.implies c = true) ∧
      (∀ op : Op, ∀ d ∈ op.denials, d.implies c = true → ∀ later : List Op,
        (∀ o ∈ later, o.isReset = false) → (run cwd (ops ++ op :: later)).has c = false) ∧
      ∀ g r : Capability, g ≠ r → Stands ops g → g.implies c = true →
        (run cwd (ops ++ [.revoke r])).has c = (run cwd ops).has c :=
  ⟨has_run_iff cwd ops c, fun _ _ hd h _ hlater => has_run_of_denied hlater hd h,
    fun _ _ hne hg h => has_run_revoke hne hg h⟩

theorem has_run_history_filesystem :
    let ops : List Op := [.grant .shell, .reset,
      .apply { capabilities := [.filesystem], deniedCapabilities := [.filesystemWrite] }, .grant .filesystemRead]
    (run none ops).has .filesystemRead = true ∧ (run none ops).has .shell = false ∧
      (run none (ops ++ .deny .filesystemWrite :: [.grantAll [.filesystemWrite, ⟨"filesystem.write.log"⟩]])).has
        ⟨"filesystem.write.log"⟩ = false ∧
      (run none (ops ++ [.revoke .filesystemRead])).has .filesystemRead = true := by
  intro ops
  have hstands : Stands ops .filesystem := ⟨[], _, [.grant .filesystemRead], rfl, .head _, by simp⟩
  have himplies : Capability.filesystem.implies .filesystemRead = true := by decide
  have hread : (run none ops).has .filesystemRead = true := by
    refine (has_run_history none ops .filesystemRead).1.mpr ⟨⟨_, hstands, himplies⟩, ?_⟩
    decide
  refine ⟨hread, by decide, ?_, ?_⟩
  · refine (has_run_history none ops _).2.1 _ .filesystemWrite (.head _) (by decide) _ ?_
    simp [Op.isReset]
  · exact ((has_run_history none ops _).2.2 _ _ (by decide) hstands himplies).trans hread

end PluginSandbox.Checker
