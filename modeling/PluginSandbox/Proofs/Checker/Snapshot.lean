import Mathlib.Data.List.Perm.Basic
import Mathlib.Data.String.Basic
import PluginSandbox.Proofs.Checker.History
import PluginSandbox.Proofs.Checker.Questions
import PluginSandbox.Proofs.Network.Plain
import PluginSandbox.Proofs.Path.Resolution

/-!
# Snapshots

A checker made again from a snapshot of one, and given the same workspace. Its
lists hold each entry once, so storing them again keeps what is in its stored
form for good: every path, and every host pattern that was plain when it came.
-/

namespace PluginSandbox

namespace Capability

theorem pairwise_sort (cs : List Capability) : (sort cs).Pairwise fun a b => (order a b).isLE = true := by
  have hle (a b : Capability) : (order a b).isLE = true ↔ a.name ≤ b.name := by
    unfold order
    exact Std.LawfulBCmp.isLE_iff_le
  refine List.pairwise_mergeSort (fun a b c => ?_) (fun a b => ?_) cs
  · simp only [hle]
    exact le_trans
  · simp only [Bool.or_eq_true, hle]
    exact le_total a.name b.name

theorem sort_sort (cs : List Capability) : sort (sort cs) = sort cs :=
  List.mergeSort_of_pairwise (pairwise_sort cs)

theorem mem_sort {c : Capability} {cs : List Capability} : c ∈ sort cs ↔ c ∈ cs :=
  List.mem_mergeSort

theorem foldl_addTo_sort {cs : List Capability} (h : cs.Nodup) :
    (sort cs).foldl (fun gs c => c.addTo gs) [] = sort cs :=
  foldl_add_of_nodup addTo_eq _ [] ((List.mergeSort_perm cs _).nodup_iff.mpr h)

end Capability

namespace Checker

theorem addOnce_eq (items : List String) (item : String) :
    addOnce item items = if item ∈ items then items else items ++ [item] := rfl

theorem foldl_addOnce_eq_self_iff {f : String → String} {items : List String} (h : items.Nodup) :
    items.foldl (fun l p => addOnce (f p) l) [] = items ↔ ∀ p ∈ items, f p = p := by
  rw [← foldl_add_map_eq_self_iff addOnce_eq h, List.foldl_map]

theorem nodup_foldl_addOnce {f : String → String} {items : List String} (h : items.Nodup) (ps : List String) :
    (ps.foldl (fun l p => addOnce (f p) l) items).Nodup := by
  rw [← List.foldl_map (f := f) (g := fun l p => addOnce p l)]
  exact nodup_foldl_add addOnce_eq _ _ h

/-! ## Lists without repetition -/

structure EachOnce (k : Checker) : Prop where
  granted : k.granted.Nodup
  denied : k.denied.Nodup
  allowedPaths : k.allowedPaths.Nodup
  blockedPaths : k.blockedPaths.Nodup
  allowedHosts : k.allowedHosts.Nodup
  blockedHosts : k.blockedHosts.Nodup

theorem eachOnce_empty : EachOnce {} :=
  ⟨.nil, .nil, .nil, .nil, .nil, .nil⟩

theorem EachOnce.apply {k : Checker} (h : k.EachOnce) (cwd : Option String) (s : PermissionSet) :
    (k.apply cwd s).EachOnce := by
  rw [apply_eq]
  exact {
    granted := nodup_foldl_add Capability.addTo_eq _ _ h.granted
    denied := nodup_foldl_add Capability.addTo_eq _ _ h.denied
    allowedPaths := nodup_foldl_addOnce h.allowedPaths _
    blockedPaths := nodup_foldl_addOnce h.blockedPaths _
    allowedHosts := nodup_foldl_addOnce h.allowedHosts _
    blockedHosts := nodup_foldl_addOnce h.blockedHosts _ }

theorem EachOnce.step {k : Checker} (h : k.EachOnce) (cwd : Option String) (op : Op) :
    (step cwd k op).EachOnce := by
  cases op with
  | grant c => exact { h with granted := nodup_foldl_add Capability.addTo_eq [c] _ h.granted }
  | grantAll cs =>
    rw [Checker.step, grantAll_eq]
    exact { h with granted := nodup_foldl_add Capability.addTo_eq cs _ h.granted }
  | revoke c => exact { h with granted := h.granted.filter _ }
  | deny c => exact { h with denied := nodup_foldl_add Capability.addTo_eq [c] _ h.denied }
  | allowPath p => exact { h with allowedPaths := nodup_foldl_addOnce h.allowedPaths [p] }
  | blockPath p => exact { h with blockedPaths := nodup_foldl_addOnce h.blockedPaths [p] }
  | setWorkspace p => exact { h with }
  | allowHost p => exact { h with allowedHosts := nodup_foldl_addOnce h.allowedHosts [p] }
  | blockHost p => exact { h with blockedHosts := nodup_foldl_addOnce h.blockedHosts [p] }
  | apply s => exact h.apply cwd s
  | reset => exact eachOnce_empty

theorem eachOnce_run (cwd : Option String) (ops : List Op) : (run cwd ops).EachOnce := by
  induction ops using List.reverseRecOn with
  | nil => exact eachOnce_empty
  | append_singleton ops op ih =>
    rw [run_concat]
    exact ih.step cwd op

/-! ## What is in its stored form for good -/

theorem Rules.fixed_run_iff (r : Rules) (cwd : Option String) (ops : List Op) :
    (∀ x ∈ r.stored (run cwd ops), r.form cwd x = x) ↔
      ∀ p ∈ given r.part ops, r.form cwd (r.form cwd p) = r.form cwd p := by
  simp only [r.mem_run, forall_exists_index, and_imp, forall_apply_eq_imp_iff₂]

section
variable {cwd : String} (hcwd : Path.isAbsolute cwd.toList = true)
include hcwd

theorem normalize_allowedPaths_run (ops : List Op) :
    ∀ p ∈ (run (some cwd) ops).allowedPaths, Path.normalize (some cwd) p = p :=
  (Rules.allowedPaths.fixed_run_iff (some cwd) ops).mpr fun p _ => Path.normalize_normalize hcwd p

theorem normalize_blockedPaths_run (ops : List Op) :
    ∀ p ∈ (run (some cwd) ops).blockedPaths, Path.normalize (some cwd) p = p :=
  (Rules.blockedPaths.fixed_run_iff (some cwd) ops).mpr fun p _ => Path.normalize_normalize hcwd p

theorem normalize_workspace_run (ops : List Op) :
    ∀ w ∈ (run (some cwd) ops).workspace, Path.normalize (some cwd) w = w := by
  intro w hw
  rw [workspace_run] at hw
  obtain ⟨p, -, rfl⟩ := Option.map_eq_some_iff.mp hw
  exact Path.normalize_normalize hcwd p

end

/-! ## Made again -/

def restored (cwd : Option String) (k : Checker) : Checker :=
  match k.workspace with
  | some w => (ofPermissions cwd k.snapshot).setWorkspace cwd w
  | none => ofPermissions cwd k.snapshot

def storedAgain (hosts : List String) : List String :=
  hosts.foldl (fun l p => addOnce (Network.canonicalPattern p) l) []

section
variable {cwd : String} (hcwd : Path.isAbsolute cwd.toList = true) (ops : List Op)
include hcwd

theorem ofPermissions_snapshot_run :
    let k := run (some cwd) ops
    ofPermissions (some cwd) k.snapshot =
      { k with
        granted := Capability.sort k.granted
        denied := Capability.sort k.denied
        workspace := none
        allowedHosts := storedAgain k.allowedHosts
        blockedHosts := storedAgain k.blockedHosts } := by
  intro k
  have honce : k.EachOnce := eachOnce_run (some cwd) ops
  have hallowed := (foldl_addOnce_eq_self_iff honce.allowedPaths).mpr (normalize_allowedPaths_run hcwd ops)
  have hblocked := (foldl_addOnce_eq_self_iff honce.blockedPaths).mpr (normalize_blockedPaths_run hcwd ops)
  rw [ofPermissions, apply_eq]
  unfold snapshot
  dsimp only
  rw [Capability.foldl_addTo_sort honce.granted, Capability.foldl_addTo_sort honce.denied, hallowed, hblocked]
  rfl

theorem restored_run_eq :
    let k := run (some cwd) ops
    restored (some cwd) k =
      { k with
        granted := Capability.sort k.granted
        denied := Capability.sort k.denied
        allowedHosts := storedAgain k.allowedHosts
        blockedHosts := storedAgain k.blockedHosts } := by
  intro k
  have hworkspace : ∀ w ∈ k.workspace, Path.normalize (some cwd) w = w := normalize_workspace_run hcwd ops
  unfold restored
  rw [ofPermissions_snapshot_run hcwd ops]
  cases hw : k.workspace with
  | none => rfl
  | some w =>
    dsimp only [setWorkspace]
    rw [hworkspace w hw]

end

/-! ## Answers -/

theorem has_eq_of_mem {k l : Checker} (hgranted : ∀ c, c ∈ l.granted ↔ c ∈ k.granted)
    (hdenied : ∀ c, c ∈ l.denied ↔ c ∈ k.denied) (c : Capability) : l.has c = k.has c := by
  rw [Bool.eq_iff_iff, has_iff, has_iff]
  simp only [hgranted, hdenied]

theorem checkPath_eq_of_paths {k l : Checker} (hhas : ∀ c, l.has c = k.has c)
    (hallowed : l.allowedPaths = k.allowedPaths) (hblocked : l.blockedPaths = k.blockedPaths)
    (hworkspace : l.workspace = k.workspace) (cwd : Option String) (c : Capability) (verb p : String) :
    l.checkPath cwd c verb p = k.checkPath cwd c verb p := by
  unfold checkPath pathRefusal?
  rw [hhas, hallowed, hblocked, hworkspace]

theorem checkNetwork_eq_of_hosts {k l : Checker} (hhas : ∀ c, l.has c = k.has c)
    (hallowed : l.allowedHosts = k.allowedHosts) (hblocked : l.blockedHosts = k.blockedHosts) (target : String) :
    l.checkNetwork target = k.checkNetwork target := by
  unfold checkNetwork hostRefusal?
  rw [hhas, hallowed, hblocked]

theorem demand_eq_of_has {k l : Checker} (hhas : ∀ c, l.has c = k.has c) (c : Capability)
    (operation : String) :
    l.demand c operation = k.demand c operation := by
  unfold demand
  rw [hhas]

section
variable {cwd : String} (hcwd : Path.isAbsolute cwd.toList = true) (ops : List Op)
include hcwd

theorem has_restored_run (c : Capability) :
    (restored (some cwd) (run (some cwd) ops)).has c = (run (some cwd) ops).has c := by
  rw [restored_run_eq hcwd ops]
  exact has_eq_of_mem (fun _ => Capability.mem_sort) (fun _ => Capability.mem_sort) c

theorem answer_restored_run {q : Question} (hq : ∀ target, q ≠ .network target) :
    (restored (some cwd) (run (some cwd) ops)).answer q = (run (some cwd) ops).answer q := by
  have hhas := has_restored_run hcwd ops
  cases q with
  | network target => exact absurd rfl (hq target)
  | read _ p | write _ p =>
    apply checkPath_eq_of_paths hhas <;> rw [restored_run_eq hcwd ops]
  | capability c => exact demand_eq_of_has hhas c ""
  | shell command | process program | clipboard action => exact demand_eq_of_has hhas _ _

end

/-! ## Hosts -/

/-- Every host pattern given since the last reset is plain. -/
def PlainHosts (ops : List Op) : Prop :=
  (∀ p ∈ given Op.allowedHosts ops, Network.IsPlain p) ∧ ∀ p ∈ given Op.blockedHosts ops, Network.IsPlain p

instance (ops : List Op) : Decidable (PlainHosts ops) :=
  inferInstanceAs (Decidable (_ ∧ _))

theorem canonical_hosts_run_iff (cwd : Option String) (ops : List Op) :
    (∀ x ∈ (run cwd ops).allowedHosts ++ (run cwd ops).blockedHosts, Network.canonicalPattern x = x) ↔
      PlainHosts ops := by
  have hallowed : (∀ x ∈ (run cwd ops).allowedHosts, Network.canonicalPattern x = x) ↔
      ∀ p ∈ given Op.allowedHosts ops, Network.canonicalPattern (Network.canonicalPattern p) =
        Network.canonicalPattern p := Rules.allowedHosts.fixed_run_iff cwd ops
  have hblocked : (∀ x ∈ (run cwd ops).blockedHosts, Network.canonicalPattern x = x) ↔
      ∀ p ∈ given Op.blockedHosts ops, Network.canonicalPattern (Network.canonicalPattern p) =
        Network.canonicalPattern p := Rules.blockedHosts.fixed_run_iff cwd ops
  rw [List.forall_mem_append, hallowed, hblocked]
  simp only [Network.canonicalPattern_canonicalPattern_iff, PlainHosts]

theorem storedAgain_run_iff (cwd : Option String) (ops : List Op) :
    (storedAgain (run cwd ops).allowedHosts = (run cwd ops).allowedHosts ∧
        storedAgain (run cwd ops).blockedHosts = (run cwd ops).blockedHosts) ↔ PlainHosts ops := by
  have honce := eachOnce_run cwd ops
  rw [← canonical_hosts_run_iff cwd ops, List.forall_mem_append]
  exact and_congr (foldl_addOnce_eq_self_iff honce.allowedHosts) (foldl_addOnce_eq_self_iff honce.blockedHosts)

section
variable {cwd : String} (hcwd : Path.isAbsolute cwd.toList = true) (ops : List Op)
include hcwd

theorem snapshot_ofPermissions_run_iff :
    (ofPermissions (some cwd) (run (some cwd) ops).snapshot).snapshot = (run (some cwd) ops).snapshot ↔
      PlainHosts ops := by
  rw [ofPermissions_snapshot_run hcwd ops, ← storedAgain_run_iff (some cwd) ops]
  unfold snapshot
  simp only [Capability.sort_sort, PermissionSet.mk.injEq, true_and, and_true]

theorem checkNetwork_restored_run (hplain : PlainHosts ops) (target : String) :
    (restored (some cwd) (run (some cwd) ops)).checkNetwork target =
      (run (some cwd) ops).checkNetwork target := by
  obtain ⟨hallowed, hblocked⟩ := (storedAgain_run_iff (some cwd) ops).mpr hplain
  refine checkNetwork_eq_of_hosts (has_restored_run hcwd ops) ?_ ?_ target
  · rw [restored_run_eq hcwd ops]
    exact hallowed
  · rw [restored_run_eq hcwd ops]
    exact hblocked

/-- **What a snapshot restores.** Paths are stored for good, and the checker made again answers
as the first one whatever it is asked about capabilities and files. Its snapshot is the same, and
its stored hosts stay what they are, exactly if every host pattern was plain when it was given;
then it also answers the same about the network. -/
theorem restored_run :
    (∀ p ∈ (run (some cwd) ops).allowedPaths ++ (run (some cwd) ops).blockedPaths,
        Path.normalize (some cwd) p = p) ∧
      (∀ c, (restored (some cwd) (run (some cwd) ops)).has c = (run (some cwd) ops).has c) ∧
      (∀ q : Question, (∀ target, q ≠ .network target) →
        (restored (some cwd) (run (some cwd) ops)).answer q = (run (some cwd) ops).answer q) ∧
      ((∀ x ∈ (run (some cwd) ops).allowedHosts ++ (run (some cwd) ops).blockedHosts,
        Network.canonicalPattern x = x) ↔ PlainHosts ops) ∧
      ((ofPermissions (some cwd) (run (some cwd) ops).snapshot).snapshot = (run (some cwd) ops).snapshot ↔
        PlainHosts ops) ∧
      (PlainHosts ops → ∀ target, (restored (some cwd) (run (some cwd) ops)).checkNetwork target =
        (run (some cwd) ops).checkNetwork target) :=
  ⟨List.forall_mem_append.mpr ⟨normalize_allowedPaths_run hcwd ops, normalize_blockedPaths_run hcwd ops⟩,
    has_restored_run hcwd ops, fun _ hq => answer_restored_run hcwd ops hq,
    canonical_hosts_run_iff (some cwd) ops, snapshot_ofPermissions_run_iff hcwd ops,
    checkNetwork_restored_run hcwd ops⟩

end

theorem restored_run_spaced :
    let ops : List Op := [.grantAll [.network, .filesystemRead], .setWorkspace "/w/./a/..",
      .allowPath "x//y", .blockHost " [::1] ", .allowHost "*.Example.COM"]
    let k := run (some "/c") ops
    k.workspace = some "/w" ∧ k.allowedPaths = ["/c/x/y"] ∧ k.blockedHosts = ["::1"] ∧
      (ofPermissions (some "/c") k.snapshot).snapshot = k.snapshot ∧
      (restored (some "/c") k).checkNetwork "[::1]:80" = k.checkNetwork "[::1]:80" ∧
      (restored (some "/c") k).answer (.read (some "/") "c/x/y/z") = k.answer (.read (some "/") "c/x/y/z") := by
  intro ops k
  have hcwd : Path.isAbsolute "/c".toList = true := by decide
  have hplain : PlainHosts ops := by decide +kernel
  obtain ⟨-, -, hanswer, -, hsnapshot, hnetwork⟩ := restored_run hcwd ops
  exact ⟨by decide +kernel, by decide +kernel, by decide +kernel, hsnapshot.mpr hplain, hnetwork hplain _,
    hanswer _ fun _ h => Question.noConfusion h⟩

/-- A pattern in two pairs of brackets is stored in one, and stored again without: the host that
was blocked no longer is. -/
theorem restored_run_brackets :
    let k := run (some "/") [.grant .network, .blockHost "[[a]]"]
    (ofPermissions (some "/") k.snapshot).snapshot ≠ k.snapshot ∧
      k.checkNetwork "[[a]]" = .error ⟨.network, "connect [[a]]", Denial.hostBlocked⟩ ∧
      (restored (some "/") k).checkNetwork "[[a]]" = .ok () := by
  decide +kernel

end Checker

end PluginSandbox
