import Mathlib.Data.List.DropRight
import PluginSandbox.Proofs.Checker.Fields

/-!
# Histories of a checker

Every operation that changes a checker, and what its lists hold after a run of
them: what was given since the last reset, each in its stored form.
-/

namespace PluginSandbox.Checker

inductive Op where
  | grant (c : Capability)
  | grantAll (cs : List Capability)
  | revoke (c : Capability)
  | deny (c : Capability)
  | allowPath (p : String)
  | blockPath (p : String)
  | setWorkspace (p : String)
  | allowHost (pattern : String)
  | blockHost (pattern : String)
  | apply (s : PermissionSet)
  | reset

namespace Op

def isReset : Op → Bool
  | reset => true
  | _ => false

/-! ## What an operation gives -/

def allowedPaths : Op → List String
  | .allowPath p => [p]
  | .apply s => s.allowedPaths
  | _ => []

def blockedPaths : Op → List String
  | .blockPath p => [p]
  | .apply s => s.blockedPaths
  | _ => []

def allowedHosts : Op → List String
  | .allowHost pattern => [pattern]
  | .apply s => s.allowedHosts
  | _ => []

def blockedHosts : Op → List String
  | .blockHost pattern => [pattern]
  | .apply s => s.blockedHosts
  | _ => []

def workspace? : Op → Option String
  | .setWorkspace p => some p
  | _ => none

end Op

def step (cwd : Option String) (k : Checker) : Op → Checker
  | .grant c => k.grant c
  | .grantAll cs => k.grantAll cs
  | .revoke c => k.revoke c
  | .deny c => k.deny c
  | .allowPath p => k.allowPath cwd p
  | .blockPath p => k.blockPath cwd p
  | .setWorkspace p => k.setWorkspace cwd p
  | .allowHost pattern => k.allowHost pattern
  | .blockHost pattern => k.blockHost pattern
  | .apply s => k.apply cwd s
  | .reset => {}

def run (cwd : Option String) (ops : List Op) : Checker :=
  ops.foldl (step cwd) {}

/-! ## Since the last reset -/

def sinceReset (ops : List Op) : List Op :=
  ops.rtakeWhile fun op => !op.isReset

def given {α : Type} (part : Op → List α) (ops : List Op) : List α :=
  (sinceReset ops).flatMap part

def lastWorkspace (ops : List Op) : Option String :=
  ((sinceReset ops).filterMap Op.workspace?).getLast?

theorem run_concat (cwd : Option String) (ops : List Op) (op : Op) :
    run cwd (ops ++ [op]) = step cwd (run cwd ops) op := by
  unfold run
  rw [List.foldl_concat]

theorem sinceReset_concat (ops : List Op) {op : Op} (h : op.isReset = false) :
    sinceReset (ops ++ [op]) = sinceReset ops ++ [op] := by
  unfold sinceReset
  rw [List.rtakeWhile_concat_pos _ _ _ (by simp [h])]

theorem sinceReset_concat_reset (ops : List Op) : sinceReset (ops ++ [.reset]) = [] := by
  unfold sinceReset
  rw [List.rtakeWhile_concat_neg _ _ _ (by simp [Op.isReset])]

theorem given_concat {α : Type} (part : Op → List α) (ops : List Op) {op : Op} (h : op.isReset = false) :
    given part (ops ++ [op]) = given part ops ++ part op := by
  unfold given
  rw [sinceReset_concat ops h, List.flatMap_append, List.flatMap_singleton]

theorem eq_reset_of_isReset {op : Op} (h : op.isReset = true) : op = .reset := by
  cases op <;> first | rfl | cases h

/-- A field that starts empty and gains with each operation exactly the images
of what the operation gives holds, after a run, the images of all that was
given since the last reset. -/
theorem mem_run_iff {α β : Type} {cwd : Option String} (field : Checker → List β) {part : Op → List α}
    {f : α → β} (hempty : field {} = [])
    (hstep : ∀ k op, op.isReset = false →
      ∀ x, x ∈ field (step cwd k op) ↔ x ∈ field k ∨ ∃ a ∈ part op, f a = x)
    (ops : List Op) : ∀ x, x ∈ field (run cwd ops) ↔ ∃ a ∈ given part ops, f a = x := by
  induction ops using List.reverseRecOn with
  | nil => intro x; simp [run, given, sinceReset, hempty]
  | append_singleton ops op ih =>
    intro x
    rw [run_concat]
    cases h : op.isReset with
    | true =>
      rw [eq_reset_of_isReset h, step, hempty, given, sinceReset_concat_reset]
      simp
    | false =>
      rw [hstep _ _ h, ih, given_concat part ops h]
      simp only [List.mem_append, or_and_right, exists_or]

/-! ## The rules -/

/-- A list of rules that a checker keeps. -/
inductive Rules where
  | allowedPaths | blockedPaths | allowedHosts | blockedHosts

namespace Rules

def stored : Rules → Checker → List String
  | allowedPaths => Checker.allowedPaths
  | blockedPaths => Checker.blockedPaths
  | allowedHosts => Checker.allowedHosts
  | blockedHosts => Checker.blockedHosts

def part : Rules → Op → List String
  | allowedPaths => Op.allowedPaths
  | blockedPaths => Op.blockedPaths
  | allowedHosts => Op.allowedHosts
  | blockedHosts => Op.blockedHosts

/-- The form in which a rule is stored. -/
def form (cwd : Option String) : Rules → String → String
  | allowedPaths | blockedPaths => Path.normalize cwd
  | allowedHosts | blockedHosts => Network.canonicalPattern

theorem mem_step (r : Rules) {cwd : Option String} {k : Checker} {op : Op} (h : op.isReset = false) (x : String) :
    x ∈ r.stored (step cwd k op) ↔ x ∈ r.stored k ∨ ∃ p ∈ r.part op, r.form cwd p = x := by
  cases op with
  | allowPath | blockPath | allowHost | blockHost =>
    cases r <;>
      simp [step, allowPath, blockPath, allowHost, blockHost, mem_addOnce, stored, part, form, Op.allowedPaths,
        Op.blockedPaths, Op.allowedHosts, Op.blockedHosts]
  | apply s => cases r <;> simp only [step, apply_eq, stored, mem_foldl_addOnce] <;> rfl
  | grantAll cs =>
    cases r <;>
      simp [step, grantAll_eq, stored, part, Op.allowedPaths, Op.blockedPaths, Op.allowedHosts, Op.blockedHosts]
  | reset => cases h
  | _ =>
    cases r <;>
      simp [step, grant, revoke, deny, setWorkspace, stored, part, Op.allowedPaths, Op.blockedPaths, Op.allowedHosts,
        Op.blockedHosts]

variable (r : Rules) (cwd : Option String) (ops : List Op)

/-- A list holds, each in its stored form, the rules given since the last reset. -/
theorem mem_run (x : String) : x ∈ r.stored (run cwd ops) ↔ ∃ p ∈ given r.part ops, r.form cwd p = x :=
  mem_run_iff r.stored (by cases r <;> rfl) (fun _ _ h => r.mem_step h) ops x

variable {cwd ops} in
/-- Whether some stored rule passes a test can be told from the rules as they were given. -/
theorem any_run_iff {test : String → Bool} {P : String → Prop}
    (h : ∀ p ∈ given r.part ops, test (r.form cwd p) = true ↔ P p) :
    (r.stored (run cwd ops)).any test = true ↔ ∃ p ∈ given r.part ops, P p := by
  rw [List.any_eq_true]
  constructor
  · rintro ⟨x, hx, htest⟩
    obtain ⟨p, hp, rfl⟩ := (r.mem_run cwd ops x).mp hx
    exact ⟨p, hp, (h p hp).mp htest⟩
  · rintro ⟨p, hp, hP⟩
    exact ⟨_, (r.mem_run cwd ops _).mpr ⟨p, hp, rfl⟩, (h p hp).mpr hP⟩

theorem run_eq_nil : r.stored (run cwd ops) = [] ↔ given r.part ops = [] := by
  rw [List.eq_nil_iff_forall_not_mem, List.eq_nil_iff_forall_not_mem]
  simp only [r.mem_run]
  constructor
  · intro hnone p hp
    exact hnone _ ⟨p, hp, rfl⟩
  · intro hnone _ ⟨p, hp, _⟩
    exact hnone p hp

end Rules

/-! ## The workspace -/

theorem workspace_step {cwd : Option String} {k : Checker} {op : Op} (h : op.isReset = false) :
    (step cwd k op).workspace =
      match op.workspace? with
      | some p => some (Path.normalize cwd p)
      | none => k.workspace := by
  cases op with
  | apply s => simp only [step, apply_eq, Op.workspace?]
  | grantAll cs => simp only [step, grantAll_eq, Op.workspace?]
  | reset => cases h
  | _ => rfl

theorem workspace_run (cwd : Option String) (ops : List Op) :
    (run cwd ops).workspace = (lastWorkspace ops).map (Path.normalize cwd) := by
  induction ops using List.reverseRecOn with
  | nil => rfl
  | append_singleton ops op ih =>
    rw [run_concat]
    cases h : op.isReset with
    | true =>
      rw [eq_reset_of_isReset h, step, lastWorkspace, sinceReset_concat_reset]
      rfl
    | false =>
      rw [workspace_step h, lastWorkspace, sinceReset_concat ops h, List.filterMap_append]
      cases hw : op.workspace? with
      | some p => simp [hw]
      | none => simpa [hw, lastWorkspace] using ih

end PluginSandbox.Checker
