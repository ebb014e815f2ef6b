import PluginSandbox.Proofs.Checker.History
import PluginSandbox.Proofs.Path.Resolution
import PluginSandbox.Proofs.Path.Unanchored

/-!
# File decisions

What a checker answers to a read or a write after any run of operations, told
from the paths given since the last reset and where they lead. The stored
normal forms and the order in which they came play no part in it. Where no
current directory is known, a checker answers as is right wherever the process
may be, unless it has been given a path without a name that its containment
misjudges. Such a path covers too little as `.` or `/`, and as a climb of `..`
it admits what lies above it.
-/

namespace PluginSandbox.Checker

/-! ## The rules, whatever they cover -/

def pathsSince (ops : List Op) : List String :=
  given Op.blockedPaths ops ++ given Op.allowedPaths ops ++ (lastWorkspace ops).toList

section
variable (covers : String → Prop) [DecidablePred covers]

/-- The rule that refuses what `covers` tells of: blocked paths come first, then allowed ones, and the
workspace only where none is allowed. -/
def pathRefusalBy? (ops : List Op) : Option String :=
  if ∃ b ∈ given Op.blockedPaths ops, covers b then some Denial.pathBlocked
  else if given Op.allowedPaths ops ≠ [] then
    if ∃ b ∈ given Op.allowedPaths ops, covers b then none else some Denial.pathNotAllowed
  else if ∃ w ∈ lastWorkspace ops, ¬ covers w then some Denial.pathOutsideWorkspace
  else none

def pathAnswer (cwd : Option String) (ops : List Op) (c : Capability) (operation : String) : Except Denial Unit :=
  match if (run cwd ops).has c = false then some Denial.notGranted else pathRefusalBy? covers ops with
  | some reason => .error ⟨c, operation, reason⟩
  | none => .ok ()

end

section
variable {cwd : Option String} {ops : List Op} {t : String} {covers : String → Prop} [DecidablePred covers]
  (h : ∀ b ∈ pathsSince ops, Path.isWithin (Path.normalize cwd b) (Path.normalize cwd t) = true ↔ covers b)
include h

theorem pathRefusal?_run_by :
    (run cwd ops).pathRefusal? (Path.normalize cwd t) = pathRefusalBy? covers ops := by
  simp only [pathsSince, List.forall_mem_append, Option.mem_toList] at h
  obtain ⟨⟨hblock, hallow⟩, hwork⟩ := h
  have hblocked : (run cwd ops).blockedPaths.any (Path.isWithin · (Path.normalize cwd t)) = true ↔
      ∃ b ∈ given Op.blockedPaths ops, covers b :=
    Rules.blockedPaths.any_run_iff hblock
  have hallowed : (run cwd ops).allowedPaths.any (Path.isWithin · (Path.normalize cwd t)) = true ↔
      ∃ b ∈ given Op.allowedPaths ops, covers b :=
    Rules.allowedPaths.any_run_iff hallow
  have hnone : (run cwd ops).allowedPaths = [] ↔ given Op.allowedPaths ops = [] := Rules.allowedPaths.run_eq_nil cwd ops
  unfold pathRefusal? pathRefusalBy?
  by_cases hb : ∃ b ∈ given Op.blockedPaths ops, covers b
  · rw [if_pos hb, if_pos (hblocked.mpr hb)]
  rw [if_neg hb, if_neg (mt hblocked.mp hb)]
  by_cases hne : given Op.allowedPaths ops = []
  · rw [if_neg (not_not.mpr hne), hnone.mpr hne, workspace_run]
    cases hw : lastWorkspace ops with
    | none => simp
    | some w =>
      by_cases hc : covers w
      · simp [hc, (hwork w hw).mpr hc]
      · simp [hc, mt (hwork w hw).mp hc]
  · rw [if_pos hne, if_pos (by simpa using mt hnone.mp hne)]
    by_cases ha : ∃ b ∈ given Op.allowedPaths ops, covers b
    · rw [if_pos ha, if_pos (hallowed.mpr ha)]
    · rw [if_neg ha, if_neg (mt hallowed.mp ha)]

theorem checkPath_run_by (c : Capability) (verb : String) :
    (run cwd ops).checkPath cwd c verb t = pathAnswer covers cwd ops c (verb ++ " " ++ Path.normalize cwd t) := by
  unfold checkPath pathAnswer
  dsimp only
  rw [pathRefusal?_run_by h]
  cases (run cwd ops).has c with
  | false => rfl
  | true => rfl

end

/-! ## From the current directory -/

/-- The answer to the operation `verb` on `t`, which names where `t` leads. -/
def fileAnswer (cwd : String) (ops : List Op) (c : Capability) (verb t : String) : Except Denial Unit :=
  pathAnswer (Path.Covers cwd · t) (some cwd) ops c (verb ++ " " ++ Path.absoluteText (Path.resolution cwd t))

section
variable {cwd : String} (hcwd : Path.isAbsolute cwd.toList = true)
include hcwd

theorem checkPath_run (ops : List Op) (c : Capability) (verb t : String) :
    (run (some cwd) ops).checkPath (some cwd) c verb t = fileAnswer cwd ops c verb t := by
  rw [checkPath_run_by fun b _ => Path.isWithin_normalize_iff hcwd, Path.normalize_eq_absoluteText hcwd]
  rfl

/-- **File decisions over whole runs.** The answers are told from the paths given since the last
reset and from where these and `t` lead. -/
theorem checkRead_checkWrite_run (ops : List Op) (t : String) :
    (run (some cwd) ops).checkRead (some cwd) t = fileAnswer cwd ops .filesystemRead "read" t ∧
      (run (some cwd) ops).checkWrite (some cwd) t = fileAnswer cwd ops .filesystemWrite "write" t :=
  ⟨checkPath_run hcwd ops .filesystemRead "read" t, checkPath_run hcwd ops .filesystemWrite "write" t⟩

end

theorem checkRead_checkWrite_home :
    Path.isAbsolute "/home/u".toList = true ∧
      let k := run (some "/home/u")
        [.grant .filesystem, .reset, .grant .filesystemRead, .blockPath ".ssh/", .allowPath "/home/./u"]
      k.checkRead (some "/home/u") "notes/../.ssh//key" =
          .error ⟨.filesystemRead, "read /home/u/.ssh/key", Denial.pathBlocked⟩ ∧
        k.checkRead (some "/home/u") ".sshd" = .ok () ∧
        k.checkWrite (some "/home/u") "../v" = .error ⟨.filesystemWrite, "write /home/v", Denial.notGranted⟩ := by
  have habs : Path.isAbsolute "/home/u".toList = true := by decide
  refine ⟨habs, ?_, ?_, ?_⟩
  · exact (checkRead_checkWrite_run habs _ _).1.trans (by decide)
  · exact (checkRead_checkWrite_run habs _ _).1.trans (by decide)
  · exact (checkRead_checkWrite_run habs _ _).2.trans (by decide)

/-! ## Without a current directory -/

/-- **Right wherever the process is, but for misjudged paths.** -/
theorem answers_anywhere (b t : String) (ops : List Op) :
    ((Path.isWithin (Path.normalize none b) (Path.normalize none t) = true ↔ Path.CoversAnywhere b t) ↔
        ¬ Path.Misjudged b t) ∧
      ((∀ p ∈ pathsSince ops, ¬ Path.Misjudged p t) →
        (run none ops).checkRead none t =
            pathAnswer (Path.CoversAnywhere · t) none ops .filesystemRead ("read " ++ Path.normalize none t) ∧
          (run none ops).checkWrite none t =
            pathAnswer (Path.CoversAnywhere · t) none ops .filesystemWrite ("write " ++ Path.normalize none t)) := by
  refine ⟨Path.isWithin_normalize_none_iff b t, fun h => ?_⟩
  have hwithin : ∀ p ∈ pathsSince ops,
      Path.isWithin (Path.normalize none p) (Path.normalize none t) = true ↔ Path.CoversAnywhere p t :=
    fun p hp => (Path.isWithin_normalize_none_iff p t).mpr (h p hp)
  exact ⟨checkPath_run_by hwithin .filesystemRead "read", checkPath_run_by hwithin .filesystemWrite "write"⟩

theorem answers_anywhere_named :
    let ops := [.grant .filesystem, .blockPath "../lib/./private", .allowPath "..//lib", .allowPath "src"]
    "..//lib" ∈ pathsSince ops ∧ (∀ p ∈ pathsSince ops, ¬ Path.Misjudged p "x/../../lib/private/key") ∧
      (run none ops).checkRead none "x/../../lib/private/key" =
        .error ⟨.filesystemRead, "read ../lib/private/key", Denial.pathBlocked⟩ := by
  intro ops
  have hjudged : ∀ p ∈ pathsSince ops, ¬ Path.Misjudged p "x/../../lib/private/key" := by decide
  exact ⟨by decide, hjudged, ((answers_anywhere "src" "x/../../lib/private/key" ops).2 hjudged).1.trans (by decide)⟩

/-- Blocking `.`, `..` or `/` leaves what lies beneath open, and allowing `..` lets in what lies above. -/
theorem not_right_anywhere :
    ¬ (∀ b t, Path.isWithin (Path.normalize none b) (Path.normalize none t) = true ↔ Path.CoversAnywhere b t) ∧
      (Path.CoversAnywhere "." "a" ∧ Path.CoversAnywhere ".." "a" ∧ Path.CoversAnywhere "/" "a" ∧
        (run none [.grant .filesystem, .blockPath ".", .blockPath "..", .blockPath "/"]).checkRead none "a" = .ok ()) ∧
      ¬ Path.CoversAnywhere ".." "../../x" ∧
        (run none [.grant .filesystem, .allowPath ".."]).checkRead none "../../x" = .ok () := by
  refine ⟨fun h => ?_, by decide, by decide⟩
  have habove : Path.isWithin (Path.normalize none "..") (Path.normalize none "../../x") = true := by decide
  exact absurd ((h ".." "../../x").mp habove) (by decide)

end PluginSandbox.Checker
