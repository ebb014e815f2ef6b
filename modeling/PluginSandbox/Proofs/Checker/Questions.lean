import PluginSandbox.Permission.Checker

/-!
# Questions to a checker

Each check asks for its capability first. From a checker that does not hold it,
and so from one to which nothing is granted, the answer is that it is missing.
-/

namespace PluginSandbox.Checker

inductive Question where
  | capability (c : Capability)
  | read (cwd : Option String) (path : String)
  | write (cwd : Option String) (path : String)
  | network (target : String)
  | shell (command : String)
  | process (program : String)
  | clipboard (action : String)

namespace Question

def needs : Question → Capability
  | capability c => c
  | read .. => .filesystemRead
  | write .. => .filesystemWrite
  | network _ => .network
  | shell _ => .shell
  | process _ => .process
  | clipboard _ => .clipboard

def operation : Question → String
  | capability _ => ""
  | read cwd path => "read " ++ Path.normalize cwd path
  | write cwd path => "write " ++ Path.normalize cwd path
  | network target => "connect " ++ target
  | shell command => "shell command " ++ Text.quote command
  | process program => "spawn " ++ program
  | clipboard action => "clipboard " ++ action

end Question

variable (k : Checker)

def answer : Question → Except Denial Unit
  | .capability c => k.checkCapability c
  | .read cwd path => k.checkRead cwd path
  | .write cwd path => k.checkWrite cwd path
  | .network target => k.checkNetwork target
  | .shell command => k.checkShell command
  | .process program => k.checkProcess program
  | .clipboard action => k.checkClipboard action

variable {k}

theorem demand_of_not_held {c : Capability} (h : k.has c = false) (operation : String) :
    k.demand c operation = .error ⟨c, operation, Denial.notGranted⟩ := by
  simp [demand, h]

theorem checkPath_of_not_held {c : Capability} (h : k.has c = false) (cwd : Option String) (verb path : String) :
    k.checkPath cwd c verb path = .error ⟨c, verb ++ " " ++ Path.normalize cwd path, Denial.notGranted⟩ := by
  simp [checkPath, h]

theorem answer_of_not_held {q : Question} (h : k.has q.needs = false) :
    k.answer q = .error ⟨q.needs, q.operation, Denial.notGranted⟩ := by
  cases q with
  | read cwd path => exact checkPath_of_not_held h cwd "read" path
  | write cwd path => exact checkPath_of_not_held h cwd "write" path
  | network target =>
    have hnetwork : k.has .network = false := h
    simp [answer, checkNetwork, hnetwork, Question.needs, Question.operation]
  | _ => exact demand_of_not_held h _

/-- It holds nothing, and whatever it is asked it answers that the capability is missing. -/
structure Powerless (k : Checker) : Prop where
  has : ∀ c, k.has c = false
  answer : ∀ q : Question, ∃ d, k.answer q = .error d ∧ d.capability = q.needs ∧ d.isNotGranted = true

theorem powerless_of_granted_eq_nil (h : k.granted = []) : k.Powerless := by
  have hheld (c : Capability) : k.has c = false := by simp [has, h]
  exact ⟨hheld, fun q => ⟨_, answer_of_not_held (hheld q.needs), rfl, by simp [Denial.isNotGranted]⟩⟩

end PluginSandbox.Checker
