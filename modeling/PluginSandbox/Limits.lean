/-!
# Resource limits

Ceilings for one plugin, the presets they come in, and partial limits laid over them. A ceiling of
zero is no ceiling.
-/

namespace PluginSandbox

/-- Bytes and instructions are 64-bit counts; rates and tasks are 32-bit counts. -/
structure Limits where
  memory : UInt64
  timeoutMs : UInt64
  instructions : UInt64
  fileOpsPerSecond : UInt32
  networkRequestsPerSecond : UInt32
  tasks : UInt32
  output : UInt64
deriving DecidableEq, Inhabited

namespace Limits

def mebibytes (n : UInt64) : UInt64 :=
  n * 1048576

def strict : Limits where
  memory := mebibytes 32
  timeoutMs := 5000
  instructions := 1000000
  fileOpsPerSecond := 10
  networkRequestsPerSecond := 5
  tasks := 4
  output := mebibytes 1

def standard : Limits where
  memory := mebibytes 64
  timeoutMs := 30000
  instructions := 10000000
  fileOpsPerSecond := 100
  networkRequestsPerSecond := 20
  tasks := 16
  output := mebibytes 10

def relaxed : Limits where
  memory := mebibytes 256
  timeoutMs := 120000
  instructions := 100000000
  fileOpsPerSecond := 1000
  networkRequestsPerSecond := 100
  tasks := 64
  output := mebibytes 100

def unlimited : Limits :=
  ⟨0, 0, 0, 0, 0, 0, 0⟩

/-- The time one call may take, in milliseconds. -/
def timeout? (l : Limits) : Option UInt64 :=
  if l.timeoutMs = 0 then none else some l.timeoutMs

end Limits

inductive Preset where
  | strict
  | default
  | relaxed
deriving DecidableEq, Inhabited

namespace Preset

def text : Preset → String
  | strict => "strict"
  | default => "default"
  | relaxed => "relaxed"

def ofText? : String → Option Preset
  | "strict" => some strict
  | "default" => some default
  | "relaxed" => some relaxed
  | _ => none

def limits : Preset → Limits
  | strict => .strict
  | default => .standard
  | relaxed => .relaxed

end Preset

/-- Partial limits: only the fields that are set count. -/
structure Overrides where
  memory : Option UInt64 := none
  timeoutMs : Option UInt64 := none
  instructions : Option UInt64 := none
  fileOpsPerSecond : Option UInt32 := none
  networkRequestsPerSecond : Option UInt32 := none
  tasks : Option UInt32 := none
  output : Option UInt64 := none
deriving DecidableEq, Inhabited

namespace Overrides

def none : Overrides := {}

def apply (o : Overrides) (l : Limits) : Limits where
  memory := o.memory.getD l.memory
  timeoutMs := o.timeoutMs.getD l.timeoutMs
  instructions := o.instructions.getD l.instructions
  fileOpsPerSecond := o.fileOpsPerSecond.getD l.fileOpsPerSecond
  networkRequestsPerSecond := o.networkRequestsPerSecond.getD l.networkRequestsPerSecond
  tasks := o.tasks.getD l.tasks
  output := o.output.getD l.output

def isEmpty (o : Overrides) : Bool :=
  o == none

end Overrides

end PluginSandbox
