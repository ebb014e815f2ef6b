import PluginSandbox.Limits
import PluginSandbox.Tree

/-!
# Limits in documents

The written form of limits, presets and partial limits.
-/

namespace PluginSandbox

/-- A field that is missing has the standard value. -/
def Limits.decode? (how : DataFormat) (t : Tree) : Option Limits := do
  let fs ← t.fields? how 7
  return {
    memory := ← fs.defaulted 0 "memory-limit" Tree.word64? Limits.standard.memory
    timeoutMs := ← fs.defaulted 1 "execution-timeout-ms" Tree.word64? Limits.standard.timeoutMs
    instructions := ← fs.defaulted 2 "instruction-limit" Tree.word64? Limits.standard.instructions
    fileOpsPerSecond :=
      ← fs.defaulted 3 "file-ops-per-second" Tree.word32? Limits.standard.fileOpsPerSecond
    networkRequestsPerSecond :=
      ← fs.defaulted 4 "network-requests-per-second" Tree.word32?
        Limits.standard.networkRequestsPerSecond
    tasks := ← fs.defaulted 5 "max-tasks" Tree.word32? Limits.standard.tasks
    output := ← fs.defaulted 6 "max-output-size" Tree.word64? Limits.standard.output }

def Limits.toJson (l : Limits) : Json :=
  .object
    [ ("memory-limit", .nat l.memory.toNat),
      ("execution-timeout-ms", .nat l.timeoutMs.toNat),
      ("instruction-limit", .nat l.instructions.toNat),
      ("file-ops-per-second", .nat l.fileOpsPerSecond.toNat),
      ("network-requests-per-second", .nat l.networkRequestsPerSecond.toNat),
      ("max-tasks", .nat l.tasks.toNat),
      ("max-output-size", .nat l.output.toNat) ]

def Preset.decode? (how : DataFormat) (t : Tree) : Option Preset :=
  t.choice? how Preset.ofText?

/-- A field that is missing or null is not set. A list has to give all seven. -/
def Overrides.decode? (how : DataFormat) (t : Tree) : Option Overrides := do
  let fs ← t.fields? how 7
  return {
    memory := ← fs.optional 0 "memory-limit" Tree.word64?
    timeoutMs := ← fs.optional 1 "execution-timeout-ms" Tree.word64?
    instructions := ← fs.optional 2 "instruction-limit" Tree.word64?
    fileOpsPerSecond := ← fs.optional 3 "file-ops-per-second" Tree.word32?
    networkRequestsPerSecond := ← fs.optional 4 "network-requests-per-second" Tree.word32?
    tasks := ← fs.optional 5 "max-tasks" Tree.word32?
    output := ← fs.optional 6 "max-output-size" Tree.word64? }

def Overrides.toJson (o : Overrides) : Json :=
  .object
    [ ("memory-limit", .ofOption (.nat ·.toNat) o.memory),
      ("execution-timeout-ms", .ofOption (.nat ·.toNat) o.timeoutMs),
      ("instruction-limit", .ofOption (.nat ·.toNat) o.instructions),
      ("file-ops-per-second", .ofOption (.nat ·.toNat) o.fileOpsPerSecond),
      ("network-requests-per-second", .ofOption (.nat ·.toNat) o.networkRequestsPerSecond),
      ("max-tasks", .ofOption (.nat ·.toNat) o.tasks),
      ("max-output-size", .ofOption (.nat ·.toNat) o.output) ]

end PluginSandbox
