import PluginSandbox.Bucket
import PluginSandbox.Limits

/-!
# Resource accounting

What one plugin has used, against its limits. The first breach latches the monitor; later ones go
on counting but do not replace it, and only a full reset clears it.
-/

namespace PluginSandbox

inductive Breach where
  | instructions
  | memory
  | tasks
  | output
deriving DecidableEq

namespace Breach

def text : Breach → String
  | instructions => "instructions"
  | memory => "memory"
  | tasks => "tasks"
  | output => "output"

def reason : Breach → String
  | instructions => "instruction limit exceeded"
  | memory => "memory limit exceeded"
  | tasks => "task limit exceeded"
  | output => "output size limit exceeded"

end Breach

structure Ceilings where
  instructions : UInt64
  memory : UInt64
  tasks : UInt32
  output : UInt64
deriving DecidableEq

def Limits.ceilings (l : Limits) : Ceilings :=
  ⟨l.instructions, l.memory, l.tasks, l.output⟩

structure Usage where
  instructions : UInt64
  memory : UInt64
  tasks : UInt32
  output : UInt64
  exceeded : Bool
  reason : Option String
deriving DecidableEq

/-- The counters are words and wrap; the rates are enforced by one bucket each. The ceilings stand
beside the limits so that accounting need not read these, and a flag beside the latch. -/
structure Monitor where
  limits : Limits
  ceilings : Ceilings
  instructions : UInt64 := 0
  memory : UInt64 := 0
  tasks : UInt32 := 0
  output : UInt64 := 0
  exceeded : Bool := false
  latch : Option Breach := none
  fileOps : Bucket
  networkRequests : Bucket
deriving DecidableEq

namespace Monitor

def start (limits : Limits) (now : Nat) : Monitor where
  limits := limits
  ceilings := limits.ceilings
  fileOps := .full limits.fileOpsPerSecond now
  networkRequests := .full limits.networkRequestsPerSecond now

def isExceeded (m : Monitor) : Bool :=
  m.exceeded

def reason? (m : Monitor) : Option String :=
  m.latch.map Breach.reason

def usage (m : Monitor) : Usage where
  instructions := m.instructions
  memory := m.memory
  tasks := m.tasks
  output := m.output
  exceeded := m.latch.isSome
  reason := m.reason?

/-! ## Accounting -/

def latchOnce (m : Monitor) (kind : Breach) : Monitor :=
  match m.latch with
  | none => { m with latch := some kind, exceeded := true }
  | some _ => m

/-- Whether `value` is over `limit`; the first time that something is, it is latched. -/
def check (m : Monitor) (kind : Breach) (value limit : Nat) : Bool × Monitor :=
  if 0 < limit ∧ limit < value then (true, m.latchOnce kind) else (false, m)

/-- The counter wraps; what is compared stops at the largest count. -/
def addInstructions (m : Monitor) (n : UInt64) : Bool × Monitor :=
  let total := min (UInt64.size - 1) (m.instructions.toNat + n.toNat)
  check { m with instructions := m.instructions + n } .instructions total
    m.ceilings.instructions.toNat

def setMemory (m : Monitor) (bytes : UInt64) : Bool × Monitor :=
  check { m with memory := bytes } .memory bytes.toNat m.ceilings.memory.toNat

def startTask (m : Monitor) : Bool × Monitor :=
  let count := min (UInt32.size - 1) (m.tasks.toNat + 1)
  check { m with tasks := m.tasks + 1 } .tasks count m.ceilings.tasks.toNat

/-- Stops at zero. -/
def endTask (m : Monitor) : Monitor :=
  { m with tasks := if m.tasks = 0 then 0 else m.tasks - 1 }

def addOutput (m : Monitor) (n : UInt64) : Bool × Monitor :=
  let total := min (UInt64.size - 1) (m.output.toNat + n.toNat)
  check { m with output := m.output + n } .output total m.ceilings.output.toNat

/-- `false` denies the operation now; a denial latches nothing. -/
def tryFileOp (m : Monitor) (now : Nat) : Bool × Monitor :=
  let (ok, bucket) := m.fileOps.allow now
  (ok, { m with fileOps := bucket })

def tryNetworkRequest (m : Monitor) (now : Nat) : Bool × Monitor :=
  let (ok, bucket) := m.networkRequests.allow now
  (ok, { m with networkRequests := bucket })

/-! ## Resets and limits -/

def resetInstructions (m : Monitor) : Monitor :=
  { m with instructions := 0 }

def resetOutput (m : Monitor) : Monitor :=
  { m with output := 0 }

def reset (m : Monitor) (now : Nat) : Monitor where
  limits := m.limits
  ceilings := m.ceilings
  fileOps := m.fileOps.reset now
  networkRequests := m.networkRequests.reset now

/-- Counters and latch stay; a bucket is replaced by a full one only if its rate changes. -/
def setLimits (m : Monitor) (limits : Limits) (now : Nat) : Monitor :=
  { m with
    limits := limits
    ceilings := limits.ceilings
    fileOps :=
      if m.limits.fileOpsPerSecond = limits.fileOpsPerSecond then m.fileOps
      else .full limits.fileOpsPerSecond now
    networkRequests :=
      if m.limits.networkRequestsPerSecond = limits.networkRequestsPerSecond then m.networkRequests
      else .full limits.networkRequestsPerSecond now }

end Monitor

end PluginSandbox
