import PluginSandbox.Limits
import PluginSandbox.Permission

/-!
# The host's policy

Which plugins may load, under which limits each one runs, and which capabilities no manifest can
ask for.
-/

namespace PluginSandbox

inductive Admission where
  | allowlist
  | denylist
  | unrestricted
deriving DecidableEq, Inhabited

namespace Admission

def text : Admission → String
  | allowlist => "allowlist"
  | denylist => "denylist"
  | unrestricted => "unrestricted"

def ofText? : String → Option Admission
  | "allowlist" => some allowlist
  | "denylist" => some denylist
  | "unrestricted" => some unrestricted
  | _ => none

end Admission

structure Policy where
  mode : Admission := .unrestricted
  pluginIds : List String := []
  trusted : List String := []
  untrusted : List String := []
  defaultPreset : Preset := .default
  overrides : Overrides := .none
  denied : List Capability := []
  queueCapacity : UInt64 := 256
deriving DecidableEq, Inhabited

namespace Policy

/-- A queue holds at least one job. -/
def effectiveQueueCapacity (p : Policy) : Nat :=
  max p.queueCapacity.toNat 1

def admits (p : Policy) (plugin : String) : Bool :=
  match p.mode with
  | .unrestricted => true
  | .allowlist => p.pluginIds.contains plugin
  | .denylist => !p.pluginIds.contains plugin

/-- A plugin listed both ways is untrusted. -/
def presetFor (p : Policy) (plugin : String) : Preset :=
  if p.untrusted.contains plugin then .strict
  else if p.trusted.contains plugin then .relaxed
  else p.defaultPreset

def limitsFor (p : Policy) (plugin : String) : Limits :=
  p.overrides.apply (p.presetFor plugin).limits

def denies (p : Policy) (c : Capability) : Bool :=
  p.denied.any (·.implies c)

/-- Some denial is nested strictly under `c`. -/
def deniesWithin (p : Policy) (c : Capability) : Bool :=
  p.denied.any (·.isNested c)

/-- What is left of a requested capability. One with a denial below it is narrowed to its
registered children; a leaf of the registry is kept, and the denial has to be carried along. -/
def narrow (p : Policy) (c : Capability) : List Capability :=
  if p.denies c then []
  else if !p.deniesWithin c || c.children.isEmpty then [c]
  else c.children.attach.flatMap fun ⟨d, _⟩ => p.narrow d
termination_by 20 - c.name.length
decreasing_by
  have := Capability.length_lt_of_mem_children ‹_›
  omega

def narrowAll (p : Policy) (cs : List Capability) : List Capability :=
  (cs.flatMap p.narrow).foldl (fun kept c => c.addTo kept) []

/-- Adds the policy's denials below what is kept to those of the request. -/
def carryDenials (p : Policy) (kept requested : List Capability) : List Capability :=
  (p.denied.filter fun d => kept.any (·.implies d)).foldl (fun ds d => d.addTo ds) requested

/-- The request without what the policy denies; paths and hosts pass through. -/
def filter (p : Policy) (s : PermissionSet) : PermissionSet :=
  let kept := p.narrowAll s.capabilities
  { s with capabilities := kept, deniedCapabilities := p.carryDenials kept s.deniedCapabilities }

end Policy

end PluginSandbox
