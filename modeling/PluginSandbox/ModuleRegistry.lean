import PluginSandbox.Permission.Checker

/-!
# Host modules

The parts of the host that a script can import. Each needs a capability, and a plugin sees only
those whose capability its checker holds.
-/

namespace PluginSandbox

/-- A part of the host and the capability that gives access to it. -/
structure HostModule where
  name : String
  capability : Capability
deriving DecidableEq

/-- The modules in the order in which their names were first registered. -/
structure ModuleRegistry where
  modules : List HostModule := []

namespace ModuleRegistry

/-- Replaces the module of the same name in its place, or adds one at the end. -/
def register (r : ModuleRegistry) (name : String) (capability : Capability) : ModuleRegistry :=
  if r.modules.any (·.name == name) then
    ⟨r.modules.map fun m => if m.name = name then ⟨name, capability⟩ else m⟩
  else ⟨r.modules ++ [⟨name, capability⟩]⟩

def ofList (modules : List HostModule) : ModuleRegistry :=
  modules.foldl (fun r m => r.register m.name m.capability) {}

def standard : ModuleRegistry :=
  ofList
    [ ⟨"buffer", .editorBuffer⟩, ⟨"cursor", .editorCursor⟩, ⟨"command", .commands⟩,
      ⟨"event", .events⟩, ⟨"config", .configRead⟩, ⟨"ui", .ui⟩, ⟨"lsp", .lsp⟩,
      ⟨"integration", .integration⟩ ]

def get? (r : ModuleRegistry) (name : String) : Option HostModule :=
  r.modules.find? (·.name == name)

def exposedTo (r : ModuleRegistry) (k : Checker) : List HostModule :=
  r.modules.filter fun m => k.has m.capability

end ModuleRegistry

end PluginSandbox
