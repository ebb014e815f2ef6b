import PluginSandbox.Limits.Format
import PluginSandbox.Permission.Format
import PluginSandbox.Policy

/-!
# Policies in documents

A policy is written with every field, and a policy file names what differs from the defaults.
-/

namespace PluginSandbox

def Admission.decode? (how : DataFormat) (t : Tree) : Option Admission :=
  t.choice? how Admission.ofText?

namespace Policy

/-- Every field is required. -/
def decode? (how : DataFormat) (t : Tree) : Option Policy := do
  let fs ← t.fields? how 8
  return {
    mode := ← fs.required 0 "mode" (Admission.decode? how)
    pluginIds := ← fs.required 1 "plugin_ids" Tree.texts?
    trusted := ← fs.required 2 "trusted_plugins" Tree.texts?
    untrusted := ← fs.required 3 "untrusted_plugins" Tree.texts?
    defaultPreset := ← fs.required 4 "default_preset" (Preset.decode? how)
    overrides := ← fs.required 5 "limit_overrides" (Overrides.decode? how)
    denied := ← fs.required 6 "denied_capabilities" (Tree.list? Capability.decode?)
    queueCapacity := ← fs.required 7 "queue_capacity" Tree.word64? }

def toJson (p : Policy) : Json :=
  .object
    [ ("mode", .str p.mode.text),
      ("plugin_ids", .strs p.pluginIds),
      ("trusted_plugins", .strs p.trusted),
      ("untrusted_plugins", .strs p.untrusted),
      ("default_preset", .str p.defaultPreset.text),
      ("limit_overrides", p.overrides.toJson),
      ("denied_capabilities", Capability.listToJson p.denied),
      ("queue_capacity", .nat p.queueCapacity.toNat) ]

/-! ## Policy files -/

structure PluginLists where
  ids : List String := []
  trusted : List String := []
  untrusted : List String := []

def PluginLists.decode? (how : DataFormat) (t : Tree) : Option PluginLists := do
  let fs ← t.fields? how 3
  return {
    ids := ← fs.defaulted 0 "ids" Tree.texts? []
    trusted := ← fs.defaulted 1 "trusted" Tree.texts? []
    untrusted := ← fs.defaulted 2 "untrusted" Tree.texts? [] }

/-- The section of a policy file. What is missing has its default. -/
def decodeSection? (how : DataFormat) (t : Tree) : Option Policy := do
  let fs ← t.fields? how 6
  let lists ← fs.defaulted 4 "plugins" (PluginLists.decode? how) {}
  return {
    mode := ← fs.defaulted 0 "mode" (Admission.decode? how) .unrestricted
    defaultPreset := ← fs.defaulted 1 "default-preset" (Preset.decode? how) .default
    queueCapacity := ← fs.defaulted 2 "queue-capacity" Tree.word64? 256
    denied := ← fs.defaulted 3 "denied-capabilities" (Tree.list? Capability.decode?) []
    pluginIds := lists.ids
    trusted := lists.trusted
    untrusted := lists.untrusted
    overrides := ← fs.defaulted 5 "limits" (Overrides.decode? how) .none }

/-- A policy file holds one section, or nothing but defaults. -/
def decodeFile? (how : DataFormat) (t : Tree) : Option Policy := do
  let fs ← t.fields? how 1
  fs.defaulted 0 "policy" (decodeSection? how) {}

end Policy

end PluginSandbox
