import PluginSandbox.Permission
import PluginSandbox.Tree

/-!
# Permissions in documents

The written form of capabilities and permission sets.
-/

namespace PluginSandbox

def Capability.decode? (t : Tree) : Option Capability :=
  t.text?.map .mk

def Capability.toJson (c : Capability) : Json :=
  .str c.name

def Capability.listToJson (cs : List Capability) : Json :=
  .strs (cs.map (·.name))

def Capability.Info.toJson (i : Info) : Json :=
  .object
    [ ("name", i.name.toJson),
      ("display_name", .str i.title),
      ("description", .str i.description),
      ("parent", .ofOption Capability.toJson i.parent),
      ("risk", .str i.risk.text),
      ("requires_user_approval", .bool i.needsApproval) ]

/-- A list that is missing is empty. -/
def PermissionSet.decode? (how : DataFormat) (t : Tree) : Option PermissionSet := do
  let fs ← t.fields? how 6
  let capabilities := Tree.list? Capability.decode?
  return {
    capabilities := ← fs.defaulted 0 "capabilities" capabilities []
    allowedPaths := ← fs.defaulted 1 "allowed-paths" Tree.texts? []
    blockedPaths := ← fs.defaulted 2 "blocked-paths" Tree.texts? []
    allowedHosts := ← fs.defaulted 3 "allowed-hosts" Tree.texts? []
    blockedHosts := ← fs.defaulted 4 "blocked-hosts" Tree.texts? []
    deniedCapabilities := ← fs.defaulted 5 "denied-capabilities" capabilities [] }

def PermissionSet.members (s : PermissionSet) : List (String × Json) :=
  [ ("capabilities", Capability.listToJson s.capabilities),
    ("allowed-paths", .strs s.allowedPaths),
    ("blocked-paths", .strs s.blockedPaths),
    ("allowed-hosts", .strs s.allowedHosts),
    ("blocked-hosts", .strs s.blockedHosts) ] ++
  if s.deniedCapabilities.isEmpty then []
  else [("denied-capabilities", Capability.listToJson s.deniedCapabilities)]

def PermissionSet.toJson (s : PermissionSet) : Json :=
  .object s.members

end PluginSandbox
