import PluginSandbox.Capability.Registry

/-!
# Permissions

What a plugin's manifest asks for: capabilities, the paths and hosts they reach, and the parts of
broader grants it does without. A check that fails answers with a denial: the capability that was
needed, what for, and why not.
-/

namespace PluginSandbox

/-! ## Requests -/

/-- A declared request. Paths and hosts are kept as written. -/
structure PermissionSet where
  capabilities : List Capability := []
  allowedPaths : List String := []
  blockedPaths : List String := []
  allowedHosts : List String := []
  blockedHosts : List String := []
  deniedCapabilities : List Capability := []
deriving DecidableEq, Inhabited

namespace PermissionSet

def withCapability (s : PermissionSet) (c : Capability) : PermissionSet :=
  { s with capabilities := s.capabilities ++ [c] }

def withAllowedPath (s : PermissionSet) (p : String) : PermissionSet :=
  { s with allowedPaths := s.allowedPaths ++ [p] }

def withBlockedPath (s : PermissionSet) (p : String) : PermissionSet :=
  { s with blockedPaths := s.blockedPaths ++ [p] }

def withAllowedHost (s : PermissionSet) (h : String) : PermissionSet :=
  { s with allowedHosts := s.allowedHosts ++ [h] }

def withBlockedHost (s : PermissionSet) (h : String) : PermissionSet :=
  { s with blockedHosts := s.blockedHosts ++ [h] }

def withDeniedCapability (s : PermissionSet) (c : Capability) : PermissionSet :=
  { s with deniedCapabilities := s.deniedCapabilities ++ [c] }

def needingApproval (s : PermissionSet) : List Capability :=
  s.capabilities.filter fun c => c.info?.any (·.needsApproval)

def unknown (s : PermissionSet) : List Capability :=
  s.capabilities.filter fun c => !c.isRegistered

end PermissionSet

/-! ## Denials -/

/-- A refused operation. A check that guards no particular operation leaves `operation` empty. -/
structure Denial where
  capability : Capability
  operation : String
  reason : String
deriving DecidableEq, Inhabited

namespace Denial

def notGranted : String := "not granted"
def pathBlocked : String := "path is blocked"
def pathNotAllowed : String := "path not in allowed list"
def pathOutsideWorkspace : String := "path outside workspace"
def hostBlocked : String := "host is blocked"
def hostNotAllowed : String := "host not in allowed list"

/-- The capability itself is missing, rather than a path or host rule in the way. -/
def isNotGranted (d : Denial) : Bool :=
  d.reason == notGranted

def message (d : Denial) : String :=
  if d.operation.isEmpty then
    "capability \"" ++ d.capability.name ++ "\": " ++ d.reason
  else
    "capability \"" ++ d.capability.name ++ "\" required for " ++ d.operation ++ ": " ++ d.reason

end Denial

end PluginSandbox
