import PluginSandbox.Network
import PluginSandbox.Path
import PluginSandbox.Permission
import PluginSandbox.Text.Quoted

/-!
# The permission checker

What one loaded plugin may do. A grant covers everything nested under it but what a denial covers.
A blocked path or host is refused before anything else is looked at; where anything is allowed,
only what is allowed passes; the workspace bounds file access only where no path is allowed.
-/

namespace PluginSandbox

/-- The grants and rules in force. Paths are stored in normal form and hosts as canonical
patterns, each once. -/
structure Checker where
  granted : List Capability := []
  denied : List Capability := []
  allowedPaths : List String := []
  blockedPaths : List String := []
  workspace : Option String := none
  allowedHosts : List String := []
  blockedHosts : List String := []
deriving DecidableEq, Inhabited

namespace Checker

/-! ## Capabilities -/

def grant (k : Checker) (c : Capability) : Checker :=
  { k with granted := c.addTo k.granted }

def grantAll (k : Checker) (cs : List Capability) : Checker :=
  cs.foldl grant k

/-- Takes back exactly `c`; a broader grant still covers it. -/
def revoke (k : Checker) (c : Capability) : Checker :=
  { k with granted := k.granted.filter (· != c) }

def deny (k : Checker) (c : Capability) : Checker :=
  { k with denied := c.addTo k.denied }

/-- Some grant implies `c` and no denial does. -/
def has (k : Checker) (c : Capability) : Bool :=
  !k.denied.any (·.implies c) && k.granted.any (·.implies c)

def grantedSorted (k : Checker) : List Capability :=
  Capability.sort k.granted

def demand (k : Checker) (c : Capability) (operation : String) : Except Denial Unit :=
  if k.has c then .ok () else .error ⟨c, operation, Denial.notGranted⟩

def checkCapability (k : Checker) (c : Capability) : Except Denial Unit :=
  k.demand c ""

/-! ## Files -/

def addOnce (item : String) (items : List String) : List String :=
  if item ∈ items then items else items ++ [item]

def allowPath (cwd : Option String) (k : Checker) (p : String) : Checker :=
  { k with allowedPaths := addOnce (Path.normalize cwd p) k.allowedPaths }

def blockPath (cwd : Option String) (k : Checker) (p : String) : Checker :=
  { k with blockedPaths := addOnce (Path.normalize cwd p) k.blockedPaths }

def setWorkspace (cwd : Option String) (k : Checker) (p : String) : Checker :=
  { k with workspace := some (Path.normalize cwd p) }

/-- Which rule, if any, keeps a holder of the capability from the normalized `target`. -/
def pathRefusal? (k : Checker) (target : String) : Option String :=
  if k.blockedPaths.any (Path.isWithin · target) then some Denial.pathBlocked
  else if !k.allowedPaths.isEmpty then
    if k.allowedPaths.any (Path.isWithin · target) then none else some Denial.pathNotAllowed
  else
    match k.workspace with
    | some w => if Path.isWithin w target then none else some Denial.pathOutsideWorkspace
    | none => none

def checkPath (cwd : Option String) (k : Checker) (c : Capability) (verb p : String) :
    Except Denial Unit :=
  let target := Path.normalize cwd p
  let operation := verb ++ " " ++ target
  if !k.has c then .error ⟨c, operation, Denial.notGranted⟩
  else
    match k.pathRefusal? target with
    | some reason => .error ⟨c, operation, reason⟩
    | none => .ok ()

def checkRead (cwd : Option String) (k : Checker) (p : String) : Except Denial Unit :=
  k.checkPath cwd .filesystemRead "read" p

def checkWrite (cwd : Option String) (k : Checker) (p : String) : Except Denial Unit :=
  k.checkPath cwd .filesystemWrite "write" p

/-! ## Network -/

def allowHost (k : Checker) (pattern : String) : Checker :=
  { k with allowedHosts := addOnce (Network.canonicalPattern pattern) k.allowedHosts }

def blockHost (k : Checker) (pattern : String) : Checker :=
  { k with blockedHosts := addOnce (Network.canonicalPattern pattern) k.blockedHosts }

/-- Which rule, if any, keeps a holder of `network` from the lowercase `host`. -/
def hostRefusal? (k : Checker) (host : String) : Option String :=
  if k.blockedHosts.any (Network.hostMatches · host) then some Denial.hostBlocked
  else if !k.allowedHosts.isEmpty && !k.allowedHosts.any (Network.hostMatches · host) then
    some Denial.hostNotAllowed
  else none

def checkNetwork (k : Checker) (target : String) : Except Denial Unit :=
  let operation := "connect " ++ target
  if !k.has .network then .error ⟨.network, operation, Denial.notGranted⟩
  else
    match k.hostRefusal? (Text.lowercase (Network.host target)) with
    | some reason => .error ⟨.network, operation, reason⟩
    | none => .ok ()

/-! ## Operations that only need their capability -/

def checkShell (k : Checker) (command : String) : Except Denial Unit :=
  k.demand .shell ("shell command " ++ Text.quote command)

def checkProcess (k : Checker) (program : String) : Except Denial Unit :=
  k.demand .process ("spawn " ++ program)

def checkClipboard (k : Checker) (action : String) : Except Denial Unit :=
  k.demand .clipboard ("clipboard " ++ action)

/-! ## Whole sets -/

def apply (cwd : Option String) (k : Checker) (s : PermissionSet) : Checker :=
  let k := s.capabilities.foldl grant k
  let k := s.deniedCapabilities.foldl deny k
  let k := s.allowedPaths.foldl (allowPath cwd) k
  let k := s.blockedPaths.foldl (blockPath cwd) k
  let k := s.allowedHosts.foldl allowHost k
  s.blockedHosts.foldl blockHost k

def ofPermissions (cwd : Option String) (s : PermissionSet) : Checker :=
  apply cwd {} s

/-- The state as a permission set, capabilities by name. The workspace is not part of it. -/
def snapshot (k : Checker) : PermissionSet where
  capabilities := Capability.sort k.granted
  allowedPaths := k.allowedPaths
  blockedPaths := k.blockedPaths
  allowedHosts := k.allowedHosts
  blockedHosts := k.blockedHosts
  deniedCapabilities := Capability.sort k.denied

end Checker

end PluginSandbox
