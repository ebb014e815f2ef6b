/-!
# Capabilities

A capability is a dotted name such as `filesystem.read`. One is nested under another when its name
continues the other's with a dot, and holding a capability implies everything nested under it.
-/

namespace PluginSandbox

/-- A hierarchical permission identifier. Names outside the registry are capabilities too. -/
structure Capability where
  name : String
deriving DecidableEq, Inhabited

namespace Capability

/-- Everything before the last dot; nothing if there is no dot. -/
def parentChars (cs : List Char) : Option (List Char) :=
  match cs.reverse.dropWhile (· != '.') with
  | [] => none
  | _ :: before => some before.reverse

/-- The enclosing capability by name alone, registered or not. -/
def parent? (c : Capability) : Option Capability :=
  (parentChars c.name.toList).map fun cs => ⟨String.ofList cs⟩

/-- `child` is `parent`, a dot, and anything. -/
def isNested (child parent : Capability) : Bool :=
  (parent.name.toList ++ ['.']).isPrefixOf child.name.toList

/-- Holding `granted` satisfies a requirement for `required`. -/
def implies (granted required : Capability) : Bool :=
  granted == required || required.isNested granted

/-- The order of the names, by code points. -/
def order (a b : Capability) : Ordering :=
  compare a.name b.name

def sort (cs : List Capability) : List Capability :=
  cs.mergeSort fun a b => (order a b).isLE

/-- A list read as a set: what is there already is not added again. -/
def addTo (c : Capability) (cs : List Capability) : List Capability :=
  if c ∈ cs then cs else cs ++ [c]

end Capability

end PluginSandbox
