import PluginSandbox.Policy.Format
import PluginSandbox.Toml.Document

/-!
# Policy files

A host reads its policy from a TOML file. A missing file means the defaults, and so does one that
cannot be read or is malformed.
-/

namespace PluginSandbox

inductive PolicyFile where
  | absent
  | unreadable
  | text (contents : String)

namespace PolicyFile

/-- Bytes that are no UTF-8 cannot be read as a policy. -/
def ofBytes (bytes : List UInt8) : PolicyFile :=
  match String.fromUTF8? ⟨bytes.toArray⟩ with
  | some s => text s
  | none => unreadable

def isPresent : PolicyFile → Bool
  | absent => false
  | _ => true

end PolicyFile

namespace Policy

def parse? (text : String) : Option Policy :=
  (Toml.parse? text).bind (decodeFile? .toml)

/-- The policy in a file; never an error. -/
def load : PolicyFile → Policy
  | .text s => (parse? s).getD {}
  | _ => {}

end Policy

end PluginSandbox
