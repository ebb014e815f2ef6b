import PluginSandbox.Text.Properties

/-!
# Subscription identifiers

A 128-bit identifier, written as 32 hexadecimal digits in groups of 8, 4, 4, 4 and 12. It is read
with or without the hyphens, in either case, and with hyphens also inside braces or after
`urn:uuid:`.
-/

namespace PluginSandbox

structure SubscriptionId where
  value : Nat
deriving DecidableEq, Inhabited

namespace SubscriptionId

/-! ## Writing -/

def hexDigits (value : Nat) : Nat → List Char
  | 0 => []
  | n + 1 => hexDigits (value / 16) n ++ [Nat.digitChar (value % 16)]

def group : List Nat → List Char → List Char
  | [], cs => cs
  | n :: ns, cs => cs.take n ++ '-' :: group ns (cs.drop n)

def text (i : SubscriptionId) : String :=
  String.ofList (group [8, 4, 4, 4] (hexDigits i.value 32))

/-! ## Reading -/

/-- Thirty-two digits and nothing else. -/
def ofDigits? (cs : List Char) : Option SubscriptionId := do
  let ds ← cs.mapM Text.hexDigit?
  if ds.length = 32 then some ⟨ds.foldl (fun acc d => acc * 16 + d) 0⟩ else none

def ungroup? : List Nat → List Char → Option (List Char)
  | [], cs => some cs
  | n :: ns, cs =>
    match cs.drop n with
    | '-' :: rest => (ungroup? ns rest).map (cs.take n ++ ·)
    | _ => none

def ofHyphenated? (cs : List Char) : Option SubscriptionId :=
  (ungroup? [8, 4, 4, 4] cs).bind ofDigits?

def inBraces? : List Char → Option (List Char)
  | '\x7b' :: rest => if rest.getLast? = some '\x7d' then some rest.dropLast else none
  | _ => none

/-- The text after `urn:uuid:`, which may be in any case. -/
def afterUrn? (cs : List Char) : Option (List Char) :=
  if (cs.take 9).map Char.toLower = "urn:uuid:".toList then some (cs.drop 9) else none

def parse? (s : String) : Option SubscriptionId :=
  let cs := s.toList
  match inBraces? cs with
  | some inner => ofHyphenated? inner
  | none =>
    match afterUrn? cs with
    | some rest => ofHyphenated? rest
    | none => (ofDigits? cs).or (ofHyphenated? cs)

end SubscriptionId

end PluginSandbox
