import PluginSandbox.Text.Lowercase

/-!
# Hosts and host patterns

A connection goes to a host, written alone or with a port. A pattern is a host, or `*.` and a
suffix, which stands for every proper subdomain of the suffix and not for the suffix itself.
-/

namespace PluginSandbox.Network

/-! ## The host of a target -/

def isBracket (c : Char) : Bool :=
  c == '[' || c == ']'

def cut? (mark : Char) (cs : List Char) : Option (List Char × List Char) :=
  match cs.dropWhile (· != mark) with
  | [] => none
  | _ :: after => some (cs.takeWhile (· != mark), after)

/-- The host of `host:port` or `[host]:port`. A host that holds a colon needs its brackets, and
no other bracket may stand anywhere. -/
def hostBeforePort? (target : List Char) : Option (List Char) :=
  match target with
  | '[' :: rest =>
    match cut? ']' rest with
    | some (host, ':' :: port) =>
      if port.contains ':' || host.any isBracket || port.any isBracket then none else some host
    | _ => none
  | _ =>
    match cut? ':' target with
    | some (host, port) =>
      if port.contains ':' || host.any isBracket || port.any isBracket then none else some host
    | none => none

def inBrackets? (cs : List Char) : Option (List Char) :=
  match cs with
  | '[' :: rest => if rest.getLast? = some ']' then some rest.dropLast else none
  | _ => none

/-- A target without a port may be in brackets; any other is the host itself. -/
def hostChars (target : List Char) : List Char :=
  match hostBeforePort? target with
  | some host => host
  | none => (inBrackets? target).getD target

def host (target : String) : String :=
  String.ofList (hostChars target.toList)

/-! ## Patterns -/

/-- Stored patterns are trimmed, freed of one pair of brackets and in lower case. -/
def canonicalPattern (pattern : String) : String :=
  let trimmed := Text.trim pattern.toList
  String.ofList (Text.lowerChars ((inBrackets? trimmed).getD trimmed))

def dropTail? (tail cs : List Char) : Option (List Char) :=
  if tail.isSuffixOf cs then some (cs.take (cs.length - tail.length)) else none

/-- Both sides are expected in lower case. -/
def hostMatches (pattern host : String) : Bool :=
  pattern == host ||
    match pattern.toList with
    | '*' :: '.' :: suffix =>
      match dropTail? suffix host.toList with
      | some label => 1 < label.length && label.getLast? == some '.'
      | none => false
    | _ => false

end PluginSandbox.Network
