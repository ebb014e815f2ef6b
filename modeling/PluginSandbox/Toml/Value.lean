import PluginSandbox.Toml.Number
import PluginSandbox.Toml.Table

/-!
# Values in TOML

Strings, numbers, moments, truth values, arrays and inline tables. Every reader here takes fuel
for the characters left and the depth of arrays and inline tables that is left.
-/

namespace PluginSandbox.Toml

/-- What begins with a digit or a sign: a moment, else a fraction, else a whole number. -/
def number? (cs : List Char) : Option (Tree × List Char) :=
  match moment? cs with
  | some rest => some (.moment, rest)
  | none =>
    match fraction? cs with
    | some rest => some (.fraction, rest)
    | none =>
      match namedNumber? (sign cs).2 with
      | some rest => some (.fraction, rest)
      | none => (whole? cs).map fun (n, rest) => (.whole n, rest)

mutual

def value? : Nat → Nat → List Char → Option (Tree × List Char)
  | 0, _, _ => none
  | fuel + 1, depth, cs =>
    match cs with
    | '"' :: _ | '\'' :: _ => (string? cs).map fun (s, rest) => (.text (String.ofList s), rest)
    | 't' :: 'r' :: 'u' :: 'e' :: rest => some (.flag true, rest)
    | 'f' :: 'a' :: 'l' :: 's' :: 'e' :: rest => some (.flag false, rest)
    | '[' :: rest =>
      match depth with
      | 0 => none
      | depth + 1 => do
        let (items, rest) ← arrayItems? fuel depth [] rest
        return (.list items, rest)
    | '{' :: rest =>
      match depth with
      | 0 => none
      | depth + 1 => do
        let (entries, rest) ← inlineEntries? fuel depth [] rest
        return (.table (entryTrees entries), rest)
    | _ => number? cs

/-- The items of an array from here on; `before` holds those already read, the last first. -/
def arrayItems? : Nat → Nat → List Tree → List Char → Option (List Tree × List Char)
  | 0, _, _, _ => none
  | fuel + 1, depth, before, cs => do
    match ← skipLines? (cs.length + 1) cs with
    | ']' :: rest => return (before.reverse, rest)
    | cs =>
      let (item, cs) ← value? fuel depth cs
      match ← skipLines? (cs.length + 1) cs with
      | ',' :: rest => arrayItems? fuel depth (item :: before) rest
      | ']' :: rest => return ((item :: before).reverse, rest)
      | _ => none

/-- The entries of an inline table, which stands on one line and has no trailing comma. -/
def inlineEntries? : Nat → Nat → Entries → List Char → Option (Entries × List Char)
  | 0, _, _, _ => none
  | fuel + 1, depth, before, cs => do
    match skipBlanks cs with
    | '}' :: rest => if before.isEmpty then return (before, rest) else none
    | cs =>
      let (key, cs) ← key? cs
      let (value, cs) ← value? fuel depth (skipBlanks (← skip? '=' cs))
      let entries ← insertKey key value before
      match skipBlanks cs with
      | ',' :: rest => inlineEntries? fuel depth entries rest
      | '}' :: rest => return (entries, rest)
      | _ => none

end

end PluginSandbox.Toml
