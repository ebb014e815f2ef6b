import PluginSandbox.Toml.Value

/-!
# TOML documents

A document is read line by line. The entries of a table are collected while it is open, and the
table takes its place in the document when the next header or the end comes.
-/

namespace PluginSandbox.Toml

/-- Where the open table goes: it is the document itself, has a place of its own, or is one more
of a list of tables. -/
inductive Place where
  | document
  | single (path : List String) (key : String)
  | row (path : List String) (key : String)

structure Draft where
  root : Entries := []
  place : Place := .document
  current : Entries := []

namespace Draft

def close? (d : Draft) : Option Entries :=
  match d.place with
  | .document => some d.current
  | .single path key =>
    within .passage (fun _ => insertNew key (.table .header d.current)) path .header d.root
  | .row path key =>
    let change := fun (_ : Opening) (entries : Entries) =>
      match entries.lookup key with
      | none => some (entries ++ [(key, Item.tables [d.current])])
      | some (.tables rows) => some (entries.replace key (.tables (rows ++ [d.current])))
      | some _ => none
    within .passage change path .header d.root

def find? (key : String) : List String → Entries → Option Item
  | [], entries => entries.lookup key
  | k :: path, entries =>
    match entries.lookup k with
    | some (.table _ inner) => find? key path inner
    | some (.tables rows) =>
      match rows.getLast? with
      | some row => find? key path row
      | none => none
    | _ => none

def without (key : String) (entries : Entries) : Entries :=
  entries.filter (·.1 != key)

/-- Opens a table by its header. Only one that was passed on the way to another can be opened
again, with what it holds by then. -/
def openTable? (d : Draft) (name : List String) : Option Draft := do
  let root ← d.close?
  let (path, key) ← splitLast? name
  match find? key path root with
  | none => return { root, place := .single path key }
  | some (.table .passage inner) =>
    let root ← within .passage (fun _ entries => some (without key entries)) path .header root
    return { root, place := .single path key, current := inner }
  | some _ => none

def openRow? (d : Draft) (name : List String) : Option Draft := do
  let root ← d.close?
  let (path, key) ← splitLast? name
  match find? key path root with
  | none | some (.tables _) => return { root, place := .row path key }
  | some _ => none

def addKey? (d : Draft) (key : List String) (value : Tree) : Option Draft :=
  (insertKey key value d.current).map fun current => { d with current }

end Draft

/-- The lines from here on; `fuel` bounds their number. -/
def lines? : Nat → Draft → List Char → Option Draft
  | 0, _, _ => none
  | fuel + 1, d, cs =>
    match skipBlanks cs with
    | [] => some d
    | '[' :: '[' :: rest => do
      let (name, rest) ← key? rest
      let rest ← restOfLine? (← skip? ']' (← skip? ']' rest))
      lines? fuel (← d.openRow? name) rest
    | '[' :: rest => do
      let (name, rest) ← key? rest
      let rest ← restOfLine? (← skip? ']' rest)
      lines? fuel (← d.openTable? name) rest
    | c :: rest =>
      if c = '#' ∨ c = '\n' ∨ c = '\r' then do
        lines? fuel d (← restOfLine? (c :: rest))
      else do
        let (key, rest) ← key? (c :: rest)
        let rest := skipBlanks (← skip? '=' rest)
        let (value, rest) ← value? (2 * rest.length + 2) (depthLimit - 1) rest
        lines? fuel (← d.addKey? key value) (← restOfLine? rest)

/-- A byte order mark at the start is passed over. -/
def skipMark : List Char → List Char
  | '\ufeff' :: rest => rest
  | cs => cs

def parse? (text : String) : Option Tree := do
  let cs := skipMark text.toList
  let d ← lines? (cs.length + 1) {} cs
  let root ← d.close?
  return .table (entryTrees root)

end PluginSandbox.Toml
