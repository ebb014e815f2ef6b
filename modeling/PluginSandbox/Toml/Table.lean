import PluginSandbox.Tree

/-!
# Tables of a TOML document

A table can be opened by a header, by the dots of a key, or on the way to another table, and how
it was opened decides what may still be added to it.
-/

namespace PluginSandbox.Toml

/-- How a table came to be: by a header of its own, on the way to another header, or by a dotted
key. -/
inductive Opening where
  | header
  | passage
  | dots
deriving DecidableEq

inductive Item where
  | closed (t : Tree)
  | table (opening : Opening) (entries : List (String × Item))
  | tables (rows : List (List (String × Item)))
deriving Inhabited

abbrev Entries := List (String × Item)

def Entries.replace (key : String) (item : Item) : Entries → Entries
  | [] => []
  | (k, i) :: rest => if k = key then (k, item) :: rest else (k, i) :: replace key item rest

/-- Opens the tables of `path` one inside the other, of which none exists yet. -/
def create (opening : Opening) (change : Opening → Entries → Option Entries) :
    List String → Option Item
  | [] => (change opening []).map (.table opening)
  | key :: path => (create opening change path).map fun item => .table opening [(key, item)]

/-- Changes the table that `path` leads to, and opens what is missing on the way. A path of a
dotted key does not enter a table that has a header; of a list of tables the last one is
entered. -/
def within (opening : Opening) (change : Opening → Entries → Option Entries) :
    List String → Opening → Entries → Option Entries
  | [], here, entries => change here entries
  | key :: path, _, entries =>
    match entries.lookup key with
    | none => do
      let item ← create opening change path
      return entries ++ [(key, item)]
    | some (.closed _) => none
    | some (.table how inner) =>
      if opening = .dots ∧ how = .header then none
      else do
        let inner ← within opening change path how inner
        return entries.replace key (.table how inner)
    | some (.tables rows) =>
      match rows.getLast? with
      | none => none
      | some row => do
        let row ← within opening change path .header row
        return entries.replace key (.tables (rows.dropLast ++ [row]))

def insertNew (key : String) (item : Item) (entries : Entries) : Option Entries :=
  if (entries.lookup key).isSome then none else some (entries ++ [(key, item)])

def splitLast? : List String → Option (List String × String)
  | [] => none
  | [key] => some ([], key)
  | k :: ks => (splitLast? ks).map fun (path, key) => (k :: path, key)

/-- Adds a value under a dotted key. The dots may lead only into tables made by dots. -/
def insertKey (key : List String) (value : Tree) (entries : Entries) : Option Entries := do
  let (path, last) ← splitLast? key
  let change := fun here inner =>
    if !path.isEmpty && here ≠ .dots then none else insertNew last (.closed value) inner
  within .dots change path .header entries

mutual

def Item.tree : Item → Tree
  | .closed t => t
  | .table _ entries => .table (entryTrees entries)
  | .tables rows => .list (rowTrees rows)

def entryTrees : List (String × Item) → List (String × Tree)
  | [] => []
  | (k, i) :: rest => (k, i.tree) :: entryTrees rest

def rowTrees : List (List (String × Item)) → List Tree
  | [] => []
  | row :: rest => .table (entryTrees row) :: rowTrees rest

end

end PluginSandbox.Toml
