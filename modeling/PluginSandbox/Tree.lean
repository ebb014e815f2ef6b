import PluginSandbox.Json

/-!
# Documents to decode

The tree that records are decoded from, whether it was written as JSON or as TOML, and the
decoding of its leaves. The two formats differ in what stands for an empty value and in whether a
list may have more items than its record has fields.
-/

namespace PluginSandbox

/-- A document. `fraction` is a number that is not whole, `moment` a date or a time. -/
inductive Tree where
  | null
  | flag (b : Bool)
  | whole (n : Int)
  | fraction
  | moment
  | text (s : String)
  | list (items : List Tree)
  | table (entries : List (String × Tree))
deriving Inhabited

inductive DataFormat where
  | json
  | toml
deriving DecidableEq

mutual

def Json.tree : Json → Tree
  | .null => .null
  | .bool b => .flag b
  | .int n => .whole n
  | .real _ => .fraction
  | .str s => .text s
  | .arr items => .list (treeItems items)
  | .obj members => .table (treeMembers members)

def Json.treeItems : List Json → List Tree
  | [] => []
  | j :: js => j.tree :: treeItems js

def Json.treeMembers : List (String × Json) → List (String × Tree)
  | [] => []
  | (k, j) :: ms => (k, j.tree) :: treeMembers ms

end

namespace Tree

/-! ## Leaves -/

def text? : Tree → Option String
  | text s => some s
  | _ => none

def word64? : Tree → Option UInt64
  | whole n => if 0 ≤ n ∧ n < UInt64.size then some (UInt64.ofNat n.toNat) else none
  | _ => none

def word32? : Tree → Option UInt32
  | whole n => if 0 ≤ n ∧ n < UInt32.size then some (UInt32.ofNat n.toNat) else none
  | _ => none

def list? {α : Type} (item : Tree → Option α) : Tree → Option (List α)
  | list items => items.mapM item
  | _ => none

def texts? : Tree → Option (List String) :=
  list? text?

/-- What may stand beside the name of a choice that carries nothing. -/
def isEmptyIn : DataFormat → Tree → Bool
  | .json, null => true
  | .toml, table [] => true
  | .toml, list [] => true
  | _, _ => false

/-- A choice by name: the name itself, or the only key of a table over an empty value. -/
def choice? {α : Type} (how : DataFormat) (ofText? : String → Option α) : Tree → Option α
  | text s => ofText? s
  | table [(key, value)] => if value.isEmptyIn how then ofText? key else none
  | _ => none

/-! ## Records -/

inductive Fields where
  | keyed (entries : List (String × Tree))
  | placed (items : List Tree)

/-- A table gives its fields by key and a list by position; a date or time is a table with no key
that a record knows. JSON refuses a list that is longer than the record is wide. -/
def fields? (how : DataFormat) (width : Nat) : Tree → Option Fields
  | table entries => some (.keyed entries)
  | moment => some (.keyed [])
  | list items => if how = .json ∧ width < items.length then none else some (.placed items)
  | _ => none

namespace Fields

def get? (fs : Fields) (place : Nat) (key : String) : Option Tree :=
  match fs with
  | keyed entries => entries.lookup key
  | placed items => items[place]?

def required {α : Type} (fs : Fields) (place : Nat) (key : String) (decode : Tree → Option α) :
    Option α :=
  (fs.get? place key).bind decode

def defaulted {α : Type} (fs : Fields) (place : Nat) (key : String) (decode : Tree → Option α)
    (fallback : α) : Option α :=
  match fs.get? place key with
  | some t => decode t
  | none => some fallback

/-- A field that may be null, or missing where fields go by key. -/
def optional {α : Type} (fs : Fields) (place : Nat) (key : String) (decode : Tree → Option α) :
    Option (Option α) :=
  match fs, fs.get? place key with
  | _, some .null => some none
  | _, some t => (decode t).map some
  | keyed _, none => some none
  | placed _, none => none

end Fields

end Tree

end PluginSandbox
