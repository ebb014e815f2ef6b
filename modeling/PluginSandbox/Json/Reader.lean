import PluginSandbox.Json
import PluginSandbox.Text.Properties

/-!
# Reading JSON

A whole text is one value. A number that is written plainly and fits 64 bits, with or without a
sign, is whole; any other is the nearest double, and one too large for a double is refused. Arrays
and objects nest less than 128 deep.
-/

namespace PluginSandbox.Json

def isSpace (c : Char) : Bool :=
  c == ' ' || c == '\t' || c == '\n' || c == '\r'

def skipSpace (cs : List Char) : List Char :=
  cs.dropWhile isSpace

/-! ## Strings -/

def hexUnit? (a b c d : Char) : Option Nat := do
  return ((← Text.hexDigit? a) * 16 + (← Text.hexDigit? b)) * 256 +
    (← Text.hexDigit? c) * 16 + (← Text.hexDigit? d)

def isHighHalf (u : Nat) : Bool :=
  0xD800 ≤ u && u < 0xDC00

def isLowHalf (u : Nat) : Bool :=
  0xDC00 ≤ u && u < 0xE000

def escape? : Char → Option Char
  | '"' => some '"'
  | '\\' => some '\\'
  | '/' => some '/'
  | 'b' => some '\x08'
  | 'f' => some '\x0c'
  | 'n' => some '\n'
  | 'r' => some '\r'
  | 't' => some '\t'
  | _ => none

/-- The text up to the closing quote; `before` holds what was read, the last first. Half of a pair
of code units does not stand alone. -/
def stringBody? (before : List Char) : List Char → Option (String × List Char)
  | '"' :: rest => some (String.ofList before.reverse, rest)
  | '\\' :: 'u' :: a :: b :: c :: d :: rest =>
    match hexUnit? a b c d with
    | none => none
    | some u =>
      if isLowHalf u then none
      else if isHighHalf u then
        match rest with
        | '\\' :: 'u' :: e :: f :: g :: h :: rest =>
          match hexUnit? e f g h with
          | none => none
          | some v =>
            if isLowHalf v then
              let n := 0x10000 + (u - 0xD800) * 0x400 + (v - 0xDC00)
              stringBody? (Char.ofNat n :: before) rest
            else none
        | _ => none
      else stringBody? (Char.ofNat u :: before) rest
  | '\\' :: e :: rest =>
    match escape? e with
    | some c => stringBody? (c :: before) rest
    | none => none
  | c :: rest => if c = '\\' ∨ c.toNat < 0x20 then none else stringBody? (c :: before) rest
  | [] => none

/-! ## Numbers -/

def digits (cs : List Char) : List Char × List Char :=
  (cs.takeWhile Char.isDigit, cs.dropWhile Char.isDigit)

def natOf (ds : List Char) : Nat :=
  ds.foldl (fun n c => n * 10 + (c.toNat - '0'.toNat)) 0

/-- The double nearest to `n · 10^e`. -/
def double? (minus : Bool) (n : Nat) (e : Int) : Option Json :=
  let scale := (Nat.toDigits 10 n).length + e
  if n = 0 ∨ scale < -400 then some (real 0)
  else if 400 < scale then none
  else
    let x := Float.ofScientific n (e < 0) e.natAbs
    if x.isInf then none
    else if x == 0.0 then some (real 0)
    else some (real (if minus then -x else x).toBits)

def fraction? : List Char → Option (List Char × List Char)
  | '.' :: rest =>
    match digits rest with
    | ([], _) => none
    | r => some r
  | cs => some ([], cs)

def exponent? : List Char → Option (Option Int × List Char)
  | c :: rest =>
    if c = 'e' ∨ c = 'E' then
      let (down, rest) : Bool × List Char := match rest with
        | '-' :: rest => (true, rest)
        | '+' :: rest => (false, rest)
        | _ => (false, rest)
      match digits rest with
      | ([], _) => none
      | (ds, rest) => some (some (if down then -(natOf ds : Int) else natOf ds), rest)
    else some (none, c :: rest)
  | [] => some (none, [])

def number? (cs : List Char) : Option (Json × List Char) := do
  let (minus, cs) : Bool × List Char := match cs with
    | '-' :: rest => (true, rest)
    | _ => (false, cs)
  let (whole, cs) := digits cs
  if whole = [] ∨ (whole.head? = some '0' ∧ 1 < whole.length) then none
  else
    let (frac, cs) ← fraction? cs
    let (e, cs) ← exponent? cs
    let n := natOf whole
    let plain := frac.isEmpty && e.isNone
    if plain ∧ !minus ∧ n < UInt64.size then some (int n, cs)
    else if plain ∧ minus ∧ 0 < n ∧ n ≤ UInt64.size / 2 then some (int (-n), cs)
    else
      let j ← double? minus (natOf (whole ++ frac)) (e.getD 0 - frac.length)
      return (j, cs)

/-! ## Values -/

mutual

/-- `fuel` bounds the characters and `depth` the nesting that is left. -/
def value? : Nat → Nat → List Char → Option (Json × List Char)
  | 0, _, _ => none
  | fuel + 1, depth, cs =>
    match skipSpace cs with
    | 'n' :: 'u' :: 'l' :: 'l' :: rest => some (null, rest)
    | 't' :: 'r' :: 'u' :: 'e' :: rest => some (bool true, rest)
    | 'f' :: 'a' :: 'l' :: 's' :: 'e' :: rest => some (bool false, rest)
    | '"' :: rest => (stringBody? [] rest).map fun (s, rest) => (str s, rest)
    | '[' :: rest =>
      match depth, skipSpace rest with
      | 0, _ => none
      | _ + 1, ']' :: rest => some (arr [], rest)
      | depth + 1, rest => items? fuel depth [] rest
    | '\x7b' :: rest =>
      match depth, skipSpace rest with
      | 0, _ => none
      | _ + 1, '\x7d' :: rest => some (obj [], rest)
      | depth + 1, rest => members? fuel depth [] rest
    | cs => number? cs

def items? : Nat → Nat → List Json → List Char → Option (Json × List Char)
  | 0, _, _, _ => none
  | fuel + 1, depth, before, cs => do
    let (j, cs) ← value? fuel depth cs
    match skipSpace cs with
    | ',' :: rest => items? fuel depth (j :: before) rest
    | ']' :: rest => some (arr (j :: before).reverse, rest)
    | _ => none

def members? : Nat → Nat → List (String × Json) → List Char → Option (Json × List Char)
  | 0, _, _, _ => none
  | fuel + 1, depth, before, cs =>
    match skipSpace cs with
    | '"' :: rest => do
      let (k, cs) ← stringBody? [] rest
      match skipSpace cs with
      | ':' :: cs =>
        let (j, cs) ← value? fuel depth cs
        match skipSpace cs with
        | ',' :: rest => members? fuel depth ((k, j) :: before) rest
        | '\x7d' :: rest => some (object ((k, j) :: before).reverse, rest)
        | _ => none
      | _ => none
    | _ => none

end

def parse? (text : String) : Option Json := do
  let cs := text.toList
  let (j, rest) ← value? (2 * cs.length + 2) 127 cs
  if skipSpace rest = [] then some j else none

end PluginSandbox.Json
