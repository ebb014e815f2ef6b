import PluginSandbox.Json

/-!
# Writing JSON

One line without spaces. Whole numbers are written in full, and other numbers as the exact
decimal of the double.
-/

namespace PluginSandbox.Json

def writeChar (c : Char) : List Char :=
  if c = '"' ∨ c = '\\' then ['\\', c]
  else if c.toNat < 0x20 then
    ['\\', 'u', '0', '0', Nat.digitChar (c.toNat / 16), Nat.digitChar (c.toNat % 16)]
  else [c]

def writeStr (s : String) : String :=
  String.ofList ('"' :: s.toList.flatMap writeChar ++ ['"'])

/-- The double `m · 2^e` as a decimal; a negative power of two is a power of five over one of
ten. -/
def writeReal (bits : UInt64) : String :=
  let exponent := (bits.toNat >>> 52) % 2048
  let fraction := bits.toNat % (1 <<< 52)
  let m := if exponent = 0 then fraction else fraction + (1 <<< 52)
  let e : Int := (max exponent 1 : Nat) - 1075
  let minus := if bits.toNat >>> 63 = 1 then "-" else ""
  if 0 ≤ e then minus ++ toString (m <<< e.toNat) ++ "e0"
  else minus ++ toString (m * Nat.pow 5 (-e).toNat) ++ "e" ++ toString e

mutual

def write : Json → String
  | null => "null"
  | bool b => if b then "true" else "false"
  | int n => toString n
  | real bits => writeReal bits
  | str s => writeStr s
  | arr items => "[" ++ ",".intercalate (writeItems items) ++ "]"
  | obj members => "\x7b" ++ ",".intercalate (writeMembers members) ++ "\x7d"

def writeItems : List Json → List String
  | [] => []
  | j :: js => write j :: writeItems js

def writeMembers : List (String × Json) → List String
  | [] => []
  | (k, j) :: ms => (writeStr k ++ ":" ++ write j) :: writeMembers ms

end

end PluginSandbox.Json
