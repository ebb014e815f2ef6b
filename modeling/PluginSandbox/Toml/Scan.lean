import PluginSandbox.Text.Properties

/-!
# The lexical level of TOML

Blanks, line ends, comments, strings and keys. A reader takes the text before it and answers what
it read and the text after it, or nothing if the text does not begin that way.
-/

namespace PluginSandbox.Toml

abbrev Reader (α : Type) := List Char → Option (α × List Char)

/-! ## Blanks and lines -/

def isBlank (c : Char) : Bool :=
  c == ' ' || c == '\t'

def skipBlanks (cs : List Char) : List Char :=
  cs.dropWhile isBlank

def isPrintable (c : Char) : Bool :=
  c == '\t' || 0x20 ≤ c.toNat && c.toNat ≤ 0x7E || 0x80 ≤ c.toNat

def newline? : List Char → Option (List Char)
  | '\n' :: rest => some rest
  | '\r' :: '\n' :: rest => some rest
  | _ => none

def lineEnd? : List Char → Option (List Char)
  | [] => some []
  | cs => newline? cs

/-- A comment runs to the first control character, which has to end the line. -/
def skipComment : List Char → List Char
  | '#' :: rest => rest.dropWhile isPrintable
  | cs => cs

def restOfLine? (cs : List Char) : Option (List Char) :=
  lineEnd? (skipComment (skipBlanks cs))

/-- Blanks, line ends and comments between the parts of an array. `fuel` bounds the lines. -/
def skipLines? : Nat → List Char → Option (List Char)
  | 0, _ => none
  | fuel + 1, cs =>
    match skipBlanks cs with
    | '#' :: rest => do skipLines? fuel (← newline? (skipComment ('#' :: rest)))
    | '\n' :: rest => skipLines? fuel rest
    | '\r' :: rest => do skipLines? fuel (← newline? ('\r' :: rest))
    | rest => some rest

/-! ## Characters by number -/

/-- The character whose code point the digits give; the surrogates have none. -/
def charOfHex? (digits : List Char) : Option Char := do
  let values ← digits.mapM Text.hexDigit?
  let n := values.foldl (fun acc d => acc * 16 + d) 0
  if h : n.isValidChar then some (Char.ofNatAux n h) else none

def escape? : Char → Option Char
  | 'b' => some '\x08'
  | 'f' => some '\x0c'
  | 'n' => some '\n'
  | 'r' => some '\r'
  | 't' => some '\t'
  | '"' => some '"'
  | '\\' => some '\\'
  | _ => none

/-! ## Strings -/

def consTo (c : Char) (r : Option (List Char × List Char)) : Option (List Char × List Char) :=
  r.map fun (read, rest) => (c :: read, rest)

/-- The rest of a string between double quotes, on one line and with escapes. -/
def basicBody : Reader (List Char)
  | '"' :: rest => some ([], rest)
  | '\\' :: 'u' :: a :: b :: c :: d :: rest => do
    let e ← charOfHex? [a, b, c, d]
    consTo e (basicBody rest)
  | '\\' :: 'U' :: a :: b :: c :: d :: e :: f :: g :: h :: rest => do
    let x ← charOfHex? [a, b, c, d, e, f, g, h]
    consTo x (basicBody rest)
  | '\\' :: c :: rest => do
    let e ← escape? c
    consTo e (basicBody rest)
  | c :: rest => if c ≠ '\\' ∧ isPrintable c then consTo c (basicBody rest) else none
  | [] => none

/-- The rest of a string between apostrophes, on one line and as it stands. -/
def literalBody : Reader (List Char)
  | '\'' :: rest => some ([], rest)
  | c :: rest => if isPrintable c then consTo c (literalBody rest) else none
  | [] => none

def continuesLine (cs : List Char) : Bool :=
  (newline? (skipBlanks cs)).isSome

/-- The rest of a string between triple double quotes. Up to two quotes may stand before the
closing three. Behind a backslash at the end of a line, `skipping` passes over blanks and line
ends. -/
def multilineBasicBody (skipping : Bool) : Reader (List Char)
  | '"' :: '"' :: '"' :: '"' :: '"' :: rest => some (['"', '"'], rest)
  | '"' :: '"' :: '"' :: '"' :: rest => some (['"'], rest)
  | '"' :: '"' :: '"' :: rest => some ([], rest)
  | '\r' :: '\n' :: rest =>
    if skipping then multilineBasicBody true rest else consTo '\n' (multilineBasicBody false rest)
  | '\n' :: rest =>
    if skipping then multilineBasicBody true rest else consTo '\n' (multilineBasicBody false rest)
  | '\\' :: 'u' :: a :: b :: c :: d :: rest => do
    let e ← charOfHex? [a, b, c, d]
    consTo e (multilineBasicBody false rest)
  | '\\' :: 'U' :: a :: b :: c :: d :: e :: f :: g :: h :: rest => do
    let x ← charOfHex? [a, b, c, d, e, f, g, h]
    consTo x (multilineBasicBody false rest)
  | '\\' :: c :: rest =>
    match escape? c with
    | some e => consTo e (multilineBasicBody false rest)
    | none => if continuesLine (c :: rest) then multilineBasicBody true (c :: rest) else none
  | c :: rest =>
    if skipping && isBlank c then multilineBasicBody true rest
    else if c ≠ '\\' ∧ isPrintable c then consTo c (multilineBasicBody false rest)
    else none
  | [] => none

def multilineLiteralBody : Reader (List Char)
  | '\'' :: '\'' :: '\'' :: '\'' :: '\'' :: rest => some (['\'', '\''], rest)
  | '\'' :: '\'' :: '\'' :: '\'' :: rest => some (['\''], rest)
  | '\'' :: '\'' :: '\'' :: rest => some ([], rest)
  | '\r' :: '\n' :: rest => consTo '\n' (multilineLiteralBody rest)
  | '\n' :: rest => consTo '\n' (multilineLiteralBody rest)
  | c :: rest => if isPrintable c then consTo c (multilineLiteralBody rest) else none
  | [] => none

/-- A line end right after the opening quotes does not count. -/
def skipFirstNewline (cs : List Char) : List Char :=
  (newline? cs).getD cs

def string? : Reader (List Char)
  | '"' :: '"' :: '"' :: rest => multilineBasicBody false (skipFirstNewline rest)
  | '"' :: rest => basicBody rest
  | '\'' :: '\'' :: '\'' :: rest => multilineLiteralBody (skipFirstNewline rest)
  | '\'' :: rest => literalBody rest
  | _ => none

/-! ## Keys -/

def isBareKey (c : Char) : Bool :=
  'a' ≤ c && c ≤ 'z' || 'A' ≤ c && c ≤ 'Z' || '0' ≤ c && c ≤ '9' || c == '_' || c == '-'

def keyPart? : Reader (List Char)
  | '"' :: rest => basicBody rest
  | '\'' :: rest => literalBody rest
  | cs =>
    match cs.takeWhile isBareKey with
    | [] => none
    | name => some (name, cs.dropWhile isBareKey)

def keyParts? : Nat → Reader (List String)
  | 0, _ => none
  | fuel + 1, cs => do
    let (part, cs) ← keyPart? (skipBlanks cs)
    let part := String.ofList part
    match skipBlanks cs with
    | '.' :: cs =>
      let (parts, cs) ← keyParts? fuel cs
      return (part :: parts, cs)
    | cs => return ([part], cs)

/-- How deep keys, arrays and inline tables may go. -/
def depthLimit : Nat := 80

def key? : Reader (List String) :=
  keyParts? (depthLimit - 1)

end PluginSandbox.Toml
