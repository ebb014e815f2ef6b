import PluginSandbox.Toml.Scan

/-!
# Numbers and moments in TOML

Whole numbers of 64 bits, other numbers, dates and times. Only whole numbers are kept; of the
others it matters that they are well formed.
-/

namespace PluginSandbox.Toml

def isDigit (c : Char) : Bool :=
  '0' ≤ c && c ≤ '9'

/-! ## Digits -/

/-- Digits with single underscores between them. -/
def digitsAfter (digit : Char → Bool) : List Char → List Char × List Char
  | '_' :: c :: rest =>
    if digit c then
      let (ds, rest) := digitsAfter digit rest
      (c :: ds, rest)
    else ([], '_' :: c :: rest)
  | c :: rest =>
    if digit c then
      let (ds, rest) := digitsAfter digit rest
      (c :: ds, rest)
    else ([], c :: rest)
  | [] => ([], [])

def digits? (digit : Char → Bool) : Reader (List Char)
  | c :: rest =>
    if digit c then
      let (ds, rest) := digitsAfter digit rest
      some (c :: ds, rest)
    else none
  | [] => none

def valueOf (radix : Nat) (ds : List Char) : Nat :=
  ds.foldl (fun acc c => acc * radix + (Text.hexDigit? c).getD 0) 0

def fixedDigits? (n : Nat) (cs : List Char) : Option (Nat × List Char) :=
  let ds := cs.take n
  if ds.length = n ∧ ds.all isDigit then some (valueOf 10 ds, cs.drop n) else none

/-- The sign and the text after it; `true` is minus. -/
def sign : List Char → Bool × List Char
  | '-' :: rest => (true, rest)
  | '+' :: rest => (false, rest)
  | cs => (false, cs)

/-- The digits of a decimal number, which begins with a zero only if it is zero. -/
def decimal? : Reader (List Char)
  | '0' :: rest => some (['0'], rest)
  | cs => digits? isDigit cs

/-! ## Dates and times -/

def isLeapYear (year : Nat) : Bool :=
  year % 4 == 0 && (year % 100 != 0 || year % 400 == 0)

def daysIn (year month : Nat) : Nat :=
  if month = 2 then (if isLeapYear year then 29 else 28)
  else if month = 4 ∨ month = 6 ∨ month = 9 ∨ month = 11 then 30
  else 31

def skip? (c : Char) : List Char → Option (List Char)
  | d :: rest => if c = d then some rest else none
  | [] => none

def date? (cs : List Char) : Option (List Char) := do
  let (year, cs) ← fixedDigits? 4 cs
  let (month, cs) ← fixedDigits? 2 (← skip? '-' cs)
  let (day, cs) ← fixedDigits? 2 (← skip? '-' cs)
  if 1 ≤ month ∧ month ≤ 12 ∧ 1 ≤ day ∧ day ≤ daysIn year month then some cs else none

def fractionOfSecond? : List Char → Option (List Char)
  | '.' :: c :: rest => if isDigit c then some (rest.dropWhile isDigit) else none
  | '.' :: [] => none
  | cs => some cs

/-- A second may be a leap second. -/
def time? (cs : List Char) : Option (List Char) := do
  let (hour, cs) ← fixedDigits? 2 cs
  let (minute, cs) ← fixedDigits? 2 (← skip? ':' cs)
  let (second, cs) ← fixedDigits? 2 (← skip? ':' cs)
  if hour ≤ 23 ∧ minute ≤ 59 ∧ second ≤ 60 then fractionOfSecond? cs else none

def offset? : List Char → Option (List Char)
  | 'Z' :: rest => some rest
  | 'z' :: rest => some rest
  | c :: rest =>
    if c = '+' ∨ c = '-' then do
      let (hour, cs) ← fixedDigits? 2 rest
      let (minute, cs) ← fixedDigits? 2 (← skip? ':' cs)
      if hour ≤ 23 ∧ minute ≤ 59 then some cs else none
    else some (c :: rest)
  | [] => some []

def dateAndTime? (cs : List Char) : Option (List Char) := do
  let afterDate ← date? cs
  match afterDate with
  | c :: rest =>
    if c = 'T' ∨ c = 't' ∨ c = ' ' then
      match time? rest with
      | some afterTime => offset? afterTime
      | none => some afterDate
    else some afterDate
  | [] => some []

def moment? (cs : List Char) : Option (List Char) :=
  (dateAndTime? cs).or (time? cs)

/-! ## Numbers -/

/-- The decimal `ds · 10^e` is beyond the largest double. -/
def overflows (ds : List Char) (e : Int) : Bool :=
  let n := valueOf 10 ds
  let scale := (Nat.toDigits 10 n).length + e
  if n = 0 ∨ scale < 300 then false
  else if 320 < scale then true
  else
    let bound := (Nat.pow 2 54 - 1) * Nat.pow 2 970
    if 0 ≤ e then bound ≤ n * Nat.pow 10 e.toNat else bound * Nat.pow 10 (-e).toNat ≤ n

def exponent? : Reader Int
  | c :: rest =>
    if c = 'e' ∨ c = 'E' then do
      let (minus, cs) := sign rest
      let (ds, cs) ← digits? isDigit cs
      let e : Int := valueOf 10 ds
      return (if minus then -e else e, cs)
    else none
  | [] => none

/-- A number with a fraction, an exponent or both. One that rounds to infinity is refused, and
one that rounds to minus infinity is not. -/
def fraction? (cs : List Char) : Option (List Char) := do
  let (minus, cs) := sign cs
  let (ds, cs) ← decimal? cs
  match cs with
  | '.' :: cs =>
    let (fs, cs) ← digits? isDigit cs
    let (e, cs) := (exponent? cs).getD (0, cs)
    if !minus && overflows (ds ++ fs) (e - fs.length) then none else some cs
  | cs =>
    let (e, cs) ← exponent? cs
    if !minus && overflows ds e then none else some cs

def namedNumber? : List Char → Option (List Char)
  | 'i' :: 'n' :: 'f' :: rest => some rest
  | 'n' :: 'a' :: 'n' :: rest => some rest
  | _ => none

def isHexDigit (c : Char) : Bool :=
  (Text.hexDigit? c).isSome

def isOctalDigit (c : Char) : Bool :=
  '0' ≤ c && c ≤ '7'

def isBinaryDigit (c : Char) : Bool :=
  c == '0' || c == '1'

/-- Whole numbers lie between this, negated, and this, exclusive. -/
def wholeBound : Nat := 9223372036854775808

/-- A number of the given radix that fits 64 bits with a sign. -/
def unsigned? (radix : Nat) (digit : Char → Bool) (cs : List Char) : Option (Int × List Char) := do
  let (ds, cs) ← digits? digit cs
  let n := valueOf radix ds
  if n < wholeBound then some (n, cs) else none

def whole? : Reader Int
  | '0' :: 'x' :: rest => unsigned? 16 isHexDigit rest
  | '0' :: 'o' :: rest => unsigned? 8 isOctalDigit rest
  | '0' :: 'b' :: rest => unsigned? 2 isBinaryDigit rest
  | cs => do
    let (minus, cs) := sign cs
    let (ds, cs) ← decimal? cs
    let n : Int := valueOf 10 ds
    let n := if minus then -n else n
    if -wholeBound ≤ n ∧ n < wholeBound then some (n, cs) else none

end PluginSandbox.Toml
