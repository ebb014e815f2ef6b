/-!
# Paths as text

Paths are compared by components and never looked up: a path is made absolute against the current
directory, if there is one, and its `.` and `..` are resolved by name alone. A file that does not
exist yet is judged like any other.
-/

namespace PluginSandbox.Path

inductive Component where
  | root
  | here
  | up
  | name (chars : List Char)
deriving DecidableEq

/-! ## Reading and writing -/

def segments : List Char → List (List Char)
  | [] => [[]]
  | c :: cs =>
    if c = '/' then [] :: segments cs
    else
      match segments cs with
      | [] => [[c]]
      | s :: rest => (c :: s) :: rest

def isAbsolute (p : List Char) : Bool :=
  p.head? == some '/'

/-- An empty segment and an inner `.` name nothing. -/
def step? (segment : List Char) : Option Component :=
  if segment = [] ∨ segment = ['.'] then none
  else if segment = ['.', '.'] then some .up
  else some (.name segment)

/-- A `.` counts only at the start of a relative path; slashes that repeat or trail do not. -/
def components (p : List Char) : List Component :=
  let parts := segments p
  let steps := parts.filterMap step?
  if isAbsolute p then .root :: steps
  else if parts.head? = some ['.'] then .here :: steps
  else steps

def Component.chars : Component → List Char
  | root => ['/']
  | here => ['.']
  | up => ['.', '.']
  | name cs => cs

def write : List Component → List Char
  | [] => []
  | .root :: rest => '/' :: ['/'].intercalate (rest.map Component.chars)
  | parts => ['/'].intercalate (parts.map Component.chars)

/-! ## Normal form -/

/-- `..` takes away the name before it, is lost at the root, and is kept where there is neither. -/
def ascend (before : List Component) : List Component :=
  match before with
  | .name _ :: rest => rest
  | .root :: _ => before
  | _ => .up :: before

/-- `before` is what has been kept so far, the last component first. -/
def cleanAfter (before : List Component) : List Component → List Component
  | [] => before.reverse
  | .here :: rest => cleanAfter before rest
  | .up :: rest => cleanAfter (ascend before) rest
  | c :: rest => cleanAfter (c :: before) rest

/-- No `.` or `..` that could be resolved is left; what would be empty is `.`. -/
def clean (parts : List Component) : List Component :=
  match cleanAfter [] parts with
  | [] => [.here]
  | kept => kept

def join (base p : List Char) : List Char :=
  if isAbsolute p then p
  else if base = [] ∨ base.getLast? = some '/' then base ++ p
  else base ++ '/' :: p

def resolve (cwd : Option String) (p : List Char) : List Char :=
  if isAbsolute p then p
  else
    match cwd with
    | some dir => join dir.toList p
    | none => p

def normalizeChars (cwd : Option String) (p : List Char) : List Char :=
  write (clean (components (resolve cwd p)))

def normalize (cwd : Option String) (p : String) : String :=
  String.ofList (normalizeChars cwd p.toList)

/-! ## Containment -/

/-- `target` is `base` or lies below it, component by component. -/
def isWithin (base target : String) : Bool :=
  (components base.toList).isPrefixOf (components target.toList)

end PluginSandbox.Path
