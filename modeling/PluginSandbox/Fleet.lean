import PluginSandbox.Incarnation

/-!
# The fleet

Every incarnation keeps its number, and the number is the handle by which it is reached, also when
its plugin has been loaded again.
-/

namespace PluginSandbox

abbrev Handle := Nat

structure Fleet (σ : Type) where
  members : List (Incarnation σ) := []

namespace Fleet

variable {σ : Type} (interp : Interpreter σ) (scene : Scene)

def get? (f : Fleet σ) (h : Handle) : Option (Incarnation σ) :=
  f.members[h]?

def modify (f : Fleet σ) (h : Handle) (change : Incarnation σ → Incarnation σ) : Fleet σ :=
  ⟨f.members.modify h change⟩

def add (f : Fleet σ) (i : Incarnation σ) : Handle × Fleet σ :=
  (f.members.length, ⟨f.members ++ [i]⟩)

/-- Starts an incarnation. One whose interpreter cannot be built is joined and not kept. -/
def spawn (f : Fleet σ) (context : Context) (capacity : Nat) (factory : Factory σ) :
    Except HostError Handle × Fleet σ :=
  match Incarnation.start? context capacity factory with
  | .error e => (.error e, f)
  | .ok i =>
    let (handle, f) := f.add i
    (.ok handle, f)

/-- Lets every worker run as far as it can. -/
def settle (f : Fleet σ) : Fleet σ :=
  ⟨f.members.map (·.settle interp scene)⟩

/-- The incarnations of a plugin, with their handles, the oldest first. -/
def ofPlugin (f : Fleet σ) (plugin : String) : List (Handle × Incarnation σ) :=
  (f.members.zipIdx.map fun (i, h) => (h, i)).filter (·.2.plugin == plugin)

def notify (f : Fleet σ) (h : Handle) (callback : String) (args : Json) :
    Except DispatchError (Fleet σ) :=
  match f.get? h with
  | none => .error (.workerStopped "")
  | some i => do
    let w ← i.worker.notify callback args
    return f.modify h fun i => { i with worker := w }

end Fleet

end PluginSandbox
