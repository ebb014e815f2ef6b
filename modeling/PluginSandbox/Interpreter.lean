import PluginSandbox.Error
import PluginSandbox.Monitor
import PluginSandbox.Permission.Checker

/-!
# Interpreters

An interpreter runs the callbacks of a plugin's script. A callback sees the plugin's sandbox and
may change it, and it may wait for the interrupt.
-/

namespace PluginSandbox

/-- What surrounds a check: the current directory, if there is one, and the time in
nanoseconds. -/
structure Scene where
  cwd : Option String := some "/"
  now : Nat := 0

def Scene.pass (s : Scene) (ms : Nat) : Scene :=
  { s with now := s.now + ms * 1000000 }

structure Sandbox where
  checker : Checker
  monitor : Monitor

inductive Outcome where
  | value (v : Json)
  | error (e : ScriptError)
  | panic (text : String)

/-- A panic is caught and becomes an error of the call. -/
def Outcome.result : Outcome → CallResult
  | value v => .ok v
  | error e => .error e
  | panic t => .error (.panicked t)

/-- Where a callback gets to: its end, or a wait for the interrupt. -/
inductive Conduct (σ : Type) where
  | ends (o : Outcome) (sandbox : Sandbox) (state : σ)
  | waits (sandbox : Sandbox) (state : σ)

/-- The behaviour of an interpreter with states `σ`. `hears` says whether it was handed the
worker's interrupt, `awake` how a wait ends, and `breaks` whether its destruction panics. -/
structure Interpreter (σ : Type) where
  invoke : Scene → Bool → String → Json → Sandbox → σ → Conduct σ
  awake : σ → Outcome × σ
  hears : σ → Bool
  breaks : σ → Bool

end PluginSandbox
