import PluginSandbox.Incarnation

/-!
# Scripts

An interpreter without a language, for trying out a host. The name of a callback says what it does:
it fails or panics, spends resources, asks the checker, reports on its context, or waits for the
interrupt; any other name answers its arguments.
-/

namespace PluginSandbox

/-- The state of a scripted interpreter: what it was told when it was built. One that is `apart` was
not handed its worker's interrupt, and one that is `brittle` panics when it is destroyed. -/
structure Script where
  plugin : String
  generation : Nat := 1
  modules : List HostModule := []
  apart : Bool := false
  brittle : Bool := false

namespace Script

/-! ## Failures on demand -/

/-- The text a panic with this payload is reported with. The empty text stands for a payload that
is no text. -/
def panicText : Json → String
  | .str s => if s.isEmpty then "unknown panic" else s
  | _ => "script blew up"

/-- The error that a description asks for; what it leaves out has a default. -/
def errorOf (description : Json) : ScriptError :=
  let field (key fallback : String) := ((description.get? key).bind Json.str?).getD fallback
  let text := field "text" "boom"
  match field "kind" "" with
  | "UnknownCallback" => .unknownCallback text
  | "Panicked" => .panicked text
  | "ResourceLimit" => .resourceLimit Breach.memory.reason
  | "Denied" => .denied ⟨⟨field "capability" "shell"⟩, field "operation" "", text⟩
  | _ => .raised text

/-! ## Callbacks -/

def amount (args : Json) : UInt64 :=
  args.word?.getD 0

def textOf (args : Json) : String :=
  args.str?.getD ""

/-- Ends with the counter after an accounting call, or with the latched reason if it was over. -/
def account (r : Bool × Monitor) (counter : Monitor → Nat) (box : Sandbox) (s : Script) :
    Conduct Script :=
  let box := { box with monitor := r.2 }
  if r.1 then .ends (.error (.resourceLimit (r.2.reason?.getD ""))) box s
  else .ends (.value (.nat (counter r.2))) box s

def spend (r : Bool × Monitor) (box : Sandbox) (s : Script) : Conduct Script :=
  .ends (.value (.bool r.1)) { box with monitor := r.2 } s

def ask (r : Except Denial Unit) (text : String) (box : Sandbox) (s : Script) : Conduct Script :=
  match r with
  | .ok () => .ends (.value (.str text)) box s
  | .error d => .ends (.error (.denied d)) box s

def invoke (scene : Scene) (interrupted : Bool) (callback : String) (args : Json) (box : Sandbox)
    (s : Script) : Conduct Script :=
  let m := box.monitor
  let k := box.checker
  let answer (v : Json) : Conduct Script := .ends (.value v) box s
  let text := textOf args
  match callback with
  | "fail" => .ends (.error (errorOf args)) box s
  | "missing" => .ends (.error (.unknownCallback "missing")) box s
  | "panic" => .ends (.panic (panicText args)) box s
  | "spin" => account (m.addInstructions (amount args)) (·.instructions.toNat) box s
  | "memory" => account (m.setMemory (amount args)) (·.memory.toNat) box s
  | "output" => account (m.addOutput (amount args)) (·.output.toNat) box s
  | "task_start" => account m.startTask (·.tasks.toNat) box s
  | "task_end" => account (false, m.endTask) (·.tasks.toNat) box s
  | "file_op" => spend (m.tryFileOp scene.now) box s
  | "net_op" => spend (m.tryNetworkRequest scene.now) box s
  | "read" => ask (k.checkRead scene.cwd text) text box s
  | "write" => ask (k.checkWrite scene.cwd text) text box s
  | "connect" => ask (k.checkNetwork text) text box s
  | "shell" => ask (k.checkShell text) text box s
  | "require" => ask (k.checkCapability ⟨text⟩) text box s
  | "has_module" => answer (.bool (s.modules.any (·.name == text)))
  | "modules" => answer (.strs (s.modules.map (·.name)))
  | "whoami" => answer (.arr [.str s.plugin, .nat s.generation])
  | "interrupted" => answer (.bool interrupted)
  | "busy" => .waits box s
  | _ => answer args

/-- The interpreter; a wait ends with an error that says it was interrupted. -/
def interpreter : Interpreter Script where
  invoke := invoke
  awake s := (.error (.raised "interrupted"), s)
  hears s := !s.apart
  breaks s := s.brittle

/-! ## Building one -/

/-- How a scripted interpreter is built: it fails, panics, or needs a capability first. -/
structure Recipe where
  failure : Option ScriptError := none
  panic : Option String := none
  needs : Option Capability := none
  generation : Nat := 1
  apart : Bool := false
  brittle : Bool := false

def Recipe.factory (r : Recipe) : Factory Script := fun context =>
  match r.failure, r.panic with
  | some e, _ => .error e.message
  | none, some text => .error text
  | none, none =>
    match r.needs.elim (.ok ()) context.sandbox.checker.checkCapability with
    | .error d => .error d.message
    | .ok () =>
      .ok {
        plugin := context.plugin
        generation := r.generation
        modules := context.modules
        apart := r.apart
        brittle := r.brittle }

end Script

end PluginSandbox
