import PluginSandbox.Host

/-!
# Calls

A call is enqueued on the plugin's worker and waited for until its deadline.
-/

namespace PluginSandbox.Host

variable {σ : Type} (interp : Interpreter σ)

/-- Enqueues a call. A plugin whose monitor has latched is not called. -/
def enqueueCall (h : Host σ) (plugin callback : String) (args : Json) :
    Except HostError Ticket × Host σ :=
  match h.find plugin, h.incarnation plugin with
  | .error e, _ => (.error e, h)
  | _, .error e => (.error e, h)
  | .ok l, .ok i =>
    match i.sandbox.monitor.reason? with
    | some reason => (.error (.resourceLimitExceeded plugin reason), h)
    | none =>
      match i.worker.call .budget callback args with
      | .error e => (.error (.dispatch e), h)
      | .ok (ticket, w) => (.ok ticket, h.modify l.handle fun i => { i with worker := w })

def outcome? (h : Host σ) (plugin : String) (handle : Handle) (ticket : Ticket) :
    Option (Except HostError Json) := do
  let i ← h.fleet.get? handle
  match i.worker.reply ticket with
  | .settled (.ok v) => some (.ok v)
  | .settled (.error e) => some (.error (.ofScript plugin e))
  | .dropped => some (.error (.cancelled plugin))
  | .pending => none

/-- Waits for a call on a settled host. One that is not answered by its deadline is cancelled: it
is skipped if it still waits, and interrupted if it runs. Without a deadline there may be no
answer at all. -/
def awaitCall (h : Host σ) (plugin : String) (handle : Handle) (ticket : Ticket) :
    Option (Except HostError Json) × Host σ :=
  match h.outcome? plugin handle ticket with
  | some r => (some r, h)
  | none =>
    match (h.fleet.get? handle).bind (·.sandbox.monitor.limits.timeout?) with
    | none => (none, h)
    | some ms =>
      let h := { h with scene := h.scene.pass ms.toNat }
      let h := h.modify handle fun i => { i with worker := i.worker.cancel ticket }
      (some (.error (.timeout plugin ms)), h.settle interp)

def call (h : Host σ) (plugin callback : String) (args : Json) :
    Option (Except HostError Json) × Host σ :=
  match h.find plugin, h.enqueueCall plugin callback args with
  | .ok l, (.ok ticket, h) => (h.settle interp).awaitCall interp plugin l.handle ticket
  | _, (.error e, h) => (some (.error e), h)
  | .error e, _ => (some (.error e), h)

end PluginSandbox.Host
