import PluginSandbox.Json
import PluginSandbox.Permission

/-!
# Failures

A job may not be accepted, a callback that runs may fail, and an operation of the host may be
refused.
-/

namespace PluginSandbox

/-! ## Jobs -/

inductive DispatchError where
  | queueFull (plugin : String)
  | workerStopped (plugin : String)
deriving DecidableEq

namespace DispatchError

def plugin : DispatchError → String
  | queueFull p => p
  | workerStopped p => p

def message : DispatchError → String
  | queueFull p => "callback queue full for plugin '" ++ p ++ "'"
  | workerStopped p => "worker for plugin '" ++ p ++ "' has stopped"

end DispatchError

inductive ScriptError where
  | unknownCallback (callback : String)
  | raised (text : String)
  | panicked (text : String)
  | denied (denial : Denial)
  | resourceLimit (reason : String)
deriving DecidableEq

def ScriptError.message : ScriptError → String
  | unknownCallback c => "unknown callback: " ++ c
  | raised t => "script error: " ++ t
  | panicked t => "script panicked: " ++ t
  | denied d => d.message
  | resourceLimit r => "resource limit exceeded: " ++ r

abbrev CallResult := Except ScriptError Json

/-! ## The host -/

inductive HostError where
  | pluginNotFound (plugin : String)
  | pluginAlreadyLoaded (plugin : String)
  | policyDenied (text : String)
  | permissionDenied (denial : Denial)
  | resourceLimitExceeded (plugin detail : String)
  | timeout (plugin : String) (ms : UInt64)
  | initializationFailed (plugin text : String)
  | cancelled (plugin : String)
  | dispatch (e : DispatchError)
  | script (plugin : String) (e : ScriptError)
deriving DecidableEq

namespace HostError

def message : HostError → String
  | pluginNotFound p => "plugin not found: " ++ p
  | pluginAlreadyLoaded p => "plugin already loaded: " ++ p
  | policyDenied t => "policy denied: " ++ t
  | permissionDenied d => "permission denied: " ++ d.message
  | resourceLimitExceeded p detail => "resource limit exceeded: " ++ p ++ ": " ++ detail
  | timeout p ms => "timeout: plugin '" ++ p ++ "' exceeded " ++ toString ms.toNat ++ "ms deadline"
  | initializationFailed p t => "plugin initialization failed: " ++ p ++ ": " ++ t
  | cancelled p => "call to plugin '" ++ p ++ "' was dropped before it ran"
  | dispatch e => e.message
  | script p e => "plugin '" ++ p ++ "' failed: " ++ e.message

def ofScript (plugin : String) : ScriptError → HostError
  | .denied d => permissionDenied d
  | .resourceLimit reason => resourceLimitExceeded plugin reason
  | e => script plugin e

end HostError

end PluginSandbox
