import PluginSandbox.Capability

/-!
# The registry of capabilities

The capabilities the host knows, with what a user is shown about them and how risky they are.
-/

namespace PluginSandbox

inductive Risk where
  | low
  | medium
  | high
  | critical
deriving DecidableEq

namespace Risk

def text : Risk → String
  | low => "low"
  | medium => "medium"
  | high => "high"
  | critical => "critical"

def ofText? : String → Option Risk
  | "low" => some low
  | "medium" => some medium
  | "high" => some high
  | "critical" => some critical
  | _ => none

def rank : Risk → Nat
  | low => 0
  | medium => 1
  | high => 2
  | critical => 3

end Risk

namespace Capability

def editor : Capability := ⟨"editor"⟩
def editorBuffer : Capability := ⟨"editor.buffer"⟩
def editorCursor : Capability := ⟨"editor.cursor"⟩
def editorSelection : Capability := ⟨"editor.selection"⟩
def commands : Capability := ⟨"commands"⟩
def events : Capability := ⟨"events"⟩
def config : Capability := ⟨"config"⟩
def configRead : Capability := ⟨"config.read"⟩
def configWrite : Capability := ⟨"config.write"⟩
def ui : Capability := ⟨"ui"⟩
def uiNotification : Capability := ⟨"ui.notification"⟩
def uiPanel : Capability := ⟨"ui.panel"⟩
def lsp : Capability := ⟨"lsp"⟩
def integration : Capability := ⟨"integration"⟩
def integrationGit : Capability := ⟨"integration.git"⟩
def integrationDebugger : Capability := ⟨"integration.debugger"⟩
def filesystem : Capability := ⟨"filesystem"⟩
def filesystemRead : Capability := ⟨"filesystem.read"⟩
def filesystemWrite : Capability := ⟨"filesystem.write"⟩
def network : Capability := ⟨"network"⟩
def clipboard : Capability := ⟨"clipboard"⟩
def shell : Capability := ⟨"shell"⟩
def process : Capability := ⟨"process"⟩

structure Info where
  name : Capability
  title : String
  description : String
  parent : Option Capability
  risk : Risk

/-- High and critical risks are confirmed by the user before they are granted. -/
def Info.needsApproval (i : Info) : Bool :=
  Risk.high.rank ≤ i.risk.rank

/-- Every registered capability, in the order of definition. -/
def registered : List Info :=
  [ ⟨editor, "Editor", "Full access to buffers, cursors and selections", none, .medium⟩,
    ⟨editorBuffer, "Buffers", "Read and edit open buffers", editor, .low⟩,
    ⟨editorCursor, "Cursors", "Read and move cursors", editor, .low⟩,
    ⟨editorSelection, "Selections", "Read and change selections", editor, .low⟩,
    ⟨commands, "Commands", "Register and run editor commands", none, .low⟩,
    ⟨events, "Events", "Subscribe to editor events", none, .low⟩,
    ⟨config, "Configuration", "Read and write editor settings", none, .medium⟩,
    ⟨configRead, "Read configuration", "Read editor settings and watch for changes", config, .low⟩,
    ⟨configWrite, "Write configuration", "Change editor settings", config, .medium⟩,
    ⟨ui, "User interface", "Show notifications and panels", none, .low⟩,
    ⟨uiNotification, "Notifications", "Show transient notifications", ui, .low⟩,
    ⟨uiPanel, "Panels", "Open and render custom panels", ui, .low⟩,
    ⟨lsp, "Language servers", "Query and drive language server sessions", none, .medium⟩,
    ⟨integration, "Integrations", "Use version control and debugger integrations", none, .medium⟩,
    ⟨integrationGit, "Git", "Query repository status and history", integration, .medium⟩,
    ⟨integrationDebugger, "Debugger", "Attach to and control debug sessions", integration, .high⟩,
    ⟨filesystem, "Filesystem", "Read and write files on disk", none, .high⟩,
    ⟨filesystemRead, "Read files", "Read files on disk", filesystem, .medium⟩,
    ⟨filesystemWrite, "Write files", "Create, modify and delete files on disk", filesystem, .high⟩,
    ⟨network, "Network", "Open outbound network connections", none, .high⟩,
    ⟨clipboard, "Clipboard", "Read and write the system clipboard", none, .medium⟩,
    ⟨shell, "Shell", "Run shell commands", none, .critical⟩,
    ⟨process, "Processes", "Spawn external programs", none, .critical⟩ ]

def info? (c : Capability) : Option Info :=
  registered.find? (·.name == c)

def isRegistered (c : Capability) : Bool :=
  registered.any (·.name == c)

/-- The registered capabilities whose declared parent is `c`, in the order of definition. -/
def children (c : Capability) : List Capability :=
  (registered.filter (·.parent == some c)).map (·.name)

/-- A child's name is longer than its parent's, and none is longer than 20. -/
theorem length_lt_of_mem_children {c d : Capability} (h : d ∈ children c) :
    c.name.length < d.name.length ∧ d.name.length ≤ 20 := by
  obtain ⟨i, hi, rfl⟩ := List.mem_map.1 h
  obtain ⟨hr, hp⟩ := List.mem_filter.1 hi
  have nested : registered.all fun i =>
      i.parent.all (·.name.length < i.name.name.length) && i.name.name.length ≤ 20 := by decide
  have hn := List.all_eq_true.1 nested i hr
  simp_all

def atLeast (r : Risk) : List Capability :=
  (registered.filter (r.rank ≤ ·.risk.rank)).map (·.name)

def all : List Capability :=
  sort (registered.map (·.name))

def approvalRequired : List Capability :=
  sort ((registered.filter (·.needsApproval)).map (·.name))

end Capability

end PluginSandbox
