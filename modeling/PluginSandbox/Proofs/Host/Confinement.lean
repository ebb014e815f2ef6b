import Mathlib.Data.List.Induction
import Mathlib.Data.List.Nodup
import PluginSandbox.Proofs.Checker.Fields
import PluginSandbox.Proofs.Host.Bounds
import PluginSandbox.Proofs.Host.Changes

/-!
# Confinement of loaded plugins

Whatever happens to a host, a loaded plugin is one that the policy admits, and
its checker and limits are those that the policy and the last workspace give to
the request it was loaded with, also after reloads.
-/

namespace PluginSandbox.Host

variable {σ : Type}

def boundsUnder (policy : Policy) (cwd workspace : Option String) (plugin : String)
    (requested : PermissionSet) : Checker × Limits :=
  ({ Checker.ofPermissions cwd (policy.filter requested) with
      workspace := workspace.map (Path.normalize cwd) },
    policy.limitsFor plugin)

theorem bounds_sandboxFor (h : Host σ) (plugin : String) (requested : PermissionSet) :
    (h.sandboxFor plugin requested).bounds =
      boundsUnder h.policy h.scene.cwd h.workspace plugin requested := by
  have hw := Checker.workspace_ofPermissions h.scene.cwd (h.policy.filter requested)
  unfold sandboxFor boundsUnder Sandbox.bounds
  generalize Checker.ofPermissions h.scene.cwd (h.policy.filter requested) = k at hw ⊢
  cases h.workspace with
  | none =>
    cases k
    cases hw
    rfl
  | some w => rfl

structure Confined (π : Policy) (dir : Option String) (request : String → Option PermissionSet)
    (w : Option String) (h : Host σ) : Prop where
  policy : h.policy = π
  cwd : h.scene.cwd = dir
  workspace : h.workspace = w
  distinct : (h.plugins.map (·.2.handle)).Nodup
  admitted : ∀ p l, (p, l) ∈ h.plugins → π.admits p = true
  requested : ∀ p l, (p, l) ∈ h.plugins → request p = some l.requested
  bounded : ∀ p l, (p, l) ∈ h.plugins →
    h.fleet.bounds[l.handle]? = some (boundsUnder π dir w p l.requested)

/-! ## What loading and unloading change -/

/-- A load adds the plugin under a new handle, with the sandbox made for it. -/
structure Loads (plugin : String) (requested : PermissionSet) (h h' : Host σ) : Prop where
  admits : h.policy.admits plugin = true
  policy : h'.policy = h.policy
  workspace : h'.workspace = h.workspace
  cwd : h'.scene.cwd = h.scene.cwd
  plugins : h'.plugins = h.plugins ++ [(plugin, ⟨h.fleet.bounds.length, requested⟩)]
  fresh : ∀ l, (plugin, l) ∉ h.plugins
  bounds : h'.fleet.bounds = h.fleet.bounds ++ [(h.sandboxFor plugin requested).bounds]

theorem loads_of_load {h h' : Host σ} {plugin : String} {requested : PermissionSet} {factory : Factory σ}
    (hl : h.load plugin requested factory = (.ok (), h')) : h.Loads plugin requested h' := by
  obtain ⟨hadmits, hloaded, i, hi, heq⟩ := load_eq_ok hl
  have hbox : i.sandbox = h.sandboxFor plugin requested := by
    obtain ⟨s, -, rfl⟩ := Incarnation.start?_eq_ok hi
    rfl
  subst heq
  exact {
    admits := hadmits
    policy := rfl
    workspace := rfl
    cwd := rfl
    plugins := by rw [Fleet.bounds, List.length_map]; rfl
    fresh := not_mem_of_isLoaded_eq_false hloaded
    bounds := by rw [← hbox]; exact Fleet.bounds_add _ _ }

theorem foldl_tearDown (interp : Interpreter σ) (ls : List (String × Loaded)) (h : Host σ) :
    let h' := ls.foldl (fun h (plugin, l) => h.tearDown interp plugin l.handle) h
    h'.policy = h.policy ∧ h'.workspace = h.workspace ∧ h'.scene.cwd = h.scene.cwd ∧
      ∀ p l, (p, l) ∈ h'.plugins → (p, l) ∈ h.plugins ∧ (p, l) ∉ ls := by
  induction ls generalizing h with
  | nil => exact ⟨rfl, rfl, rfl, fun p l hm => ⟨hm, List.not_mem_nil⟩⟩
  | cons q ls ih =>
    obtain ⟨hp, hw, hc, hm⟩ := ih (h.tearDown interp q.1 q.2.handle)
    obtain ⟨late, hcwd, heq⟩ := h.tearDown_eq interp q.1 q.2.handle
    refine ⟨hp.trans (by rw [heq]), hw.trans (by rw [heq]), hc.trans (by rw [heq]; exact hcwd), fun p l hpl => ?_⟩
    obtain ⟨hin, hout⟩ := hm p l hpl
    rw [plugins_tearDown, List.mem_filter, bne_iff_ne] at hin
    refine ⟨hin.1, fun h => ?_⟩
    rcases List.mem_cons.mp h with h | h
    · exact hin.2 (congrArg Prod.fst h)
    · exact hout h

/-! ## What keeps plugins confined -/

section
variable {π : Policy} {dir w : Option String} {request : String → Option PermissionSet} {h h' : Host σ}
  (hc : h.Confined π dir request w)
include hc

theorem Confined.acted {interp : Interpreter σ} (hk : interp.KeepsBounds) (ha : h.Acted interp h') :
    h'.Confined π dir request w where
  policy := ha.policy.trans hc.policy
  cwd := ha.cwd.trans hc.cwd
  workspace := ha.workspace.trans hc.workspace
  distinct := by rw [ha.plugins]; exact hc.distinct
  admitted := by rw [ha.plugins]; exact hc.admitted
  requested := by rw [ha.plugins]; exact hc.requested
  bounded := by rw [ha.plugins, ha.fleet.bounds hk]; exact hc.bounded

theorem Confined.loads {plugin : String} {requested : PermissionSet} (hl : h.Loads plugin requested h')
    {request' : String → Option PermissionSet} (hnew : request' plugin = some requested)
    (hold : ∀ p, p ≠ plugin → request' p = request p) : h'.Confined π dir request' w where
  policy := hl.policy.trans hc.policy
  cwd := hl.cwd.trans hc.cwd
  workspace := hl.workspace.trans hc.workspace
  distinct := by
    rw [hl.plugins, List.map_append, List.map_singleton, List.nodup_append]
    refine ⟨hc.distinct, List.nodup_singleton _, fun handle hh other ho => ?_⟩
    obtain ⟨⟨p, l⟩, hm, rfl⟩ := List.mem_map.mp hh
    obtain ⟨hlt, _⟩ := List.getElem?_eq_some_iff.mp (hc.bounded p l hm)
    -- the new handle lies beyond all that have bounds
    rw [List.mem_singleton.mp ho]
    exact Nat.ne_of_lt hlt
  admitted := by
    intro p l hm
    rw [hl.plugins, List.mem_append, List.mem_singleton] at hm
    rcases hm with hm | hm
    · exact hc.admitted p l hm
    · cases hm
      rw [← hc.policy]
      exact hl.admits
  requested := by
    intro p l hm
    rw [hl.plugins, List.mem_append, List.mem_singleton] at hm
    rcases hm with hm | hm
    · rw [hold p fun hp => hl.fresh l (hp ▸ hm)]
      exact hc.requested p l hm
    · cases hm
      exact hnew
  bounded := by
    intro p l hm
    rw [hl.plugins, List.mem_append, List.mem_singleton] at hm
    rw [hl.bounds]
    rcases hm with hm | hm
    · have hb := hc.bounded p l hm
      obtain ⟨hlt, _⟩ := List.getElem?_eq_some_iff.mp hb
      rw [List.getElem?_append_left hlt]
      exact hb
    · cases hm
      rw [List.getElem?_concat_length, bounds_sandboxFor, hc.policy, hc.cwd, hc.workspace]

theorem Confined.tearDown (interp : Interpreter σ) {plugin : String} {l : Loaded} (hl : (plugin, l) ∈ h.plugins) :
    (h.tearDown interp plugin l.handle).Confined π dir request w := by
  have hother : ∀ p k, (p, k) ∈ (h.tearDown interp plugin l.handle).plugins → (p, k) ∈ h.plugins ∧ p ≠ plugin := by
    intro p k hm
    rw [plugins_tearDown, List.mem_filter, bne_iff_ne] at hm
    exact hm
  have hbounded : ∀ p k, (p, k) ∈ (h.tearDown interp plugin l.handle).plugins →
      (h.tearDown interp plugin l.handle).fleet.bounds[k.handle]? = some (boundsUnder π dir w p k.requested) := by
    intro p k hm
    obtain ⟨hk, hp⟩ := hother p k hm
    -- the handle that is wiped is no other plugin's
    have hne : k.handle ≠ l.handle := fun he =>
      hp (congrArg Prod.fst (List.inj_on_of_nodup_map hc.distinct hk hl he))
    rw [Fleet.getElem?_bounds, get?_tearDown_of_ne h plugin l.handle hne, ← Fleet.getElem?_bounds]
    exact hc.bounded p k hk
  obtain ⟨late, hcwd, heq⟩ := h.tearDown_eq interp plugin l.handle
  rw [heq] at hother hbounded ⊢
  exact {
    policy := hc.policy
    cwd := hcwd.trans hc.cwd
    workspace := hc.workspace
    distinct := hc.distinct.sublist (List.filter_sublist.map _)
    admitted := fun p k hm => hc.admitted p k (hother p k hm).1
    requested := fun p k hm => hc.requested p k (hother p k hm).1
    bounded := hbounded }

theorem Confined.setWorkspace (path : String) : (h.setWorkspace path).Confined π dir request (some path) where
  policy := hc.policy
  cwd := hc.cwd
  workspace := rfl
  distinct := hc.distinct
  admitted := hc.admitted
  requested := hc.requested
  bounded := by
    intro p l hm
    have hn : l.handle ∈ h.plugins.map (·.2.handle) := List.mem_map_of_mem (f := fun q => q.2.handle) hm
    have hb := hc.bounded p l hm
    rw [Fleet.getElem?_bounds] at hb ⊢
    obtain ⟨i, hi, hbi⟩ := Option.map_eq_some_iff.mp hb
    rw [get?_setWorkspace, hi, Option.map_some, Option.map_some, if_pos hn]
    have hchecker := congrArg Prod.fst hbi
    have hlimits := congrArg Prod.snd hbi
    dsimp only [Sandbox.bounds] at hchecker hlimits ⊢
    rw [hchecker, hlimits, hc.cwd]
    rfl

end

section
variable {interp : Interpreter σ} {π : Policy} {dir w : Option String} {request : String → Option PermissionSet}
  {h : Host σ} (hc : h.Confined π dir request w)
include hc

theorem Confined.unloadAll : (h.unloadAll interp).Confined π dir request w := by
  obtain ⟨hp, hw, hd, hm⟩ := foldl_tearDown interp h.plugins h
  have hnil : (h.unloadAll interp).plugins = [] :=
    List.eq_nil_iff_forall_not_mem.mpr fun (p, l) hpl => (hm p l hpl).2 (hm p l hpl).1
  exact {
    policy := hp.trans hc.policy
    cwd := hd.trans hc.cwd
    workspace := hw.trans hc.workspace
    distinct := by rw [hnil]; exact List.nodup_nil
    admitted := by rw [hnil]; intro p l hpl; cases hpl
    requested := by rw [hnil]; intro p l hpl; cases hpl
    bounded := by rw [hnil]; intro p l hpl; cases hpl }

theorem Confined.perform (hk : interp.KeepsBounds) {op : Op σ} (hr : ∀ p, op.request? p = none)
    (hw : op.workspace? = none) : (h.perform interp op).2.Confined π dir request w := by
  have hperforms : h.Performs interp op (h.perform interp op) := h.performs op
  generalize h.perform interp op = r at hperforms ⊢
  cases hperforms with
  | refused => exact hc
  | acted _ _ ha => exact hc.acted hk ha
  | confined => cases hw
  | @loaded plugin => simpa [Op.request?] using hr plugin
  | unloaded hl | leftOut _ _ hl => exact hc.tearDown interp (mem_of_find hl)
  | reloaded hl hload =>
    have hm := mem_of_find hl
    exact (hc.tearDown interp hm).loads (loads_of_load hload) (hc.requested _ _ hm) fun _ _ => rfl
  | emptied => exact hc.unloadAll

end

/-! ## Runs -/

def Run.Confined (π : Policy) (dir : Option String) (r : Run σ) : Prop :=
  r.host.Confined π dir (fun p => lastRequest p r.succeeded) (lastWorkspace r.succeeded)

section
variable {interp : Interpreter σ} (hk : interp.KeepsBounds) {π : Policy} {dir : Option String}

theorem Run.Confined.load {r : Run σ} (hc : r.Confined π dir) (plugin : String) (requested : PermissionSet)
    (factory : Factory σ) : (r.step interp (.load plugin requested factory)).Confined π dir := by
  unfold Run.step
  rw [perform]
  rcases r.host.load_cases plugin requested factory with ⟨e, he⟩ | ⟨h', hl⟩
  · rw [he]
    exact hc
  · rw [hl]
    unfold Run.Confined
    dsimp only
    rw [lastWorkspace_concat]
    refine Host.Confined.loads hc (loads_of_load hl) ?_ fun p hp => ?_
    · rw [lastRequest_concat]
      simp [Op.request?]
    · rw [lastRequest_concat]
      simp [Op.request?, Ne.symm hp]

include hk

theorem Run.Confined.perform {r : Run σ} (hc : r.Confined π dir) {op : Op σ} (hr : ∀ p, op.request? p = none)
    (hw : op.workspace? = none) : (r.step interp op).Confined π dir := by
  unfold Run.Confined
  rw [Run.host_step, Run.lastWorkspace_step interp hw]
  simp only [Run.lastRequest_step interp (hr _)]
  exact Host.Confined.perform hc hk hr hw

theorem Run.Confined.step {r : Run σ} (hc : r.Confined π dir) (op : Op σ) :
    (r.step interp op).Confined π dir := by
  cases op with
  | load plugin requested factory => exact hc.load plugin requested factory
  | setWorkspace path =>
    have hs := Host.Confined.setWorkspace hc path
    unfold Run.Confined Run.step
    rw [Host.perform]
    simp only [lastRequest_concat, lastWorkspace_concat]
    exact hs
  | _ => exact hc.perform hk (fun _ => rfl) rfl

theorem Run.confined_run {h : Host σ} (hh : h.plugins = []) (hw : h.workspace = none) (ops : List (Op σ)) :
    (run interp h ops).Confined h.policy h.scene.cwd := by
  induction ops using List.reverseRecOn with
  | nil =>
    exact {
      policy := rfl
      cwd := rfl
      workspace := hw
      distinct := by rw [run, List.foldl_nil, hh]; exact List.nodup_nil
      admitted := by rw [run, List.foldl_nil, hh]; intro p l hm; cases hm
      requested := by rw [run, List.foldl_nil, hh]; intro p l hm; cases hm
      bounded := by rw [run, List.foldl_nil, hh]; intro p l hm; cases hm }
  | append_singleton ops op ih =>
    rw [run_concat]
    exact ih.step hk op

/-- **Confinement.** A loaded plugin is confined by the policy and the last workspace. -/
theorem confined_of_isLoaded (policy : Policy) (modules : ModuleRegistry) (config : ConfigStore)
    (graceMs : Nat) (scene : Scene) (ops : List (Op σ)) :
    let r := run interp (start policy modules config graceMs scene) ops
    ∀ plugin, r.host.isLoaded plugin = true → ∃ i request,
      r.host.incarnation plugin = .ok i ∧
        lastRequest plugin r.succeeded = some request ∧
        policy.admits plugin = true ∧
        i.sandbox.checker.snapshot = (Checker.ofPermissions scene.cwd (policy.filter request)).snapshot ∧
        i.sandbox.checker.workspace = (lastWorkspace r.succeeded).map (Path.normalize scene.cwd) ∧
        i.sandbox.monitor.limits = policy.limitsFor plugin := by
  intro r plugin hl
  have hc : r.Confined policy scene.cwd :=
    Run.confined_run (h := start policy modules config graceMs scene) hk rfl rfl ops
  obtain ⟨l, hlookup⟩ := Option.isSome_iff_exists.mp hl
  have hm := mem_of_lookup hlookup
  have hb := hc.bounded plugin l hm
  rw [Fleet.bounds, List.getElem?_map, Option.map_eq_some_iff] at hb
  obtain ⟨i, hi, hbi⟩ := hb
  have hchecker := congrArg Prod.fst hbi
  have hlimits := congrArg Prod.snd hbi
  refine ⟨i, l.requested, ?_, hc.requested plugin l hm, hc.admitted plugin l hm, ?_, ?_, hlimits⟩
  · unfold incarnation find Fleet.get?
    rw [hlookup]
    dsimp only [bind, Except.bind]
    rw [hi]
  · exact (congrArg Checker.snapshot hchecker).trans rfl
  · exact congrArg Checker.workspace hchecker

end

/-- A plugin asks for more than it gets, is loaded before the workspace is moved, and is loaded anew. -/
theorem confined_of_isLoaded_reloaded :
    let policy : Policy :=
      { mode := .denylist, pluginIds := ["q"], denied := [.filesystemWrite], untrusted := ["p"] }
    let ops : List (Op Script) :=
      [.load "p" { capabilities := [.filesystem, .events] } (Script.Recipe.factory {}),
        .load "q" { capabilities := [.shell] } (Script.Recipe.factory {}),
        .setWorkspace "/home/./u/", .subscribe "p" "saved" "on_save", .call "p" "spin" (.nat 7),
        .reload "p" (Script.Recipe.factory { generation := 2 })]
    Script.interpreter.KeepsBounds ∧ ∃ i,
      (run Script.interpreter (start policy .standard {} 2000 {}) ops).host.incarnation "p" = .ok i ∧
        i.sandbox.checker.snapshot =
          (Checker.ofPermissions (some "/") (policy.filter { capabilities := [.filesystem, .events] })).snapshot ∧
        i.sandbox.checker.workspace = some "/home/u" ∧
        i.sandbox.monitor.limits = Preset.strict.limits := by
  intro policy ops
  refine ⟨Script.interpreter_keepsBounds, ?_⟩
  obtain ⟨i, request, hi, hrequest, _, hsnapshot, hworkspace, hlimits⟩ :=
    confined_of_isLoaded Script.interpreter_keepsBounds policy .standard {} 2000 {} ops "p" (by decide +kernel)
  have hasked : some request = some { capabilities := [.filesystem, .events] } :=
    hrequest.symm.trans (by decide +kernel)
  cases hasked
  refine ⟨i, hi, hsnapshot, ?_, ?_⟩
  · rw [hworkspace]
    decide +kernel
  · rw [hlimits]
    decide +kernel

end PluginSandbox.Host
