import Mathlib.Data.List.Nodup
import Mathlib.Logic.Relation
import PluginSandbox.Proofs.Host.Acts
import PluginSandbox.Proofs.Worker.Withdrawn

/-!
# What operations come down to

Every operation changes its host in four ways only, one after another: acts on
the incarnations, a new workspace, the loading of a plugin and the tearing down
of one. What each of the four keeps, no operation breaks.
-/

namespace PluginSandbox

variable {σ : Type} {interp : Interpreter σ}

namespace Host

/-! ## A new workspace -/

theorem get?_setWorkspace (h : Host σ) (path : String) (handle : Handle) :
    (h.setWorkspace path).fleet.get? handle = (h.fleet.get? handle).map fun i =>
      if handle ∈ h.plugins.map (·.2.handle) then
        { i with sandbox.checker := i.sandbox.checker.setWorkspace h.scene.cwd path }
      else i := by
  unfold setWorkspace
  dsimp only
  generalize h.fleet = f
  induction h.plugins generalizing f with
  | nil => simp
  | cons q rest ih =>
    rw [List.foldl_cons, ih, Fleet.get?_modify, Option.map_map]
    congr 1
    funext i
    dsimp only [Function.comp]
    -- A handle that is named again is confined again, which changes nothing.
    by_cases hn : q.2.handle = handle
    · simp [hn, Checker.setWorkspace]
    · simp [hn, Ne.symm hn, -List.mem_map]

/-! ## Tearing down -/

variable (interp) in
theorem shutDown_eq (h : Host σ) (handle : Handle) :
    ∃ late : Scene, late.cwd = h.scene.cwd ∧ h.shutDown interp handle =
      { h with fleet := h.fleet.modify handle fun i => i.stopped.settle interp h.scene, scene := late } := by
  unfold shutDown
  dsimp only
  split
  · split
    · exact ⟨h.scene, rfl, rfl⟩
    · exact ⟨h.scene.pass h.graceMs, Scene.cwd_pass _ _, rfl⟩
  · exact ⟨h.scene, rfl, rfl⟩

variable (interp) in
/-- The plugin and its registrations go, its incarnation is stopped and wiped, and some time passes. -/
theorem tearDown_eq (h : Host σ) (plugin : String) (handle : Handle) :
    ∃ late : Scene, late.cwd = h.scene.cwd ∧ h.tearDown interp plugin handle =
      { h with
        plugins := h.plugins.filter (·.1 != plugin)
        events := ⟨h.events.subscriptions.keep (·.plugin != plugin)⟩
        config := { h.config with watchers := h.config.watchers.keep (·.plugin != plugin) }
        fleet := h.fleet.modify handle fun i => (i.stopped.settle interp h.scene).wipe late
        scene := late } := by
  -- shutting down looks at nothing that was taken away before
  let bare : Host σ := { h with
    plugins := h.plugins.filter (·.1 != plugin)
    events := ⟨h.events.subscriptions.keep (·.plugin != plugin)⟩
    config := { h.config with watchers := h.config.watchers.keep (·.plugin != plugin) } }
  obtain ⟨late, hcwd, hshut⟩ := bare.shutDown_eq interp handle
  refine ⟨late, hcwd, ?_⟩
  have htorn : h.tearDown interp plugin handle =
      (bare.shutDown interp handle).modify handle (·.wipe (bare.shutDown interp handle).scene) := rfl
  rw [htorn, hshut]
  unfold modify Fleet.modify
  dsimp only
  rw [List.modify_modify_eq]
  rfl

section
variable (h : Host σ) (plugin : String) (handle : Handle)

theorem plugins_tearDown : (h.tearDown interp plugin handle).plugins = h.plugins.filter (·.1 != plugin) := by
  obtain ⟨late, -, heq⟩ := h.tearDown_eq interp plugin handle
  rw [heq]

theorem policy_tearDown : (h.tearDown interp plugin handle).policy = h.policy := by
  obtain ⟨late, -, heq⟩ := h.tearDown_eq interp plugin handle
  rw [heq]

theorem modules_tearDown : (h.tearDown interp plugin handle).modules = h.modules := by
  obtain ⟨late, -, heq⟩ := h.tearDown_eq interp plugin handle
  rw [heq]

theorem cwd_tearDown : (h.tearDown interp plugin handle).scene.cwd = h.scene.cwd := by
  obtain ⟨late, hcwd, heq⟩ := h.tearDown_eq interp plugin handle
  rw [heq]
  exact hcwd

theorem nextId_tearDown : (h.tearDown interp plugin handle).nextId = h.nextId := by
  obtain ⟨late, -, heq⟩ := h.tearDown_eq interp plugin handle
  rw [heq]

theorem get?_tearDown_of_ne {other : Handle} (ho : other ≠ handle) :
    (h.tearDown interp plugin handle).fleet.get? other = h.fleet.get? other := by
  obtain ⟨late, -, heq⟩ := h.tearDown_eq interp plugin handle
  rw [heq]
  dsimp only
  rw [Fleet.get?_modify]
  simp [Ne.symm ho]

variable (interp) in
theorem get?_tearDown_self :
    ∃ late, (h.tearDown interp plugin handle).fleet.get? handle =
      (h.fleet.get? handle).map fun i => (i.stopped.settle interp h.scene).wipe late := by
  obtain ⟨late, -, heq⟩ := h.tearDown_eq interp plugin handle
  refine ⟨late, ?_⟩
  rw [heq]
  dsimp only
  rw [Fleet.get?_modify]
  simp

theorem registrations_tearDown :
    (h.tearDown interp plugin handle).registrations = h.registrations.filter (·.plugin != plugin) := by
  obtain ⟨late, -, heq⟩ := h.tearDown_eq interp plugin handle
  rw [heq]
  simp [registrations, Topics.all_keep]

theorem registers_tearDown : h.Registers (h.tearDown interp plugin handle) := by
  obtain ⟨late, -, heq⟩ := h.tearDown_eq interp plugin handle
  rw [heq]
  exact .of_subset (fun hk => ⟨hk.1.keep _, hk.2.keep _⟩) rfl (fun _ => Topics.mem_all_of_keep)
    fun _ => Topics.mem_all_of_keep

end

/-! ## Unloading and reloading -/

section
variable {h : Host σ} {plugin : String} {l : Loaded} (hl : h.find plugin = .ok l)
include hl

theorem unload_of_find : h.unload interp plugin = (.ok (), h.tearDown interp plugin l.handle) := by
  rw [unload, hl]

theorem reload_of_find (factory : Factory σ) :
    h.reload interp plugin factory = (h.tearDown interp plugin l.handle).load plugin l.requested factory := by
  rw [reload, hl]

end

/-! ## The cases of an operation -/

/-- An operation with its answer and what it leaves of the host. A reload that fails leaves the plugin
unloaded. -/
inductive Performs (interp : Interpreter σ) (h : Host σ) : Op σ → Except HostError Unit × Host σ → Prop where
  | refused (op : Op σ) (e : HostError) : Performs interp h op (.error e, h)
  | acted {op : Op σ} (hq : op.isQuiet = true) (r : Except HostError Unit) {h' : Host σ}
      (ha : h.Acted interp h') : Performs interp h op (r, h')
  | confined (path : String) : Performs interp h (.setWorkspace path) (.ok (), h.setWorkspace path)
  | loaded {plugin : String} {requested : PermissionSet} {factory : Factory σ} {h' : Host σ}
      (hl : h.load plugin requested factory = (.ok (), h')) :
      Performs interp h (.load plugin requested factory) (.ok (), h')
  | unloaded {plugin : String} {l : Loaded} (hl : h.find plugin = .ok l) :
      Performs interp h (.unload plugin) (.ok (), h.tearDown interp plugin l.handle)
  | leftOut {plugin : String} {l : Loaded} (factory : Factory σ) (e : HostError) (hl : h.find plugin = .ok l) :
      Performs interp h (.reload plugin factory) (.error e, h.tearDown interp plugin l.handle)
  | reloaded {plugin : String} {l : Loaded} {factory : Factory σ} {h' : Host σ} (hl : h.find plugin = .ok l)
      (hload : (h.tearDown interp plugin l.handle).load plugin l.requested factory = (.ok (), h')) :
      Performs interp h (.reload plugin factory) (.ok (), h')
  | emptied : Performs interp h .unloadAll (.ok (), h.unloadAll interp)

theorem performs (h : Host σ) (op : Op σ) : h.Performs interp op (h.perform interp op) := by
  cases hq : op.isQuiet with
  | true => exact .acted hq _ (h.acted_perform hq)
  | false =>
    cases op with
    | load plugin requested factory =>
      rw [perform]
      rcases h.load_cases plugin requested factory with ⟨e, he⟩ | ⟨h', hload⟩
      · rw [he]
        exact .refused _ e
      · rw [hload]
        exact .loaded hload
    | unload plugin =>
      rw [perform]
      cases hl : h.find plugin with
      | error e =>
        rw [unload, hl, remove_of_find hl]
        exact .refused _ e
      | ok l =>
        rw [unload_of_find hl]
        exact .unloaded hl
    | reload plugin factory =>
      rw [perform]
      cases hl : h.find plugin with
      | error e =>
        rw [reload, hl, remove_of_find hl]
        exact .refused _ e
      | ok l =>
        rw [reload_of_find hl]
        rcases (h.tearDown interp plugin l.handle).load_cases plugin l.requested factory with ⟨e, he⟩ | ⟨h', hload⟩
        · rw [he]
          exact .leftOut factory e hl
        · rw [hload]
          exact .reloaded hl hload
    | unloadAll => exact .emptied
    | setWorkspace path => exact .confined path
    | _ => cases hq

/-! ## Four ways to change -/

inductive Change (interp : Interpreter σ) : Host σ → Host σ → Prop where
  | acted {h h' : Host σ} (ha : h.Acted interp h') : Change interp h h'
  | confined (h : Host σ) (path : String) : Change interp h (h.setWorkspace path)
  | loaded {h h' : Host σ} {plugin : String} {requested : PermissionSet} {factory : Factory σ}
      (hl : h.load plugin requested factory = (.ok (), h')) : Change interp h h'
  | tornDown {h : Host σ} {plugin : String} {l : Loaded} (hl : h.find plugin = .ok l) :
      Change interp h (h.tearDown interp plugin l.handle)

abbrev Changes (interp : Interpreter σ) : Host σ → Host σ → Prop :=
  Relation.ReflTransGen (Change interp)

theorem registers_load {h h' : Host σ} {plugin : String} {requested : PermissionSet} {factory : Factory σ}
    (hl : h.load plugin requested factory = (.ok (), h')) : h.Registers h' := by
  obtain ⟨-, -, i, -, rfl⟩ := load_eq_ok hl
  exact .of_eq rfl rfl rfl

theorem Change.registers {h h' : Host σ} (hc : Change interp h h') : h.Registers h' := by
  cases hc with
  | acted ha => exact ha.registers
  | confined path => exact .of_eq rfl rfl rfl
  | loaded hl => exact registers_load hl
  | tornDown hl => exact h.registers_tearDown _ _

/-! ## Soundness -/

structure Sound (h : Host σ) : Prop where
  names : (h.plugins.map (·.1)).Nodup
  handles : (h.plugins.map (·.2.handle)).Nodup
  admitted : ∀ p l, (p, l) ∈ h.plugins → h.policy.admits p = true
  present : ∀ p l, (p, l) ∈ h.plugins → ∃ i, h.fleet.get? l.handle = some i

section
variable {h h' : Host σ} {plugin : String}

theorem Sound.ne_handle (hs : h.Sound) {l l' : Loaded} {other : String} (hl : (plugin, l) ∈ h.plugins)
    (hl' : (other, l') ∈ h.plugins) (ho : other ≠ plugin) : l'.handle ≠ l.handle := fun he =>
  ho (congrArg Prod.fst (List.inj_on_of_nodup_map hs.handles hl' hl he))

theorem Sound.of_plugins (hs : h.Sound) (hpolicy : h'.policy = h.policy) (hplugins : h'.plugins = h.plugins)
    (hfleet : ∀ handle i, h.fleet.get? handle = some i → ∃ i', h'.fleet.get? handle = some i') : h'.Sound where
  names := hplugins ▸ hs.names
  handles := hplugins ▸ hs.handles
  admitted := by rw [hplugins, hpolicy]; exact hs.admitted
  present := by
    rw [hplugins]
    intro p l hm
    obtain ⟨i, hi⟩ := hs.present p l hm
    exact hfleet l.handle i hi

theorem Sound.lt_of_mem (hs : h.Sound) {p : String} {l : Loaded} (hm : (p, l) ∈ h.plugins) :
    l.handle < h.fleet.members.length := by
  obtain ⟨i, hi⟩ := hs.present p l hm
  exact (List.getElem?_eq_some_iff.mp hi).1

theorem Sound.load (hs : h.Sound) {requested : PermissionSet} {factory : Factory σ}
    (hl : h.load plugin requested factory = (.ok (), h')) : h'.Sound := by
  obtain ⟨hadmits, hfresh, i, -, rfl⟩ := load_eq_ok hl
  constructor
  · rw [List.map_append, List.nodup_append]
    refine ⟨hs.names, List.nodup_singleton _, fun name hname other ho he => ?_⟩
    obtain ⟨⟨p, l⟩, hm, rfl⟩ := List.mem_map.mp hname
    have hp : p = plugin := he.trans (List.mem_singleton.mp ho)
    exact not_mem_of_isLoaded_eq_false hfresh l (hp ▸ hm)
  · rw [List.map_append, List.nodup_append]
    refine ⟨hs.handles, List.nodup_singleton _, fun handle hh other ho => ?_⟩
    obtain ⟨⟨p, l⟩, hm, rfl⟩ := List.mem_map.mp hh
    rw [List.mem_singleton.mp ho]
    exact Nat.ne_of_lt (hs.lt_of_mem hm)
  · intro p l hm
    rcases List.mem_append.mp hm with hm | hm
    · exact hs.admitted p l hm
    · cases List.mem_singleton.mp hm
      exact hadmits
  · intro p l hm
    unfold Fleet.get? Fleet.add
    rcases List.mem_append.mp hm with hm | hm
    · obtain ⟨j, hj⟩ := hs.present p l hm
      exact ⟨j, (List.getElem?_append_left (hs.lt_of_mem hm)).trans hj⟩
    · cases List.mem_singleton.mp hm
      exact ⟨i, List.getElem?_concat_length⟩

theorem Sound.tearDown (hs : h.Sound) {l : Loaded} (hl : h.find plugin = .ok l) :
    (h.tearDown interp plugin l.handle).Sound := by
  have hplugins : (h.tearDown interp plugin l.handle).plugins = h.plugins.filter (·.1 != plugin) :=
    h.plugins_tearDown plugin l.handle
  have hother : ∀ p k, (p, k) ∈ (h.tearDown interp plugin l.handle).plugins → (p, k) ∈ h.plugins ∧ p ≠ plugin := by
    intro p k hm
    rw [hplugins, List.mem_filter, bne_iff_ne] at hm
    exact hm
  constructor
  · rw [hplugins]
    exact hs.names.sublist (List.filter_sublist.map _)
  · rw [hplugins]
    exact hs.handles.sublist (List.filter_sublist.map _)
  · rw [policy_tearDown]
    exact fun p k hm => hs.admitted p k (hother p k hm).1
  · intro p k hm
    obtain ⟨hk, hp⟩ := hother p k hm
    rw [get?_tearDown_of_ne h plugin l.handle (hs.ne_handle (mem_of_find hl) hk hp)]
    exact hs.present p k hk

theorem Sound.change (hs : h.Sound) (hc : Change interp h h') : h'.Sound := by
  cases hc with
  | acted ha =>
    refine hs.of_plugins ha.policy ha.plugins fun handle i hi => ?_
    obtain ⟨acts, -, hacts⟩ := ha.fleet.acts handle i hi
    exact ⟨_, hacts⟩
  | confined path =>
    refine hs.of_plugins rfl rfl fun handle i hi => ?_
    rw [get?_setWorkspace, hi]
    exact ⟨_, rfl⟩
  | loaded hl => exact hs.load hl
  | tornDown hl => exact hs.tearDown hl

theorem Changes.keep {P : Host σ → Prop} (hP : ∀ {h h'}, h.Sound → Change interp h h' → P h → P h')
    (hc : Changes interp h h') (hs : h.Sound) (hh : P h) : h'.Sound ∧ P h' := by
  induction hc with
  | refl => exact ⟨hs, hh⟩
  | tail _ hstep ih => exact ⟨ih.1.change hstep, hP ih.1 hstep ih.2⟩

theorem Changes.sound (hc : Changes interp h h') (hs : h.Sound) : h'.Sound :=
  (hc.keep (P := fun _ => True) (fun _ _ _ => trivial) hs trivial).1

end

theorem sound_start (policy : Policy) (modules : ModuleRegistry) (config : ConfigStore) (graceMs : Nat)
    (scene : Scene) : (start policy modules config graceMs scene : Host σ).Sound where
  names := List.nodup_nil
  handles := List.nodup_nil
  admitted := fun _ _ hm => absurd hm List.not_mem_nil
  present := fun _ _ hm => absurd hm List.not_mem_nil

theorem keyed_start (policy : Policy) (modules : ModuleRegistry) (values : List (String × Json)) (graceMs : Nat)
    (scene : Scene) : (start policy modules (.ofList values) graceMs scene : Host σ).Keyed :=
  ⟨Topics.keyed_empty, Topics.keyed_empty⟩

end Host

end PluginSandbox
