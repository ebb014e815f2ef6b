import PluginSandbox.Proofs.Filtering
import PluginSandbox.Proofs.Host.Bounds
import PluginSandbox.Proofs.Host.Failures
import PluginSandbox.Proofs.ModuleRegistry

/-!
# Exposed modules

When a plugin is loaded it is given the modules whose capability its checker holds.
Whatever happens to the host, these are the ones that it exposes to the plugin for
as long as that stays loaded with the same grants and denials.
-/

namespace PluginSandbox

variable {σ : Type} {interp : Interpreter σ}

/-! ## Rights -/

/-- The same grants and the same denials, in whatever order. -/
structure Checker.SameRights (k k' : Checker) : Prop where
  granted : ∀ c, c ∈ k'.granted ↔ c ∈ k.granted
  denied : ∀ c, c ∈ k'.denied ↔ c ∈ k.denied

namespace Checker

theorem SameRights.refl (k : Checker) : k.SameRights k :=
  ⟨fun _ => .rfl, fun _ => .rfl⟩

theorem SameRights.trans {k k' k'' : Checker} (h : k.SameRights k') (h' : k'.SameRights k'') : k.SameRights k'' where
  granted := fun c => (h'.granted c).trans (h.granted c)
  denied := fun c => (h'.denied c).trans (h.denied c)

theorem SameRights.has {k k' : Checker} (h : k.SameRights k') (c : Capability) : k'.has c = k.has c := by
  rw [Bool.eq_iff_iff, has_iff, has_iff]
  simp only [h.granted, h.denied]

theorem sameRights_setWorkspace (k : Checker) (cwd : Option String) (path : String) :
    k.SameRights (k.setWorkspace cwd path) :=
  ⟨fun _ => .rfl, fun _ => .rfl⟩

end Checker

theorem ModuleRegistry.exposedTo_of_sameRights (r : ModuleRegistry) {k k' : Checker} (h : k.SameRights k') :
    r.exposedTo k' = r.exposedTo k :=
  List.filter_congr fun m _ => h.has m.capability

def Interpreter.KeepsRights (interp : Interpreter σ) : Prop :=
  ∀ scene interrupted callback args (box : Sandbox) s,
    box.checker.SameRights (interp.invoke scene interrupted callback args box s).sandbox.checker

theorem Interpreter.KeepsBounds.keepsRights (hk : interp.KeepsBounds) : interp.KeepsRights := by
  intro scene interrupted callback args box s
  have hchecker := congrArg Prod.fst (hk scene interrupted callback args box s)
  dsimp only [Sandbox.bounds] at hchecker
  rw [hchecker]
  exact .refl _

theorem Incarnation.sameRights_after {k : Checker} (hk : interp.KeepsRights) {i : Incarnation σ}
    (h : k.SameRights i.sandbox.checker) {acts : List (Act σ)} (hacts : ∀ a ∈ acts, a.isRoutine = true) :
    k.SameRights (i.after interp acts).sandbox.checker := by
  refine sandbox_after (P := fun box => k.SameRights box.checker) ?_ ?_ ?_ h hacts
  · exact fun _ hbox => hbox
  · exact fun _ _ hbox => hbox
  · exact fun scene heard callback args box s hbox => hbox.trans (hk scene heard callback args box s)

namespace Host

/-! ## Plugins that stay -/

/-- The modules are those of `registry`, and the plugin is still what was loaded as `l`. If rights are
`kept`, it has those of `k`. -/
structure Stays (kept : Prop) (registry : ModuleRegistry) (plugin : String) (l : Loaded) (k : Checker) (h : Host σ) :
    Prop where
  modules : h.modules = registry
  find : h.find plugin = .ok l
  rights : ∃ i, h.fleet.get? l.handle = some i ∧ (kept → k.SameRights i.sandbox.checker)

section
variable {kept : Prop} {registry : ModuleRegistry} {plugin : String} {l : Loaded} {k : Checker} {h h' : Host σ}
  (hs : h.Stays kept registry plugin l k)
include hs

theorem Stays.exposedModules :
    ∃ i, h.incarnation plugin = .ok i ∧ (kept → k.SameRights i.sandbox.checker) ∧
      (k.SameRights i.sandbox.checker → h.exposedModules plugin = .ok (registry.exposedTo k)) := by
  obtain ⟨i, hget, hrights⟩ := hs.rights
  have hi : h.incarnation plugin = .ok i := incarnation_of_find hs.find hget
  refine ⟨i, hi, hrights, fun hsame => ?_⟩
  rw [Host.exposedModules, hi, hs.modules, ← registry.exposedTo_of_sameRights hsame]
  rfl

theorem Stays.acted (hk : kept → interp.KeepsRights) (ha : h.Acted interp h') :
    h'.Stays kept registry plugin l k := by
  obtain ⟨i, hget, hrights⟩ := hs.rights
  obtain ⟨acts, hroutine, hacts⟩ := ha.fleet.acts l.handle i hget
  refine ⟨ha.modules.trans hs.modules, (find_congr ha.plugins plugin).trans hs.find, _, hacts, fun hkept => ?_⟩
  exact Incarnation.sameRights_after (hk hkept) (hrights hkept) hroutine

theorem Stays.of_get? (hmodules : h'.modules = h.modules) (hplugins : h'.plugins = h.plugins)
    {change : Incarnation σ → Incarnation σ} (hget : h'.fleet.get? l.handle = (h.fleet.get? l.handle).map change)
    (hc : kept → ∀ i : Incarnation σ, i.sandbox.checker.SameRights (change i).sandbox.checker) :
    h'.Stays kept registry plugin l k := by
  obtain ⟨i, hi, hrights⟩ := hs.rights
  refine ⟨hmodules.trans hs.modules, (find_congr hplugins plugin).trans hs.find, change i, ?_, fun hkept => ?_⟩
  · rw [hget, hi]
    rfl
  · exact (hrights hkept).trans (hc hkept i)

theorem Stays.setWorkspace (path : String) : (h.setWorkspace path).Stays kept registry plugin l k := by
  refine hs.of_get? rfl rfl (h.get?_setWorkspace path l.handle) fun _ i => ?_
  split
  next => exact i.sandbox.checker.sameRights_setWorkspace _ _
  next => exact .refl _

theorem Stays.modify (handle : Handle) {change : Incarnation σ → Incarnation σ}
    (hc : kept → handle = l.handle → ∀ i : Incarnation σ, i.sandbox.checker.SameRights (change i).sandbox.checker) :
    (h.modify handle change).Stays kept registry plugin l k := by
  refine hs.of_get? rfl rfl (h.fleet.get?_modify handle l.handle change) fun hkept i => ?_
  split
  next hn => exact hc hkept hn i
  next => exact .refl _

theorem Stays.load {other : String} {requested : PermissionSet} {factory : Factory σ}
    (hl : h.load other requested factory = (.ok (), h')) : h'.Stays kept registry plugin l k := by
  obtain ⟨-, hfresh, j, -, rfl⟩ := load_eq_ok hl
  obtain ⟨i, hi, hrights⟩ := hs.rights
  -- a name that is loaded cannot be loaded once more
  have hne : plugin ≠ other := fun he => not_mem_of_isLoaded_eq_false hfresh l (he ▸ mem_of_find hs.find)
  refine ⟨hs.modules, (find_append rfl hne).trans hs.find, i, ?_, hrights⟩
  exact (List.getElem?_append_left (List.getElem?_eq_some_iff.mp hi).1).trans hi

theorem Stays.tearDown (hsound : h.Sound) {other : String} {lo : Loaded} (hl : h.find other = .ok lo)
    (hne : plugin ≠ other) : (h.tearDown interp other lo.handle).Stays kept registry plugin l k := by
  have hhandle : l.handle ≠ lo.handle := hsound.ne_handle (mem_of_find hl) (mem_of_find hs.find) hne
  refine ⟨(h.modules_tearDown other lo.handle).trans hs.modules, ?_, ?_⟩
  · exact (find_filter (h.plugins_tearDown other lo.handle) hne).trans hs.find
  · rw [get?_tearDown_of_ne h other lo.handle hhandle]
    exact hs.rights

theorem Stays.perform (hsound : h.Sound) (hk : kept → interp.KeepsRights) {op : Op σ} (hop : op.unloads plugin = false) :
    (h.perform interp op).2.Stays kept registry plugin l k := by
  have hperforms : h.Performs interp op (h.perform interp op) := h.performs op
  generalize h.perform interp op = r at hperforms ⊢
  cases hperforms with
  | refused => exact hs
  | acted _ _ ha => exact hs.acted hk ha
  | confined path => exact hs.setWorkspace path
  | loaded hl => exact hs.load hl
  | unloaded hl | leftOut _ _ hl => exact hs.tearDown hsound hl (Ne.symm (of_decide_eq_false hop))
  | reloaded hl hload => exact (hs.tearDown hsound hl (Ne.symm (of_decide_eq_false hop))).load hload
  | emptied => cases hop

end

/-! ## Whatever happens -/

def Deed.unloads (plugin : String) : Deed σ → Bool
  | .op o => o.unloads plugin
  | _ => false

def Deed.KeepsRights (handle : Handle) : Deed σ → Prop
  | touch other change => other = handle → ∀ box : Sandbox, box.checker.SameRights (change box).checker
  | _ => True

section
variable {kept : Prop} {registry : ModuleRegistry} {plugin : String} {l : Loaded} {k : Checker} {r : Run σ}

theorem Stays.undergo (hs : r.host.Stays kept registry plugin l k) (hsound : r.host.Sound)
    (hk : kept → interp.KeepsRights) {d : Deed σ} (hd : d.unloads plugin = false)
    (hkd : kept → d.KeepsRights l.handle) : (r.undergo interp d).host.Stays kept registry plugin l k := by
  cases d with
  | op op =>
    rw [Run.undergo, Run.host_step]
    exact hs.perform hsound hk hd
  | touch handle change => exact hs.modify handle fun hkept hn i => hkd hkept hn i.sandbox
  | submit handle job =>
    refine hs.modify handle fun _ _ i => ?_
    unfold Incarnation.offer
    split <;> exact .refl _
  | release handle =>
    refine hs.modify handle fun _ _ i => ?_
    unfold Incarnation.release
    split <;> exact .refl _
  | _ => exact ⟨hs.modules, hs.find, hs.rights⟩

theorem Stays.after (hs : r.host.Stays kept registry plugin l k) (hsound : r.host.Sound)
    (hk : kept → interp.KeepsRights) {deeds : List (Deed σ)} (hd : ∀ d ∈ deeds, d.unloads plugin = false)
    (hkd : kept → ∀ d ∈ deeds, d.KeepsRights l.handle) : (r.after interp deeds).host.Stays kept registry plugin l k := by
  refine (Run.after_keep interp (P := fun r => r.host.Sound ∧ r.host.Stays kept registry plugin l k)
    (fun d hm r hr => ?_) ⟨hsound, hs⟩).2
  exact ⟨Run.sound_undergo hr.1 d, hr.2.undergo hr.1 hk (hd d hm) fun hkept => hkd hkept d hm⟩

end

/-! ## Loading -/

def Op.factory? (plugin : String) : Op σ → Option (Factory σ)
  | load p _ factory => if p = plugin then some factory else none
  | reload p factory => if p = plugin then some factory else none
  | _ => none

theorem load_of_perform {h : Host σ} {op : Op σ} {plugin : String} {factory : Factory σ}
    (hop : op.factory? plugin = some factory) (hr : (h.perform interp op).1 = .ok ()) :
    ∃ (h₀ : Host σ) (requested : PermissionSet), h₀.load plugin requested factory = (.ok (), (h.perform interp op).2) ∧
      h₀.policy = h.policy ∧ h₀.modules = h.modules ∧ h₀.scene.cwd = h.scene.cwd := by
  have hperforms : h.Performs interp op (h.perform interp op) := h.performs op
  generalize h.perform interp op = r at hperforms hr ⊢
  cases hperforms with
  | refused | leftOut => cases hr
  | acted hq => cases op <;> first | cases hop | cases hq
  | loaded hl =>
    obtain ⟨rfl, hf⟩ := Option.ite_none_right_eq_some.mp hop
    cases hf
    exact ⟨h, _, hl, rfl, rfl, rfl⟩
  | reloaded hl hload =>
    obtain ⟨rfl, hf⟩ := Option.ite_none_right_eq_some.mp hop
    cases hf
    exact ⟨_, _, hload, h.policy_tearDown .., h.modules_tearDown .., h.cwd_tearDown ..⟩
  | confined | unloaded | emptied => cases hop

theorem built_of_load {h h' : Host σ} {plugin : String} {requested : PermissionSet} {factory : Factory σ}
    (hl : h.load plugin requested factory = (.ok (), h')) :
    ∃ l i, h'.find plugin = .ok l ∧ l.requested = requested ∧ h'.fleet.get? l.handle = some i ∧
      factory (h.contextFor plugin requested) = .ok i.state ∧ (h.contextFor plugin requested).sandbox = i.sandbox ∧
      h'.modules = h.modules := by
  obtain ⟨-, hfresh, i, hstart, rfl⟩ := load_eq_ok hl
  obtain ⟨s, hbuilt, rfl⟩ := Incarnation.start?_eq_ok hstart
  exact ⟨_, _, find_append_self rfl hfresh, rfl, List.getElem?_concat_length, hbuilt, rfl, rfl⟩

section
variable (h : Host σ) (plugin : String) (requested : PermissionSet)

theorem sameRights_contextFor :
    (Checker.ofPermissions h.scene.cwd (h.policy.filter requested)).SameRights
      (h.contextFor plugin requested).sandbox.checker := by
  unfold contextFor sandboxFor
  cases h.workspace with
  | none => exact .refl _
  | some path => exact Checker.sameRights_setWorkspace _ _ path

theorem modules_contextFor :
    (h.contextFor plugin requested).modules =
      h.modules.exposedTo (Checker.ofPermissions h.scene.cwd (h.policy.filter requested)) :=
  h.modules.exposedTo_of_sameRights (h.sameRights_contextFor plugin requested)

end

theorem not_denied_of_exposed {registry : ModuleRegistry} {π : Policy} {cwd : Option String} {requested : PermissionSet}
    {m : HostModule} (hm : m ∈ registry.exposedTo (Checker.ofPermissions cwd (π.filter requested))) :
    ∀ d ∈ π.denied, d.implies m.capability = false :=
  Policy.denies_eq_false_iff.mp (Policy.denies_eq_false_of_has (List.mem_filter.mp hm).2)

/-! ## The main result -/

/-- The runs of hosts that come about, whose modules may be replaced at any time. -/
inductive Run.ComesAbout (interp : Interpreter σ) : Run σ → Prop where
  | start (policy : Policy) (modules : ModuleRegistry) (values : List (String × Json)) (graceMs : Nat) (scene : Scene) :
    ComesAbout interp { host := Host.start policy modules (.ofList values) graceMs scene }
  | undergo {r : Run σ} (hr : ComesAbout interp r) (d : Deed σ) : ComesAbout interp (r.undergo interp d)
  | equip {r : Run σ} (hr : ComesAbout interp r) (modules : ModuleRegistry) :
    ComesAbout interp { r with host.modules := modules }

theorem Run.ComesAbout.coherent {r : Run σ} (hr : r.ComesAbout interp) : r.Coherent := by
  induction hr with
  | start policy modules values graceMs scene => exact coherent_life interp policy modules values graceMs scene []
  | undergo _ d ih => exact ih.undergo d
  | equip _ modules ih => exact ⟨ih.sound.of_plugins rfl rfl fun _ i hi => ⟨i, hi⟩, ih.keyed, ih.remembers⟩

/-- `context` is what the plugin was built from when it was loaded as `l`, `k` the checker that its request
comes down to, and `r` the run up to then. The modules in it are those that `k` holds. No deed in `later`
replaces the modules of the host: it exposes those in `context` until the plugin is unloaded or its
rights are changed, which no operation of the host does. -/
structure Equipped (interp : Interpreter σ) (registry : ModuleRegistry) (policy : Policy) (plugin : String)
    (factory : Factory σ) (r : Run σ) (l : Loaded) (k : Checker) (context : Context) : Prop where
  built : ∃ i, r.host.incarnation plugin = .ok i ∧ factory context = .ok i.state ∧ context.sandbox = i.sandbox
  rights : k.SameRights context.sandbox.checker
  modules : context.modules = registry.modules.filter fun m => k.has m.capability
  undenied : ∀ m ∈ context.modules, ∀ d ∈ policy.denied, d.implies m.capability = false
  exposed : ∀ later : List (Deed σ), (∀ d ∈ later, d.unloads plugin = false) →
    ∃ i, (r.after interp later).host.incarnation plugin = .ok i ∧
      (k.SameRights i.sandbox.checker → (r.after interp later).host.exposedModules plugin = .ok context.modules) ∧
      (interp.KeepsRights → (∀ d ∈ later, d.KeepsRights l.handle) → k.SameRights i.sandbox.checker)

variable (interp) in
theorem equipped_of_load {h : Host σ} {plugin : String} {requested : PermissionSet} {factory : Factory σ} {r : Run σ}
    (hsound : r.host.Sound) (hl : h.load plugin requested factory = (.ok (), r.host)) :
    ∃ l context, r.host.find plugin = .ok l ∧ l.requested = requested ∧
      Equipped interp h.modules h.policy plugin factory r l
        (Checker.ofPermissions h.scene.cwd (h.policy.filter requested)) context := by
  obtain ⟨l, i, hfind, hrequested, hget, hbuilt, hbox, hmodules⟩ := built_of_load hl
  have hrights := h.sameRights_contextFor plugin requested
  have hexposed := h.modules_contextFor plugin requested
  refine ⟨l, h.contextFor plugin requested, hfind, hrequested, ?_⟩
  exact {
    built := ⟨i, incarnation_of_find hfind hget, hbuilt, hbox⟩
    rights := hrights
    modules := hexposed
    undenied := fun m hm => not_denied_of_exposed (hexposed ▸ hm)
    exposed := by
      intro later hlater
      have hstays : r.host.Stays (interp.KeepsRights ∧ ∀ d ∈ later, d.KeepsRights l.handle) h.modules plugin l
          (Checker.ofPermissions h.scene.cwd (h.policy.filter requested)) :=
        ⟨hmodules, hfind, i, hget, fun _ => hbox ▸ hrights⟩
      obtain ⟨j, hj, hkept, hsame⟩ := (hstays.after hsound And.left hlater And.right).exposedModules
      exact ⟨j, hj, fun h => (hsame h).trans (congrArg _ hexposed.symm), fun hk hd => hkept ⟨hk, hd⟩⟩ }

/-- **Modules behind the gate.** A registry is told by the calls that made it. Whenever a plugin is loaded by
a host that has it, for the first time or again, the plugin is given the modules that the policy leaves
to its request, and these are what the host exposes to it from then on. -/
theorem modules_behind_gate (interp : Interpreter σ) (calls : List HostModule) :
    let registry := ModuleRegistry.ofList calls
    registry.ToldBy calls ∧
      ∀ r : Run σ, r.ComesAbout interp → r.host.modules = registry →
        ∀ op plugin factory, op.factory? plugin = some factory → (r.host.perform interp op).1 = .ok () →
          ∃ l context, (r.step interp op).host.find plugin = .ok l ∧
            lastRequest plugin (r.step interp op).succeeded = some l.requested ∧
            Equipped interp registry r.host.policy plugin factory (r.step interp op) l
              (Checker.ofPermissions r.host.scene.cwd (r.host.policy.filter l.requested)) context := by
  intro registry
  refine ⟨ModuleRegistry.toldBy_ofList calls, fun r hr hmodules op plugin factory hop hok => ?_⟩
  obtain ⟨h₀, requested, hload, hpolicy, hsame, hcwd⟩ := load_of_perform hop hok
  have hcoherent : (r.step interp op).Coherent := (hr.undergo (.op op)).coherent
  rw [← Run.host_step] at hload
  obtain ⟨l, context, hl, rfl, hequipped⟩ := equipped_of_load interp hcoherent.sound hload
  rw [hpolicy, hsame, hcwd, hmodules] at hequipped
  exact ⟨l, context, hl, hcoherent.remembers plugin l (mem_of_find hl), hequipped⟩

/-- `p` asks for all files and may only read them. The module it is then given was first registered for
writing. It is exposed to it also after the workspace was set, another plugin came and went, and its
checker was told of a host. -/
theorem modules_behind_gate_reading :
    let calls : List HostModule :=
      [⟨"files", .filesystem⟩, ⟨"text", .filesystemWrite⟩, ⟨"panels", .ui⟩, ⟨"text", .filesystemRead⟩]
    let asked : PermissionSet := { capabilities := [.filesystem, .ui] }
    let factory := Script.Recipe.factory {}
    let r : Run Script := { host := start { denied := [.filesystemWrite] } (.ofList calls) (.ofList []) 2000 {} }
    let load : Op Script := .load "p" asked factory
    let later : List (Deed Script) :=
      [.op (.setWorkspace "/home"), .op (.load "q" {} factory), .op (.unload "q"),
        .touch 0 fun box => { box with checker := box.checker.allowHost "a.example" }]
    let left : List HostModule := [⟨"text", .filesystemRead⟩, ⟨"panels", .ui⟩]
    r.ComesAbout Script.interpreter ∧ load.factory? "p" = some factory ∧
      (r.host.perform Script.interpreter load).1 = .ok () ∧
      ∃ context i, (r.step Script.interpreter load).host.incarnation "p" = .ok i ∧ factory context = .ok i.state ∧
        context.modules = left ∧
        ((r.step Script.interpreter load).after Script.interpreter later).host.exposedModules "p" = .ok left := by
  intro calls asked factory r load later left
  have hr : r.ComesAbout Script.interpreter := .start _ _ _ _ _
  have hload : load.factory? "p" = some factory := rfl
  have hok : (r.host.perform Script.interpreter load).1 = .ok () := by decide +kernel
  obtain ⟨l, context, hl, -, hequipped⟩ :=
    (modules_behind_gate Script.interpreter calls).2 r hr rfl load "p" factory hload hok
  have hfound : (r.step Script.interpreter load).host.find "p" = .ok ⟨0, asked⟩ := by decide +kernel
  cases hl.symm.trans hfound
  have hmodules : context.modules = left := by
    rw [hequipped.modules]
    decide +kernel
  obtain ⟨i, hi, hbuilt, -⟩ := hequipped.built
  have hallows (box : Sandbox) : box.checker.SameRights (box.checker.allowHost "a.example") :=
    ⟨fun _ => .rfl, fun _ => .rfl⟩
  have hkeeps : ∀ d ∈ later, d.KeepsRights 0 := by simpa [later, Deed.KeepsRights] using hallows
  obtain ⟨j, -, hexposed, hkept⟩ := hequipped.exposed later (by decide)
  refine ⟨hr, hload, hok, context, i, hi, hbuilt, hmodules, ?_⟩
  rw [← hmodules]
  exact hexposed (hkept Script.interpreter_keepsBounds.keepsRights hkeeps)

end Host

end PluginSandbox
