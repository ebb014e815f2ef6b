import PluginSandbox.Proofs.Host.Lives
import PluginSandbox.Script

/-!
# Operations that fail

Whether an operation fails, and how, can be told from the host beforehand. One
that fails has changed nothing, but for a reload that cannot build the plugin
again: that leaves what unloading the plugin leaves.
-/

namespace PluginSandbox.Host

variable {σ : Type} {interp : Interpreter σ}

/-! ## Refusals -/

def loadRefusal? (h : Host σ) (plugin : String) (requested : PermissionSet) (factory : Factory σ) :
    Option HostError :=
  if !h.policy.admits plugin then some (.policyDenied ("plugin '" ++ plugin ++ "' blocked by policy"))
  else if h.isLoaded plugin then some (.pluginAlreadyLoaded plugin)
  else
    match factory (h.contextFor plugin requested) with
    | .error text => some (.initializationFailed plugin text)
    | .ok _ => none

def absence? (h : Host σ) (plugin : String) : Option HostError :=
  if h.isLoaded plugin then none else some (.pluginNotFound plugin)

def lack? (h : Host σ) (plugin : String) (c : Capability) : Option HostError :=
  match h.incarnation plugin with
  | .error e => some e
  | .ok i => if i.sandbox.checker.has c then none else some (.permissionDenied ⟨c, "", Denial.notGranted⟩)

/-- What the operation needs, on whose behalf. -/
def Op.demand? : Op σ → Option (String × Capability)
  | subscribe plugin _ _ => some (plugin, .events)
  | watchConfig plugin _ _ => some (plugin, .configRead)
  | setPluginConfig plugin _ _ => some (plugin, .configWrite)
  | _ => none

/-- The operation fails, if it does, for what is found on the host, and is then to leave it alone. -/
def Op.isChecked : Op σ → Bool
  | load .. | unload _ | resetMonitor _ | subscribe .. | watchConfig .. | setPluginConfig .. => true
  | _ => false

def refusal? (h : Host σ) : Op σ → Option HostError
  | .load plugin requested factory => h.loadRefusal? plugin requested factory
  | .unload plugin | .resetMonitor plugin => h.absence? plugin
  | op => op.demand?.bind fun (plugin, c) => h.lack? plugin c

/-! ## Outcomes -/

def verdict : Option HostError → Except HostError Unit
  | some e => .error e
  | none => .ok ()

section
variable (h : Host σ) (plugin : String)

theorem outcome_load (requested : PermissionSet) (factory : Factory σ) :
    (h.load plugin requested factory).1 = verdict (h.loadRefusal? plugin requested factory) := by
  unfold load loadRefusal?
  cases h.policy.admits plugin with
  | false => rfl
  | true =>
    cases h.isLoaded plugin with
    | true => rfl
    | false =>
      dsimp only
      unfold Fleet.spawn Incarnation.start?
      cases factory (h.contextFor plugin requested) <;> rfl

theorem outcome_find : outcome (h.find plugin) = verdict (h.absence? plugin) := by
  unfold absence?
  cases hl : h.isLoaded plugin with
  | true =>
    obtain ⟨l, hfind⟩ := find_of_isLoaded hl
    rw [hfind]
    rfl
  | false =>
    rw [find_of_not_isLoaded hl]
    rfl

theorem outcome_unload (interp : Interpreter σ) : (h.unload interp plugin).1 = verdict (h.absence? plugin) := by
  rw [← outcome_find, unload]
  cases h.find plugin <;> rfl

theorem outcome_resetMonitor : (h.resetMonitor plugin).1 = verdict (h.absence? plugin) := by
  rw [← outcome_find, resetMonitor]
  cases h.find plugin <;> rfl

theorem outcome_holder (c : Capability) : outcome (h.holder plugin c) = verdict (h.lack? plugin c) := by
  unfold holder lack? incarnation
  cases h.find plugin with
  | error e => rfl
  | ok l =>
    dsimp only [bind, Except.bind]
    cases h.fleet.get? l.handle with
    | none => rfl
    | some i =>
      simp only [Checker.checkCapability, Checker.demand]
      cases i.sandbox.checker.has c <;> rfl

theorem outcome_onBehalf {α : Type} (c : Capability) (act : Loaded → α × Host σ) :
    outcome (h.onBehalf plugin c act).1 = verdict (h.lack? plugin c) := by
  rw [← outcome_holder, onBehalf]
  cases h.holder plugin c <;> rfl

theorem getConfig_eq (key : String) :
    h.getConfig plugin key = (verdict (h.lack? plugin .configRead)).map fun _ => h.config.get? key := by
  rw [← outcome_holder, getConfig]
  cases h.holder plugin .configRead <;> rfl

variable {h plugin} in
theorem lack?_of_not_held {i : Incarnation σ} (hi : h.incarnation plugin = .ok i) {c : Capability}
    (hc : i.sandbox.checker.has c = false) :
    h.lack? plugin c = some (.permissionDenied ⟨c, "", Denial.notGranted⟩) := by
  simp [lack?, hi, hc]

end

/-! ## Any checked operation -/

structure Foreseen (interp : Interpreter σ) (h : Host σ) (op : Op σ) : Prop where
  outcome : (h.perform interp op).1 = verdict (h.refusal? op)
  unchanged : ∀ e, (h.perform interp op).1 = .error e → (h.perform interp op).2 = h

section
variable {op : Op σ} {plugin : String} {c : Capability} (hd : op.demand? = some (plugin, c))
include hd

theorem isChecked_of_demand : op.isChecked = true := by
  cases op with
  | subscribe | watchConfig | setPluginConfig => rfl
  | _ => cases hd

theorem refusal?_of_demand (h : Host σ) : h.refusal? op = h.lack? plugin c := by
  cases op with
  | subscribe | watchConfig | setPluginConfig => cases hd; rfl
  | _ => cases hd

theorem perform_of_demand (interp : Interpreter σ) (h : Host σ) :
    ∃ (α : Type) (act : Loaded → α × Host σ), h.perform interp op = (h.onBehalf plugin c act).map outcome id := by
  cases op with
  | subscribe | watchConfig | setPluginConfig =>
    cases hd
    simp only [perform, subscribe, watchConfig, setPluginConfig]
    exact ⟨_, _, rfl⟩
  | _ => cases hd

end

theorem outcome_perform (interp : Interpreter σ) (h : Host σ) {op : Op σ} (hop : op.isChecked = true) :
    (h.perform interp op).1 = verdict (h.refusal? op) := by
  cases hd : op.demand? with
  | some d =>
    obtain ⟨α, act, hact⟩ := perform_of_demand hd interp h
    rw [hact, refusal?_of_demand hd]
    exact h.outcome_onBehalf d.1 d.2 act
  | none =>
    cases op with
    | load plugin requested factory => exact h.outcome_load plugin requested factory
    | unload plugin => exact h.outcome_unload plugin interp
    | resetMonitor plugin => exact h.outcome_resetMonitor plugin
    | subscribe | watchConfig | setPluginConfig => cases hd
    | _ => cases hop

/-- Wherever a checked operation fails, the host that it leaves is the one it began with. -/
theorem perform_eq_error {h h' : Host σ} {op : Op σ} (hop : op.isChecked = true) {e : HostError}
    (hp : h.perform interp op = (.error e, h')) : h' = h := by
  cases hd : op.demand? with
  | some d =>
    obtain ⟨α, act, hact⟩ := perform_of_demand hd interp h
    rcases result_cases (h.onBehalf d.1 d.2 act) onBehalf_eq_error with ⟨e', he⟩ | ⟨a, h'', ha⟩
    · rw [hact, he] at hp
      cases hp
      rfl
    · rw [hact, ha] at hp
      cases hp
  | none =>
    cases op with
    | load => exact load_eq_error hp
    | unload => exact unload_eq_error hp
    | resetMonitor => exact resetMonitor_eq_error hp
    | subscribe | watchConfig | setPluginConfig => cases hd
    | _ => cases hop

theorem foreseen_perform (h : Host σ) {op : Op σ} (hop : op.isChecked = true) : h.Foreseen interp op where
  outcome := h.outcome_perform interp hop
  unchanged _ he := perform_eq_error hop (Prod.ext he rfl)

theorem perform_withheld {h : Host σ} {op : Op σ} {plugin : String} {c : Capability}
    (hd : op.demand? = some (plugin, c)) {i : Incarnation σ} (hi : h.incarnation plugin = .ok i)
    (hc : i.sandbox.checker.has c = false) :
    h.perform interp op = (.error (.permissionDenied ⟨c, "", Denial.notGranted⟩), h) := by
  have hforeseen : h.Foreseen interp op := h.foreseen_perform (isChecked_of_demand hd)
  have hout := hforeseen.outcome
  rw [refusal?_of_demand hd, lack?_of_not_held hi hc] at hout
  exact Prod.ext hout (hforeseen.unchanged _ hout)

/-! ## Other plugins -/

/-- But for the registrations of `plugin`, which are dropped, everything of the others is the same. -/
structure Spares (plugin : String) (h h' : Host σ) : Prop where
  policy : h'.policy = h.policy
  modules : h'.modules = h.modules
  workspace : h'.workspace = h.workspace
  find : ∀ other, other ≠ plugin → h'.find other = h.find other
  incarnation : ∀ other, other ≠ plugin → h'.incarnation other = h.incarnation other
  subscriptions : ∀ event, h'.events.subscriptions.handlers event =
    (h.events.subscriptions.handlers event).filter (·.plugin != plugin)
  watchers : ∀ key, h'.config.watchers.handlers key =
    (h.config.watchers.handlers key).filter (·.plugin != plugin)
  values : h'.config.values = h.config.values

theorem incarnation_congr {h h' : Host σ} {plugin : String} (hf : h'.find plugin = h.find plugin)
    (hget : ∀ l, h.find plugin = .ok l → h'.fleet.get? l.handle = h.fleet.get? l.handle) :
    h'.incarnation plugin = h.incarnation plugin := by
  unfold Host.incarnation
  rw [hf]
  cases hl : h.find plugin with
  | error e => rfl
  | ok l =>
    dsimp only [bind, Except.bind]
    rw [hget l hl]

section
variable {h h' : Host σ} {plugin : String}

theorem spares_tearDown (hs : h.Sound) (hk : h.Keyed) {l : Loaded} (hl : h.find plugin = .ok l) :
    h.Spares plugin (h.tearDown interp plugin l.handle) := by
  have hfind (other : String) (ho : other ≠ plugin) :
      (h.tearDown interp plugin l.handle).find other = h.find other :=
    find_filter (h.plugins_tearDown plugin l.handle) ho
  have hincarnation (other : String) (ho : other ≠ plugin) :
      (h.tearDown interp plugin l.handle).incarnation other = h.incarnation other := by
    refine incarnation_congr (hfind other ho) fun k hk => h.get?_tearDown_of_ne plugin l.handle ?_
    exact hs.ne_handle (mem_of_find hl) (mem_of_find hk) ho
  obtain ⟨late, -, heq⟩ := h.tearDown_eq interp plugin l.handle
  rw [heq] at hfind hincarnation ⊢
  exact {
    policy := rfl
    modules := rfl
    workspace := rfl
    find := hfind
    incarnation := hincarnation
    subscriptions := Topics.handlers_keep hk.1 _
    watchers := Topics.handlers_keep hk.2 _
    values := rfl }

theorem Spares.load {h₁ : Host σ} (hp : h.Spares plugin h₁) (hs : h₁.Sound) {requested : PermissionSet}
    {factory : Factory σ} (hl : h₁.load plugin requested factory = (.ok (), h')) : h.Spares plugin h' := by
  obtain ⟨-, -, i, -, heq⟩ := load_eq_ok hl
  have hplugins : h'.plugins = h₁.plugins ++ [(plugin, ⟨(h₁.fleet.add i).1, requested⟩)] := by rw [heq]
  have hfind (other : String) (ho : other ≠ plugin) : h'.find other = h₁.find other := find_append hplugins ho
  have hincarnation (other : String) (ho : other ≠ plugin) : h'.incarnation other = h₁.incarnation other := by
    refine incarnation_congr (hfind other ho) fun k hk => ?_
    rw [heq]
    exact List.getElem?_append_left (hs.lt_of_mem (mem_of_find hk))
  rw [heq] at hfind hincarnation ⊢
  exact {
    policy := hp.policy
    modules := hp.modules
    workspace := hp.workspace
    find := fun other ho => (hfind other ho).trans (hp.find other ho)
    incarnation := fun other ho => (hincarnation other ho).trans (hp.incarnation other ho)
    subscriptions := hp.subscriptions
    watchers := hp.watchers
    values := hp.values }

/-! ## Reloading -/

theorem isLoaded_tearDown (h : Host σ) (plugin : String) (handle : Handle) :
    (h.tearDown interp plugin handle).isLoaded plugin = false :=
  isLoaded_filter (h.plugins_tearDown plugin handle)

/-- The plugin is loaded, `unloaded` is what is left when it is unloaded, and a reload goes on from
there. -/
structure Reloads (interp : Interpreter σ) (h : Host σ) (plugin : String) (l : Loaded) (unloaded : Host σ) : Prop where
  unloads : h.perform interp (.unload plugin) = (.ok (), unloaded)
  gone : unloaded.isLoaded plugin = false
  dropped : ∀ r ∈ unloaded.registrations, r.plugin ≠ plugin
  spares : h.Spares plugin unloaded
  failed : ∀ factory text, factory (unloaded.contextFor plugin l.requested) = .error text →
    h.perform interp (.reload plugin factory) = (.error (.initializationFailed plugin text), unloaded)
  succeeded : ∀ factory s, factory (unloaded.contextFor plugin l.requested) = .ok s →
    ∃ h', unloaded.load plugin l.requested factory = (.ok (), h') ∧
      h.perform interp (.reload plugin factory) = (.ok (), h')
  loadable : ∀ requested factory s, factory (unloaded.contextFor plugin requested) = .ok s →
    ∃ h', unloaded.load plugin requested factory = (.ok (), h')

theorem load_of_accepted {requested : PermissionSet} {factory : Factory σ}
    (hr : h.loadRefusal? plugin requested factory = none) : ∃ h', h.load plugin requested factory = (.ok (), h') := by
  have hout := h.outcome_load plugin requested factory
  rw [hr] at hout
  exact ⟨_, Prod.ext hout rfl⟩

theorem load_of_refused {requested : PermissionSet} {factory : Factory σ} {e : HostError}
    (hr : h.loadRefusal? plugin requested factory = some e) : h.load plugin requested factory = (.error e, h) := by
  have hout := h.outcome_load plugin requested factory
  rw [hr] at hout
  exact Prod.ext hout (load_eq_error (Prod.ext hout rfl))

/-- A plugin that has just been unloaded is admitted as before, so only its factory may fail. -/
theorem loadRefusal?_tearDown (hs : h.Sound) {l : Loaded} (hl : h.find plugin = .ok l) (requested : PermissionSet)
    (factory : Factory σ) :
    (h.tearDown interp plugin l.handle).loadRefusal? plugin requested factory =
      match factory ((h.tearDown interp plugin l.handle).contextFor plugin requested) with
      | .error text => some (.initializationFailed plugin text)
      | .ok _ => none := by
  have hadmits : (h.tearDown interp plugin l.handle).policy.admits plugin = true := by
    rw [policy_tearDown]
    exact hs.admitted plugin l (mem_of_find hl)
  simp [loadRefusal?, hadmits, isLoaded_tearDown]

theorem reloads_of_find (hs : h.Sound) (hk : h.Keyed) {l : Loaded} (hl : h.find plugin = .ok l) :
    h.Reloads interp plugin l (h.tearDown interp plugin l.handle) := by
  have hloadable (requested : PermissionSet) (factory : Factory σ) (s : σ)
      (hf : factory ((h.tearDown interp plugin l.handle).contextFor plugin requested) = .ok s) :
      ∃ h', (h.tearDown interp plugin l.handle).load plugin requested factory = (.ok (), h') := by
    refine load_of_accepted ?_
    rw [loadRefusal?_tearDown hs hl, hf]
  refine ⟨?_, h.isLoaded_tearDown plugin l.handle, ?_, spares_tearDown hs hk hl, ?_, ?_, hloadable⟩
  · rw [perform, unload_of_find hl]
  · intro r hr
    rw [registrations_tearDown, List.mem_filter, bne_iff_ne] at hr
    exact hr.2
  · intro factory text hf
    rw [perform, reload_of_find hl]
    exact load_of_refused (by rw [loadRefusal?_tearDown hs hl, hf])
  · intro factory s hf
    obtain ⟨h', hloaded⟩ := hloadable l.requested factory s hf
    exact ⟨h', hloaded, by rw [perform, reload_of_find hl, hloaded]⟩

end

/-! ## Reachable hosts -/

structure FailsClean (interp : Interpreter σ) (h : Host σ) : Prop where
  checked : ∀ op : Op σ, op.isChecked = true → h.Foreseen interp op
  withheld : ∀ (op : Op σ) plugin c i, op.demand? = some (plugin, c) → h.incarnation plugin = .ok i →
    i.sandbox.checker.has c = false →
    h.perform interp op = (.error (.permissionDenied ⟨c, "", Denial.notGranted⟩), h)
  read : ∀ plugin key,
    h.getConfig plugin key = (verdict (h.lack? plugin .configRead)).map fun _ => h.config.get? key
  unread : ∀ plugin key i, h.incarnation plugin = .ok i → i.sandbox.checker.has .configRead = false →
    h.getConfig plugin key = .error (.permissionDenied ⟨.configRead, "", Denial.notGranted⟩)
  absent : ∀ plugin factory, h.isLoaded plugin = false →
    h.perform interp (.reload plugin factory) = (.error (.pluginNotFound plugin), h)
  reload : ∀ plugin l, h.find plugin = .ok l → ∃ unloaded, h.Reloads interp plugin l unloaded

/-- **Failed operations leave no trace.** This is so on every host that may come about. -/
theorem failsClean_life (interp : Interpreter σ) (policy : Policy) (modules : ModuleRegistry)
    (values : List (String × Json)) (graceMs : Nat) (scene : Scene) (deeds : List (Deed σ)) :
    (life interp (start policy modules (.ofList values) graceMs scene) deeds).host.FailsClean interp := by
  have hr := coherent_life interp policy modules values graceMs scene deeds
  exact {
    checked := fun _ hop => foreseen_perform _ hop
    withheld := fun _ _ _ _ hd hi hc => perform_withheld hd hi hc
    read := fun plugin key => getConfig_eq _ plugin key
    unread := fun plugin key _ hi hc => by rw [getConfig_eq, lack?_of_not_held hi hc]; rfl
    absent := fun plugin factory hl => by
      rw [perform, Host.reload, find_of_not_isLoaded hl, remove_of_not_isLoaded hl]
    reload := fun _ _ hl => ⟨_, reloads_of_find hr.sound hr.keyed hl⟩ }

/-- `p` may not write settings, and is not loaded anew by a factory that fails; `q` is spared. -/
theorem failsClean_life_failing :
    let asked : PermissionSet := { capabilities := [.events] }
    let failing := Script.Recipe.factory { failure := some (.raised "no") }
    let deeds : List (Deed Script) :=
      [.op (.load "p" asked (Script.Recipe.factory {})), .op (.load "q" asked (Script.Recipe.factory {})),
        .op (.subscribe "q" "saved" "on_save"), .submit 0 (.notice "late" .null)]
    let h := (life Script.interpreter (start {} .standard (.ofList [("tab", .nat 4)]) 2000 {}) deeds).host
    h.perform Script.interpreter (.setPluginConfig "p" "tab" .null) =
        (.error (.permissionDenied ⟨.configWrite, "", Denial.notGranted⟩), h) ∧
      ∃ unloaded, h.perform Script.interpreter (.unload "p") = (.ok (), unloaded) ∧
        h.perform Script.interpreter (.reload "p" failing) =
          (.error (.initializationFailed "p" (ScriptError.raised "no").message), unloaded) ∧
        unloaded.isLoaded "p" = false ∧ unloaded.incarnation "q" = h.incarnation "q" := by
  intro asked failing deeds h
  have hclean : h.FailsClean Script.interpreter :=
    failsClean_life Script.interpreter {} .standard [("tab", .nat 4)] 2000 {} deeds
  have hl : h.find "p" = .ok ⟨0, asked⟩ := by decide +kernel
  have hlacks : h.refusal? (.setPluginConfig "p" "tab" .null) =
      some (.permissionDenied ⟨.configWrite, "", Denial.notGranted⟩) := by
    decide +kernel
  have hwrite := hclean.checked (.setPluginConfig "p" "tab" .null) rfl
  have hrefused : (h.perform Script.interpreter (.setPluginConfig "p" "tab" .null)).1 =
      .error (.permissionDenied ⟨.configWrite, "", Denial.notGranted⟩) := by
    rw [hwrite.outcome, hlacks]
    rfl
  obtain ⟨unloaded, hreloads⟩ := hclean.reload "p" _ hl
  refine ⟨Prod.ext hrefused (hwrite.unchanged _ hrefused), unloaded, hreloads.unloads, ?_, hreloads.gone, ?_⟩
  · exact hreloads.failed failing _ rfl
  · exact hreloads.spares.incarnation "q" (by decide)

end PluginSandbox.Host
