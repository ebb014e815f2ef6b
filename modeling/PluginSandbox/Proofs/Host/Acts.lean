import Mathlib.Data.List.Induction
import PluginSandbox.Proofs.Delivery.Topics
import PluginSandbox.Proofs.Host.Run
import PluginSandbox.Proofs.Worker.Serving

/-!
# What a host does to its incarnations

Calls, events, writes of configuration and resets of monitors come down to
acts on the incarnations of the host. They leave the same plugins loaded, and
what they register leads to the plugin that registered it.
-/

namespace PluginSandbox

variable {σ : Type} {interp : Interpreter σ}

namespace Fleet

structure Acted (interp : Interpreter σ) (f f' : Fleet σ) : Prop where
  size : f'.members.length = f.members.length
  acts : ∀ handle i, f.get? handle = some i →
    ∃ acts, (∀ a ∈ acts, a.isRoutine = true) ∧ f'.get? handle = some (i.after interp acts)

theorem Acted.refl (f : Fleet σ) : f.Acted interp f :=
  ⟨rfl, fun _ _ hi => ⟨[], by simp, hi⟩⟩

theorem Acted.trans {f f' f'' : Fleet σ} (h : f.Acted interp f') (h' : f'.Acted interp f'') :
    f.Acted interp f'' := by
  refine ⟨h'.size.trans h.size, fun handle i hi => ?_⟩
  obtain ⟨acts, hroutine, hacts⟩ := h.acts handle i hi
  obtain ⟨more, hmoreRoutine, hmore⟩ := h'.acts handle _ hacts
  refine ⟨acts ++ more, ?_, hmore.trans (congrArg some (i.after_append interp acts more).symm)⟩
  rw [List.forall_mem_append]
  exact ⟨hroutine, hmoreRoutine⟩

theorem Acted.exists_of_get? {f f' : Fleet σ} (ha : f.Acted interp f') {handle : Handle} {j : Incarnation σ}
    (hj : f'.get? handle = some j) :
    ∃ i acts, f.get? handle = some i ∧ (∀ a ∈ acts, a.isRoutine = true) ∧ j = i.after interp acts := by
  cases hi : f.get? handle with
  | none =>
    have hlong : f.members.length ≤ handle := List.getElem?_eq_none_iff.mp hi
    have hlt : handle < f'.members.length := (List.getElem?_eq_some_iff.mp hj).1
    exact absurd (ha.size ▸ hlt) (Nat.not_lt.mpr hlong)
  | some i =>
    obtain ⟨acts, hroutine, hacts⟩ := ha.acts handle i hi
    exact ⟨i, acts, rfl, hroutine, Option.some.inj (hj.symm.trans hacts)⟩

theorem acted_modify (f : Fleet σ) {handle : Handle} {change : Incarnation σ → Incarnation σ} {a : Act σ}
    (ha : a.isRoutine = true) (hc : ∀ i, f.get? handle = some i → change i = i.act interp a) :
    f.Acted interp (f.modify handle change) := by
  refine ⟨by simp [modify], fun other i hi => ?_⟩
  rw [get?_modify, hi, Option.map_some]
  by_cases ho : handle = other
  · refine ⟨[a], by simpa using ha, ?_⟩
    rw [if_pos ho, hc i (ho ▸ hi)]
    rfl
  · exact ⟨[], by simp, by rw [if_neg ho]; rfl⟩

theorem acted_settle (f : Fleet σ) (scene : Scene) : f.Acted interp (f.settle interp scene) := by
  refine ⟨by simp [settle], fun handle i hi => ?_⟩
  obtain ⟨moves, hmoves⟩ := i.advanceFor_eq_after interp scene (8 * i.worker.queue.length + 16)
  refine ⟨_, fun a ha => ?_, (?_ : _ = some (i.after interp (List.replicate moves (.move scene))))⟩
  · rw [List.eq_of_mem_replicate ha]
    rfl
  · unfold settle get? at *
    rw [List.getElem?_map, hi, ← hmoves]
    rfl

theorem acted_notify {f f' : Fleet σ} {handle : Handle} {callback : String} {args : Json}
    (h : f.notify handle callback args = .ok f') : f.Acted interp f' := by
  obtain ⟨i, w, hi, hw, rfl⟩ := notify_eq_ok h
  refine f.acted_modify (a := .notify callback args) rfl fun j hj => ?_
  cases hi.symm.trans hj
  rw [Incarnation.act, hw]

theorem acted_deliver (payload : Json) (rs : List Registration) (f : Fleet σ) :
    f.Acted interp (f.deliver payload rs).2 :=
  deliver_of_notify (fun h hn => h.trans (acted_notify hn)) (.refl f) payload rs

end Fleet

namespace Host

/-! ## Registrations -/

def registrations (h : Host σ) : List Registration :=
  h.events.subscriptions.all ++ h.config.watchers.all

def Owns (h : Host σ) (r : Registration) : Prop :=
  ∃ l, h.find r.plugin = .ok l ∧ r.handle = l.handle

def Keyed (h : Host σ) : Prop :=
  h.events.subscriptions.Keyed ∧ h.config.watchers.Keyed

structure Registers (h h' : Host σ) : Prop where
  keyed : h.Keyed → h'.Keyed
  nextId : h.nextId ≤ h'.nextId
  registered : ∀ r ∈ h'.registrations,
    r ∈ h.registrations ∨ h.Owns r ∧ h.nextId ≤ r.id.value ∧ r.id.value < h'.nextId

theorem Registers.of_subset {h h' : Host σ} (hkeyed : h.Keyed → h'.Keyed) (hn : h'.nextId = h.nextId)
    (hevents : ∀ r ∈ h'.events.subscriptions.all, r ∈ h.events.subscriptions.all)
    (hwatchers : ∀ r ∈ h'.config.watchers.all, r ∈ h.config.watchers.all) : h.Registers h' where
  keyed := hkeyed
  nextId := Nat.le_of_eq hn.symm
  registered := fun r hr =>
    .inl (List.mem_append.mpr ((List.mem_append.mp hr).imp (hevents r) (hwatchers r)))

theorem Registers.of_eq {h h' : Host σ} (he : h'.events = h.events)
    (hw : h'.config.watchers = h.config.watchers) (hn : h'.nextId = h.nextId) : h.Registers h' := by
  refine .of_subset (fun hk => ?_) hn ?_ ?_
  · rw [Keyed, he, hw]
    exact hk
  · rw [he]
    exact fun _ hr => hr
  · rw [hw]
    exact fun _ hr => hr

theorem Registers.trans {h h' h'' : Host σ} (hp : h'.plugins = h.plugins) (ha : h.Registers h')
    (hb : h'.Registers h'') : h.Registers h'' where
  keyed := hb.keyed ∘ ha.keyed
  nextId := Nat.le_trans ha.nextId hb.nextId
  registered := by
    intro r hr
    rcases hb.registered r hr with hr | ⟨⟨l, hl, hhandle⟩, hle, hlt⟩
    · rcases ha.registered r hr with hr | ⟨howns, hle, hlt⟩
      · exact .inl hr
      · exact .inr ⟨howns, hle, Nat.lt_of_lt_of_le hlt hb.nextId⟩
    · exact .inr ⟨⟨l, find_congr hp r.plugin ▸ hl, hhandle⟩, Nat.le_trans ha.nextId hle, hlt⟩

/-! ## Hosts -/

/-- The same plugins under the same settings, each served by its worker. -/
structure Acted (interp : Interpreter σ) (h h' : Host σ) : Prop where
  policy : h'.policy = h.policy
  modules : h'.modules = h.modules
  workspace : h'.workspace = h.workspace
  cwd : h'.scene.cwd = h.scene.cwd
  plugins : h'.plugins = h.plugins
  fleet : h.fleet.Acted interp h'.fleet
  registers : h.Registers h'

theorem Acted.refl (h : Host σ) : h.Acted interp h :=
  ⟨rfl, rfl, rfl, rfl, rfl, .refl _, .of_eq rfl rfl rfl⟩

theorem Acted.trans {h h' h'' : Host σ} (ha : h.Acted interp h') (hb : h'.Acted interp h'') :
    h.Acted interp h'' where
  policy := hb.policy.trans ha.policy
  modules := hb.modules.trans ha.modules
  workspace := hb.workspace.trans ha.workspace
  cwd := hb.cwd.trans ha.cwd
  plugins := hb.plugins.trans ha.plugins
  fleet := ha.fleet.trans hb.fleet
  registers := ha.registers.trans ha.plugins hb.registers

theorem Acted.incarnation_eq_ok {h h' : Host σ} (hs : h.Acted interp h') {plugin : String} {i : Incarnation σ}
    (hi : h.incarnation plugin = .ok i) : ∃ acts, h'.incarnation plugin = .ok (i.after interp acts) := by
  obtain ⟨l, hl, hget⟩ := Host.incarnation_eq_ok hi
  obtain ⟨acts, -, hacts⟩ := hs.fleet.acts l.handle i hget
  refine ⟨acts, ?_⟩
  unfold incarnation
  rw [find_congr hs.plugins, hl]
  dsimp only [bind, Except.bind]
  rw [hacts]

section
variable (h : Host σ)

theorem Acted.of_fleet {f : Fleet σ} (hf : h.fleet.Acted interp f) : h.Acted interp { h with fleet := f } :=
  ⟨rfl, rfl, rfl, rfl, rfl, hf, .of_eq rfl rfl rfl⟩

theorem Acted.of_registers {events : EventBus} {config : ConfigStore} {nextId : Nat}
    (hr : h.Registers { h with events, config, nextId }) : h.Acted interp { h with events, config, nextId } :=
  ⟨rfl, rfl, rfl, rfl, rfl, .refl _, hr⟩

theorem acted_pass (ms : Nat) : h.Acted interp { h with scene := h.scene.pass ms } :=
  ⟨rfl, rfl, rfl, Scene.cwd_pass _ _, rfl, .refl _, .of_eq rfl rfl rfl⟩

theorem acted_settle : h.Acted interp (h.settle interp) :=
  .of_fleet h (h.fleet.acted_settle h.scene)

theorem acted_modify {handle : Handle} {change : Incarnation σ → Incarnation σ} {a : Act σ}
    (ha : a.isRoutine = true) (hc : ∀ i, h.fleet.get? handle = some i → change i = i.act interp a) :
    h.Acted interp (h.modify handle change) :=
  .of_fleet h (h.fleet.acted_modify ha hc)

/-! ## Registering -/

variable {h} in
theorem acted_subscribe {h' : Host σ} {plugin event callback : String} {id : SubscriptionId}
    (hs : h.subscribe plugin event callback = (.ok id, h')) : h.Acted interp h' := by
  obtain ⟨l, hl, rfl⟩ := subscribe_eq_ok hs
  refine .of_registers h ⟨fun hk => ⟨hk.1.insert event _, hk.2⟩, Nat.le_succ _, fun r hr => ?_⟩
  rcases List.mem_append.mp hr with hr | hr
  · rcases Topics.mem_all_insert event _ |>.mp hr with hr | rfl
    · exact .inl (List.mem_append_left _ hr)
    · exact .inr ⟨⟨l, hl, rfl⟩, Nat.le_refl _, Nat.lt_succ_self _⟩
  · exact .inl (List.mem_append_right _ hr)

variable {h} in
theorem acted_watchConfig {h' : Host σ} {plugin key callback : String} {id : SubscriptionId}
    (hw : h.watchConfig plugin key callback = (.ok id, h')) : h.Acted interp h' := by
  obtain ⟨l, hl, rfl⟩ := watchConfig_eq_ok hw
  refine .of_registers h ⟨fun hk => ⟨hk.1, hk.2.insert key _⟩, Nat.le_succ _, fun r hr => ?_⟩
  rcases List.mem_append.mp hr with hr | hr
  · exact .inl (List.mem_append_left _ hr)
  · rcases Topics.mem_all_insert key _ |>.mp hr with hr | rfl
    · exact .inl (List.mem_append_right _ hr)
    · exact .inr ⟨⟨l, hl, rfl⟩, Nat.le_refl _, Nat.lt_succ_self _⟩

theorem acted_unsubscribe (id : SubscriptionId) : h.Acted interp (h.unsubscribe id).2 :=
  .of_registers h (.of_subset (fun hk => ⟨hk.1.keep _, hk.2⟩) rfl (fun _ => Topics.mem_all_of_keep) fun _ hr => hr)

theorem acted_unwatchConfig (id : SubscriptionId) : h.Acted interp (h.unwatchConfig id).2 :=
  .of_registers h (.of_subset (fun hk => ⟨hk.1, hk.2.keep _⟩) rfl (fun _ hr => hr) fun _ => Topics.mem_all_of_keep)

/-! ## Calling and telling -/

variable {h} in
theorem acted_enqueueCall {h' : Host σ} {plugin callback : String} {args : Json} {ticket : Ticket}
    (he : h.enqueueCall plugin callback args = (.ok ticket, h')) : h.Acted interp h' := by
  obtain ⟨l, i, w, -, hget, -, hw, rfl⟩ := enqueueCall_eq_ok he
  refine h.acted_modify (a := .call callback args) rfl fun j hj => ?_
  cases hget.symm.trans hj
  rw [Incarnation.act, hw]

theorem acted_awaitCall (plugin : String) (handle : Handle) (ticket : Ticket) :
    h.Acted interp (h.awaitCall interp plugin handle ticket).2 := by
  unfold awaitCall
  split
  · exact .refl h
  · split
    · exact .refl h
    next ms _ =>
      let late : Host σ := { h with scene := h.scene.pass ms.toNat }
      have hcancel : late.Acted interp
          (late.modify handle fun i => { i with worker := i.worker.cancel ticket }) :=
        late.acted_modify (a := .cancel ticket) rfl fun _ _ => rfl
      exact ((h.acted_pass ms.toNat).trans hcancel).trans (acted_settle _)

theorem acted_call (plugin callback : String) (args : Json) :
    h.Acted interp (h.call interp plugin callback args).2 := by
  unfold call
  split
  next l ticket queued _ he =>
    exact ((acted_enqueueCall he).trans queued.acted_settle).trans (acted_awaitCall _ plugin l.handle ticket)
  next he =>
    rw [enqueueCall_eq_error he]
    exact .refl h
  next => exact .refl h

theorem acted_publish (event : String) (payload : Json) : h.Acted interp (h.publish event payload).2 :=
  .of_fleet h (Fleet.acted_deliver _ _ _)

theorem acted_setConfig (key : String) (value : Json) : h.Acted interp (h.setConfig key value).2 := by
  unfold setConfig ConfigStore.set
  dsimp only
  split
  · exact .refl h
  · exact ⟨rfl, rfl, rfl, rfl, rfl, Fleet.acted_deliver _ _ _, .of_eq rfl rfl rfl⟩

variable {h} in
theorem acted_resetMonitor {h' : Host σ} {plugin : String} (hr : h.resetMonitor plugin = (.ok (), h')) :
    h.Acted interp h' := by
  obtain ⟨l, -, rfl⟩ := resetMonitor_eq_ok hr
  exact h.acted_modify (a := .reset h.scene.now) rfl fun _ _ => rfl

/-! ## Any operation -/

theorem acted_of_eq {α : Type} (r : Except HostError α × Host σ)
    (hok : ∀ {a h'}, r = (.ok a, h') → h.Acted interp h') (herror : ∀ {e h'}, r = (.error e, h') → h' = h) :
    h.Acted interp r.2 := by
  rcases result_cases r herror with ⟨e, he⟩ | ⟨a, h', ha⟩
  · rw [he]
    exact .refl h
  · rw [ha]
    exact hok ha

/-- An operation that neither loads nor unloads, and sets no workspace, is some routine acts on each
incarnation. -/
theorem acted_perform {op : Op σ} (hop : op.isQuiet = true) : h.Acted interp (h.perform interp op).2 := by
  cases op with
  | load | unload | reload | unloadAll | setWorkspace => cases hop
  | subscribe p e c => exact h.acted_of_eq (h.subscribe p e c) acted_subscribe onBehalf_eq_error
  | unsubscribe id => exact h.acted_unsubscribe id
  | publish e v => exact h.acted_publish e v
  | watchConfig p key c => exact h.acted_of_eq (h.watchConfig p key c) acted_watchConfig onBehalf_eq_error
  | unwatchConfig id => exact h.acted_unwatchConfig id
  | setConfig key v => exact h.acted_setConfig key v
  | setPluginConfig p key v =>
    refine h.acted_of_eq (h.setPluginConfig p key v) (fun ha => ?_) onBehalf_eq_error
    have hset : h.Acted interp (h.setConfig key v).2 := h.acted_setConfig key v
    rw [(setPluginConfig_eq_ok ha).2] at hset
    exact hset
  | resetMonitor p => exact h.acted_of_eq (h.resetMonitor p) acted_resetMonitor resetMonitor_eq_error
  | call p c args =>
    have hs : h.Acted interp (h.call interp p c args).2 := h.acted_call p c args
    rw [perform]
    dsimp only
    split <;> exact hs
  | startCall p c args => exact h.acted_of_eq (h.enqueueCall p c args) acted_enqueueCall enqueueCall_eq_error
  | awaitCall p handle ticket => exact h.acted_awaitCall p handle ticket
  | moveWorker handle => exact h.acted_modify (a := .move h.scene) rfl fun _ _ => rfl
  | elapse ms => exact h.acted_pass ms

variable (interp) in
theorem acted_run (ops : List (Op σ)) (hops : ∀ op ∈ ops, op.isQuiet = true) :
    h.Acted interp (run interp h ops).host := by
  induction ops using List.reverseRecOn with
  | nil => exact .refl h
  | append_singleton ops op ih =>
    rw [run_concat, Run.host_step]
    have hbefore := ih fun op' hop' => hops op' (List.mem_append_left _ hop')
    exact hbefore.trans (acted_perform _ (hops op (List.mem_append_right _ (List.mem_singleton_self _))))

end

end Host

end PluginSandbox
