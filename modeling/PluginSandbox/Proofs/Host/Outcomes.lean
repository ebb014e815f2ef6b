import PluginSandbox.Host.Call
import PluginSandbox.Host.Routing
import PluginSandbox.Proofs.Lookup

/-!
# Outcomes of host operations

What has been checked and what has changed when an operation of the host, or of
its fleet, succeeds, and that one that answers with an error leaves the host as it
found it. What is proved of hosts starts from these, not from the operations.
-/

namespace PluginSandbox

variable {σ : Type}

theorem Scene.cwd_pass (s : Scene) (ms : Nat) : (s.pass ms).cwd = s.cwd := by
  cases s; rfl

theorem Incarnation.start?_eq_ok {context : Context} {capacity : Nat} {factory : Factory σ} {i : Incarnation σ}
    (h : start? context capacity factory = .ok i) :
    ∃ s, factory context = .ok s ∧
      i = { sandbox := context.sandbox, state := s, worker := .start context.plugin capacity } := by
  unfold start? at h
  split at h
  · cases h
  next s hs =>
    cases h
    exact ⟨s, hs, rfl⟩

/-! ## Fleets -/

namespace Fleet

theorem get?_modify (f : Fleet σ) (handle other : Handle) (change : Incarnation σ → Incarnation σ) :
    (f.modify handle change).get? other = (f.get? other).map fun i => if handle = other then change i else i := by
  unfold get? modify
  rw [List.getElem?_modify]
  cases f.members[other]? <;> rfl

theorem spawn_eq_ok {f f' : Fleet σ} {context : Context} {capacity : Nat} {factory : Factory σ} {handle : Handle}
    (h : f.spawn context capacity factory = (.ok handle, f')) :
    ∃ i, Incarnation.start? context capacity factory = .ok i ∧ f.add i = (handle, f') := by
  unfold spawn at h
  cases hi : Incarnation.start? context capacity factory with
  | error e => rw [hi] at h; cases h
  | ok i =>
    rw [hi] at h
    cases h
    exact ⟨i, rfl, rfl⟩

/-- A worker that was not kept has left no trace on the fleet. -/
theorem spawn_eq_error {f f' : Fleet σ} {context : Context} {capacity : Nat} {factory : Factory σ} {e : HostError}
    (h : f.spawn context capacity factory = (.error e, f')) : f' = f := by
  unfold spawn at h
  split at h
  · cases h
    rfl
  · cases h

theorem notify_eq_ok {f f' : Fleet σ} {handle : Handle} {callback : String} {args : Json}
    (h : f.notify handle callback args = .ok f') :
    ∃ i w, f.get? handle = some i ∧ i.worker.notify callback args = .ok w ∧
      f' = f.modify handle fun i => { i with worker := w } := by
  unfold notify at h
  split at h
  · cases h
  next i hi =>
    cases hw : i.worker.notify callback args with
    | error e => rw [hw] at h; cases h
    | ok w =>
      rw [hw] at h
      cases h
      exact ⟨i, w, hi, hw, rfl⟩

theorem deliver_of_notify {P : Fleet σ → Prop}
    (hP : ∀ {f f' : Fleet σ} {handle callback args}, P f → f.notify handle callback args = .ok f' → P f')
    {f : Fleet σ} (h : P f) (payload : Json) (rs : List Registration) : P (f.deliver payload rs).2 := by
  induction rs generalizing f with
  | nil => exact h
  | cons r rs ih =>
    unfold deliver
    split
    next f' hn => exact ih (hP h hn)
    next => exact ih h

end Fleet

namespace Host

variable {h h' : Host σ} {plugin : String}

/-! ## Finding -/

theorem find_eq_ok {l : Loaded} : h.find plugin = .ok l ↔ h.plugins.lookup plugin = some l := by
  unfold find
  cases h.plugins.lookup plugin <;> simp

theorem find_congr (hp : h'.plugins = h.plugins) (plugin : String) : h'.find plugin = h.find plugin := by
  unfold find
  rw [hp]

theorem find_of_isLoaded (hl : h.isLoaded plugin = true) : ∃ l, h.find plugin = .ok l := by
  obtain ⟨l, hlookup⟩ := Option.isSome_iff_exists.mp hl
  exact ⟨l, find_eq_ok.mpr hlookup⟩

theorem find_of_not_isLoaded (hl : h.isLoaded plugin = false) : h.find plugin = .error (.pluginNotFound plugin) := by
  unfold isLoaded at hl
  rw [Option.isSome_eq_false_iff, Option.isNone_iff_eq_none] at hl
  unfold find
  rw [hl]

theorem mem_of_find {l : Loaded} (hf : h.find plugin = .ok l) : (plugin, l) ∈ h.plugins :=
  mem_of_lookup (find_eq_ok.mp hf)

theorem find_of_mem (hn : (h.plugins.map (·.1)).Nodup) {l : Loaded} (hm : (plugin, l) ∈ h.plugins) :
    h.find plugin = .ok l :=
  find_eq_ok.mpr ((lookup_eq_some_iff_mem hn).mpr hm)

theorem not_mem_of_isLoaded_eq_false (hl : h.isLoaded plugin = false) (l : Loaded) : (plugin, l) ∉ h.plugins := by
  unfold isLoaded at hl
  rw [Option.isSome_eq_false_iff, Option.isNone_iff_eq_none, List.lookup_eq_none_iff] at hl
  intro hm
  have := hl _ hm
  simp at this

theorem incarnation_eq_ok {i : Incarnation σ} (hi : h.incarnation plugin = .ok i) :
    ∃ l, h.find plugin = .ok l ∧ h.fleet.get? l.handle = some i := by
  unfold incarnation at hi
  cases hl : h.find plugin with
  | error e => rw [hl] at hi; cases hi
  | ok l =>
    rw [hl] at hi
    dsimp only [bind, Except.bind] at hi
    split at hi
    next hget =>
      cases hi
      exact ⟨l, rfl, hget⟩
    next => cases hi

theorem incarnation_of_find {l : Loaded} {i : Incarnation σ} (hl : h.find plugin = .ok l)
    (hget : h.fleet.get? l.handle = some i) : h.incarnation plugin = .ok i := by
  unfold incarnation
  rw [hl]
  dsimp only [bind, Except.bind]
  rw [hget]

/-! ### Where plugins come and go -/

theorem find_filter {other : String} (hp : h'.plugins = h.plugins.filter (·.1 != plugin)) (ho : other ≠ plugin) :
    h'.find other = h.find other := by
  unfold find
  rw [hp, lookup_filter_of_ne ho]

theorem isLoaded_filter (hp : h'.plugins = h.plugins.filter (·.1 != plugin)) : h'.isLoaded plugin = false := by
  unfold isLoaded
  rw [hp, Option.isSome_eq_false_iff, Option.isNone_iff_eq_none, List.lookup_eq_none_iff]
  intro q hq
  have hne : q.1 ≠ plugin := bne_iff_ne.mp (List.mem_filter.mp hq).2
  exact bne_iff_ne.mpr hne.symm

theorem find_append {other : String} {l : Loaded} (hp : h'.plugins = h.plugins ++ [(plugin, l)])
    (ho : other ≠ plugin) : h'.find other = h.find other := by
  unfold find
  rw [hp, List.lookup_append, List.lookup_cons, beq_eq_false_iff_ne.mpr ho]
  simp

theorem find_append_self {l : Loaded} (hp : h'.plugins = h.plugins ++ [(plugin, l)])
    (hl : h.isLoaded plugin = false) : h'.find plugin = .ok l := by
  unfold isLoaded at hl
  rw [Option.isSome_eq_false_iff, Option.isNone_iff_eq_none] at hl
  rw [find_eq_ok, hp, List.lookup_append, hl]
  simp

/-! ## Answers -/

/-- Of an operation that leaves the host alone where it fails. -/
theorem result_cases {α : Type} (r : Except HostError α × Host σ) (herror : ∀ {e h'}, r = (.error e, h') → h' = h) :
    (∃ e, r = (.error e, h)) ∨ ∃ a h', r = (.ok a, h') := by
  obtain ⟨answer, h'⟩ := r
  cases answer with
  | error e => exact .inl ⟨e, by rw [herror rfl]⟩
  | ok a => exact .inr ⟨a, h', rfl⟩

/-! ## Loading -/

theorem load_eq_ok {requested : PermissionSet} {factory : Factory σ}
    (hl : h.load plugin requested factory = (.ok (), h')) :
    h.policy.admits plugin = true ∧ h.isLoaded plugin = false ∧ ∃ i,
      Incarnation.start? (h.contextFor plugin requested) h.policy.effectiveQueueCapacity factory = .ok i ∧
      h' = { h with
        fleet := (h.fleet.add i).2
        plugins := h.plugins ++ [(plugin, ⟨(h.fleet.add i).1, requested⟩)] } := by
  unfold load at hl
  cases ha : h.policy.admits plugin with
  | false => rw [ha] at hl; cases hl
  | true =>
    cases hi : h.isLoaded plugin with
    | true => rw [ha, hi] at hl; cases hl
    | false =>
      simp only [ha, hi, Bool.not_true, Bool.false_eq_true, if_false] at hl
      split at hl
      · cases hl
      next handle fleet hspawn =>
        cases hl
        obtain ⟨i, hstart, hadd⟩ := Fleet.spawn_eq_ok hspawn
        exact ⟨rfl, rfl, i, hstart, by rw [hadd]⟩

/-- At none of the points where it may fail has the host been changed. -/
theorem load_eq_error {requested : PermissionSet} {factory : Factory σ} {e : HostError}
    (hl : h.load plugin requested factory = (.error e, h')) : h' = h := by
  unfold load at hl
  split at hl
  · cases hl
    rfl
  split at hl
  · cases hl
    rfl
  dsimp only at hl
  split at hl
  next e' fleet hspawn =>
    cases hl
    rw [Fleet.spawn_eq_error hspawn]
  next => cases hl

variable (h plugin) in
theorem load_cases (requested : PermissionSet) (factory : Factory σ) :
    (∃ e, h.load plugin requested factory = (.error e, h)) ∨
      ∃ h', h.load plugin requested factory = (.ok (), h') := by
  rcases result_cases (h.load plugin requested factory) load_eq_error with he | ⟨_, h', hl⟩
  · exact .inl he
  · exact .inr ⟨h', hl⟩

theorem incarnation_load {requested : PermissionSet} {factory : Factory σ}
    (hl : h.load plugin requested factory = (.ok (), h')) :
    ∃ s, h'.incarnation plugin = .ok
      { sandbox := h.sandboxFor plugin requested, state := s, worker := .start plugin h.policy.effectiveQueueCapacity } := by
  obtain ⟨-, hfresh, i, hstart, rfl⟩ := load_eq_ok hl
  obtain ⟨s, -, rfl⟩ := Incarnation.start?_eq_ok hstart
  exact ⟨s, incarnation_of_find (find_append_self rfl hfresh) List.getElem?_concat_length⟩

/-! ## Unloading and resetting -/

theorem remove_of_not_isLoaded (hl : h.isLoaded plugin = false) : h.remove plugin = h := by
  have hkept : h.plugins.filter (·.1 != plugin) = h.plugins := by
    refine List.filter_eq_self.mpr fun q hq => bne_iff_ne.mpr fun he => ?_
    exact not_mem_of_isLoaded_eq_false hl q.2 (he ▸ hq)
  unfold remove
  rw [hkept]

theorem remove_of_find {e : HostError} (hf : h.find plugin = .error e) : h.remove plugin = h := by
  cases hl : h.isLoaded plugin with
  | false => exact remove_of_not_isLoaded hl
  | true =>
    obtain ⟨l, hl⟩ := find_of_isLoaded hl
    cases hf.symm.trans hl

theorem unload_eq_error {interp : Interpreter σ} {e : HostError} (hu : h.unload interp plugin = (.error e, h')) :
    h' = h := by
  unfold unload at hu
  split at hu
  next hf =>
    cases hu
    exact remove_of_find hf
  next => cases hu

theorem resetMonitor_eq_error {e : HostError} (hr : h.resetMonitor plugin = (.error e, h')) : h' = h := by
  unfold resetMonitor at hr
  split at hr
  · cases hr
    rfl
  · cases hr

theorem resetMonitor_eq_ok (hr : h.resetMonitor plugin = (.ok (), h')) :
    ∃ l, h.find plugin = .ok l ∧
      h' = h.modify l.handle fun i => { i with sandbox.monitor := i.sandbox.monitor.reset h.scene.now } := by
  unfold resetMonitor at hr
  cases hl : h.find plugin with
  | error e => rw [hl] at hr; cases hr
  | ok l =>
    rw [hl] at hr
    cases hr
    exact ⟨l, rfl, rfl⟩

/-! ## Registrations and settings -/

theorem find_of_holder {c : Capability} {l : Loaded} (hl : h.holder plugin c = .ok l) : h.find plugin = .ok l := by
  unfold holder at hl
  cases hf : h.find plugin with
  | error e => rw [hf] at hl; cases hl
  | ok l' =>
    rw [hf] at hl
    dsimp only [bind, Except.bind] at hl
    split at hl
    · cases hl
    · split at hl
      · cases hl
        rfl
      · cases hl

theorem onBehalf_eq_ok {α : Type} {c : Capability} {act : Loaded → α × Host σ} {a : α}
    (hr : h.onBehalf plugin c act = (.ok a, h')) : ∃ l, h.holder plugin c = .ok l ∧ act l = (a, h') := by
  unfold onBehalf at hr
  split at hr
  · cases hr
  next l hl =>
    cases hr
    exact ⟨l, hl, rfl⟩

theorem onBehalf_eq_error {α : Type} {c : Capability} {act : Loaded → α × Host σ} {e : HostError}
    (hr : h.onBehalf plugin c act = (.error e, h')) : h' = h := by
  unfold onBehalf at hr
  split at hr
  · cases hr
    rfl
  · cases hr

theorem subscribe_eq_ok {event callback : String} {id : SubscriptionId}
    (hs : h.subscribe plugin event callback = (.ok id, h')) :
    ∃ l, h.find plugin = .ok l ∧ h' = { h with
      events := h.events.subscribe event { id := ⟨h.nextId⟩, plugin, callback, handle := l.handle }
      nextId := h.nextId + 1 } := by
  obtain ⟨l, hl, hact⟩ := onBehalf_eq_ok hs
  cases hact
  exact ⟨l, find_of_holder hl, rfl⟩

theorem watchConfig_eq_ok {key callback : String} {id : SubscriptionId}
    (hw : h.watchConfig plugin key callback = (.ok id, h')) :
    ∃ l, h.find plugin = .ok l ∧ h' = { h with
      config := h.config.watch key { id := ⟨h.nextId⟩, plugin, callback, handle := l.handle }
      nextId := h.nextId + 1 } := by
  obtain ⟨l, hl, hact⟩ := onBehalf_eq_ok hw
  cases hact
  exact ⟨l, find_of_holder hl, rfl⟩

theorem setPluginConfig_eq_ok {key : String} {value : Json} {report : DispatchReport}
    (hs : h.setPluginConfig plugin key value = (.ok report, h')) :
    (∃ l, h.holder plugin .configWrite = .ok l) ∧ h.setConfig key value = (report, h') := by
  obtain ⟨l, hl, hact⟩ := onBehalf_eq_ok hs
  exact ⟨⟨l, hl⟩, hact⟩

/-! ## Calls -/

theorem enqueueCall_eq_ok {callback : String} {args : Json} {ticket : Ticket}
    (he : h.enqueueCall plugin callback args = (.ok ticket, h')) :
    ∃ l i w, h.find plugin = .ok l ∧ h.fleet.get? l.handle = some i ∧ i.sandbox.monitor.reason? = none ∧
      i.worker.call .budget callback args = .ok (ticket, w) ∧
      h' = h.modify l.handle fun i => { i with worker := w } := by
  unfold enqueueCall at he
  cases hi : h.incarnation plugin with
  | error e =>
    rw [hi] at he
    cases hl : h.find plugin <;> rw [hl] at he <;> cases he
  | ok i =>
    obtain ⟨l, hl, hget⟩ := incarnation_eq_ok hi
    rw [hi, hl] at he
    dsimp only at he
    split at he
    · cases he
    next hreason =>
      split at he
      · cases he
      next t w hw =>
        cases he
        exact ⟨l, i, w, hl, hget, hreason, hw, rfl⟩

theorem enqueueCall_eq_error {callback : String} {args : Json} {e : HostError}
    (he : h.enqueueCall plugin callback args = (.error e, h')) : h' = h := by
  unfold enqueueCall at he
  split at he
  · cases he
    rfl
  · cases he
    rfl
  · split at he
    · cases he
      rfl
    · split at he
      · cases he
        rfl
      · cases he

end Host

end PluginSandbox
