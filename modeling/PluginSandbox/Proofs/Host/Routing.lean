import PluginSandbox.Proofs.Config.Writes
import PluginSandbox.Proofs.Host.Lives
import PluginSandbox.Script

/-!
# Routing

As long as plugins are reached through their host alone, every subscription and
every watch leads to the current incarnation of a loaded plugin, whose worker is
not stopped. What an earlier incarnation registered reaches no later one.
-/

namespace PluginSandbox.Host

variable {σ : Type} {interp : Interpreter σ}

/-! ## Plugins that are served -/

def Serving (h : Host σ) : Prop :=
  ∀ p l, (p, l) ∈ h.plugins → ∃ i, h.fleet.get? l.handle = some i ∧ i.worker.Serving p

section
variable {h h' : Host σ}

theorem Serving.change (hs : h.Sound) (hc : Change interp h h') (hv : h.Serving) : h'.Serving := by
  cases hc with
  | acted ha =>
    intro p l hm
    rw [ha.plugins] at hm
    obtain ⟨i, hi, hserving⟩ := hv p l hm
    obtain ⟨acts, hroutine, hacts⟩ := ha.fleet.acts l.handle i hi
    exact ⟨_, hacts, Incarnation.serving_after hserving hroutine⟩
  | confined path =>
    intro p l hm
    obtain ⟨i, hi, hserving⟩ := hv p l hm
    rw [get?_setWorkspace, hi, Option.map_some]
    refine ⟨_, rfl, ?_⟩
    split
    next => exact hserving
    next => exact hserving
  | loaded hl =>
    obtain ⟨-, -, i, hstart, rfl⟩ := load_eq_ok hl
    intro p l hm
    unfold Fleet.get? Fleet.add
    rcases List.mem_append.mp hm with hm | hm
    · obtain ⟨j, hj, hserving⟩ := hv p l hm
      exact ⟨j, (List.getElem?_append_left (List.getElem?_eq_some_iff.mp hj).1).trans hj, hserving⟩
    · cases List.mem_singleton.mp hm
      obtain ⟨s, -, rfl⟩ := Incarnation.start?_eq_ok hstart
      exact ⟨_, List.getElem?_concat_length, Worker.serving_start _ _⟩
  | @tornDown plugin l hl =>
    intro p k hm
    rw [plugins_tearDown, List.mem_filter, bne_iff_ne] at hm
    rw [get?_tearDown_of_ne h plugin l.handle (hs.ne_handle (mem_of_find hl) hm.1 hm.2)]
    exact hv p k hm.1

/-! ## What is registered -/

/-- What is registered belongs to a loaded plugin, under an id that was given out. -/
structure Enrolled (h : Host σ) : Prop where
  owned : ∀ r ∈ h.registrations, h.Owns r
  issued : ∀ r ∈ h.registrations, r.id.value < h.nextId

theorem Owns.congr {r : Registration} (ho : h.Owns r) (hf : h'.find r.plugin = h.find r.plugin) : h'.Owns r := by
  obtain ⟨l, hl, hhandle⟩ := ho
  exact ⟨l, hf.trans hl, hhandle⟩

theorem Enrolled.of_registers (he : h.Enrolled) (hr : h.Registers h')
    (hf : ∀ r ∈ h'.registrations, h'.find r.plugin = h.find r.plugin) : h'.Enrolled := by
  constructor
  · intro r hmem
    rcases hr.registered r hmem with hold | ⟨howns, -⟩
    · exact (he.owned r hold).congr (hf r hmem)
    · exact howns.congr (hf r hmem)
  · intro r hmem
    rcases hr.registered r hmem with hold | ⟨-, -, hlt⟩
    · exact Nat.lt_of_lt_of_le (he.issued r hold) hr.nextId
    · exact hlt

theorem Enrolled.change (hc : Change interp h h') (he : h.Enrolled) : h'.Enrolled := by
  refine he.of_registers hc.registers fun r hmem => ?_
  cases hc with
  | acted ha => exact find_congr ha.plugins r.plugin
  | confined path => rfl
  | loaded hl =>
    obtain ⟨-, hfresh, i, -, rfl⟩ := load_eq_ok hl
    obtain ⟨l, hfind, -⟩ := he.owned r hmem
    exact find_append rfl fun hp => not_mem_of_isLoaded_eq_false hfresh l (hp ▸ mem_of_find hfind)
  | @tornDown plugin l hl =>
    rw [registrations_tearDown, List.mem_filter, bne_iff_ne] at hmem
    exact find_filter (h.plugins_tearDown plugin l.handle) hmem.2

structure Renewed (plugin : String) (n : Nat) (h : Host σ) : Prop where
  nextId : n ≤ h.nextId
  registered : ∀ r ∈ h.registrations, r.plugin = plugin → n ≤ r.id.value

theorem Renewed.registers {plugin : String} {n : Nat} (hn : h.Renewed plugin n) (hr : h.Registers h') :
    h'.Renewed plugin n where
  nextId := Nat.le_trans hn.nextId hr.nextId
  registered := by
    intro r hmem hplugin
    rcases hr.registered r hmem with hmem | ⟨-, hle, -⟩
    · exact hn.registered r hmem hplugin
    · exact Nat.le_trans hn.nextId hle

theorem renewed_tearDown (h : Host σ) (plugin : String) (handle : Handle) :
    (h.tearDown interp plugin handle).Renewed plugin h.nextId where
  nextId := Nat.le_of_eq (h.nextId_tearDown plugin handle).symm
  registered := by
    intro r hmem hplugin
    rw [registrations_tearDown, List.mem_filter, bne_iff_ne] at hmem
    exact absurd hplugin hmem.2

end

/-! ## What is handed out -/

def Op.delivers : Op σ → Bool
  | publish .. | setConfig .. | setPluginConfig .. => true
  | _ => false

def attempts (h : Host σ) : Op σ → List Attempt
  | .publish event payload => h.fleet.attempts payload (h.events.subscriptions.handlers event)
  | .setConfig key value => h.config.tells key value h.fleet
  | .setPluginConfig plugin key value =>
    match h.holder plugin .configWrite with
    | .ok _ => h.config.tells key value h.fleet
    | .error _ => []
  | _ => []

def report (h : Host σ) : Op σ → DispatchReport
  | .publish event payload => (h.publish event payload).1
  | .setConfig key value => (h.setConfig key value).1
  | .setPluginConfig plugin key value =>
    match h.setPluginConfig plugin key value with
    | (.ok report, _) => report
    | (.error _, _) => {}
  | _ => {}

/-- The attempts are on registered handlers, the report is on the attempts, and the queues grow by
what was accepted. -/
structure Delivery (interp : Interpreter σ) (h : Host σ) (op : Op σ) : Prop where
  handlers : ∀ a ∈ h.attempts op, a.handler ∈ h.registrations
  report : h.report op = .on (h.attempts op)
  queues : ∀ handle, (h.perform interp op).2.fleet.get? handle =
    (h.fleet.get? handle).map (·.enqueue ((h.attempts op).filterMap (·.message? handle)))

section
variable (h : Host σ)

theorem tells_eq_attempts (key : String) (value : Json) :
    ∃ payload rs, (∀ r ∈ rs, r ∈ h.registrations) ∧
      h.config.tells key value h.fleet = h.fleet.attempts payload rs := by
  unfold ConfigStore.tells
  split
  next => exact ⟨.null, [], by simp, rfl⟩
  next => exact ⟨_, _, fun r hr => List.mem_append_right _ (Topics.mem_all_of_handlers key hr), rfl⟩

theorem attempts_eq (op : Op σ) :
    ∃ payload rs, (∀ r ∈ rs, r ∈ h.registrations) ∧ h.attempts op = h.fleet.attempts payload rs := by
  have hnone : ∃ payload rs, (∀ r ∈ rs, r ∈ h.registrations) ∧ [] = h.fleet.attempts payload rs :=
    ⟨.null, [], by simp, rfl⟩
  cases op with
  | publish event payload =>
    exact ⟨payload, _, fun r hr => List.mem_append_left _ (Topics.mem_all_of_handlers event hr), rfl⟩
  | setConfig key value => exact h.tells_eq_attempts key value
  | setPluginConfig plugin key value =>
    unfold attempts
    dsimp only
    split
    next => exact h.tells_eq_attempts key value
    next => exact hnone
  | _ => exact hnone

theorem enqueue_nil (i : Incarnation σ) : i.enqueue [] = i := by
  simp [Incarnation.enqueue]

variable (interp) in
theorem delivery {op : Op σ} (hop : op.delivers = true) : h.Delivery interp op := by
  have hhandlers : ∀ a ∈ h.attempts op, a.handler ∈ h.registrations := by
    obtain ⟨payload, rs, hrs, heq⟩ := h.attempts_eq op
    intro a ha
    rw [heq] at ha
    exact hrs _ (h.fleet.map_handler_attempts payload rs ▸ List.mem_map_of_mem ha)
  cases op with
  | publish event payload =>
    exact ⟨hhandlers, h.fleet.deliver_report _ _, h.fleet.get?_deliver _ _⟩
  | setConfig key value =>
    exact ⟨hhandlers, h.config.report_set key value h.fleet, h.config.get?_fleet_set key value h.fleet⟩
  | setPluginConfig plugin key value =>
    refine ⟨hhandlers, ?_, fun handle => ?_⟩
    · unfold report attempts setPluginConfig onBehalf
      dsimp only
      cases h.holder plugin .configWrite with
      | ok _ => exact h.config.report_set key value h.fleet
      | error e => rfl
    · unfold perform attempts setPluginConfig onBehalf
      dsimp only
      cases h.holder plugin .configWrite with
      | ok _ => exact h.config.get?_fleet_set key value h.fleet handle
      | error e => simp [enqueue_nil]
  | _ => cases hop

end

/-! ## Routed hosts -/

/-- Registrations lead to open workers of the plugins that made them, and what is handed out fails
only on a full queue. -/
structure Routed (interp : Interpreter σ) (h : Host σ) : Prop where
  current : ∀ r ∈ h.registrations, ∃ l i, h.find r.plugin = .ok l ∧ r.handle = l.handle ∧
    h.fleet.get? l.handle = some i ∧ i.plugin = r.plugin ∧ i.worker.isStopped = false
  issued : ∀ r ∈ h.registrations, r.id.value < h.nextId
  delivery : ∀ op : Op σ, op.delivers = true → h.Delivery interp op
  failures : ∀ op : Op σ, op.delivers = true → ∀ e ∈ (h.report op).failures, ∃ plugin, e = .queueFull plugin

structure Regular (h : Host σ) : Prop where
  serving : h.Serving
  enrolled : h.Enrolled

theorem Regular.change {h h' : Host σ} (hs : h.Sound) (hc : Change interp h h') (hg : h.Regular) : h'.Regular :=
  ⟨hg.serving.change hs hc, hg.enrolled.change hc⟩

theorem regular_start (policy : Policy) (modules : ModuleRegistry) (values : List (String × Json)) (graceMs : Nat)
    (scene : Scene) : (start policy modules (.ofList values) graceMs scene : Host σ).Regular where
  serving := fun _ _ hm => absurd hm List.not_mem_nil
  enrolled := ⟨fun _ hr => absurd hr List.not_mem_nil, fun _ hr => absurd hr List.not_mem_nil⟩

theorem Regular.routed {h : Host σ} (hg : h.Regular) : h.Routed interp := by
  have hcurrent : ∀ r ∈ h.registrations, ∃ l i, h.find r.plugin = .ok l ∧ r.handle = l.handle ∧
      h.fleet.get? l.handle = some i ∧ i.plugin = r.plugin ∧ i.worker.isStopped = false := by
    intro r hr
    obtain ⟨l, hl, hhandle⟩ := hg.enrolled.owned r hr
    obtain ⟨i, hi, hserving⟩ := hg.serving r.plugin l (mem_of_find hl)
    exact ⟨l, i, hl, hhandle, hi, hserving.plugin, hserving.isStopped⟩
  refine ⟨hcurrent, hg.enrolled.issued, fun op hop => h.delivery interp hop, fun op hop e he => ?_⟩
  obtain ⟨payload, rs, hrs, hattempts⟩ := h.attempts_eq op
  have hopen : ∀ r ∈ rs, ∃ i, h.fleet.get? r.handle = some i ∧ i.worker.isStopped = false := by
    intro r hr
    obtain ⟨l, i, -, hhandle, hi, -, hstopped⟩ := hcurrent r (hrs r hr)
    exact ⟨i, hhandle ▸ hi, hstopped⟩
  rw [(h.delivery interp hop).report, hattempts] at he
  obtain ⟨a, ha, hrefusal⟩ := List.mem_filterMap.mp he
  exact Fleet.queueFull_of_attempts hopen ha hrefusal

/-! ## Runs -/

theorem host_run_append (h : Host σ) (ops more : List (Op σ)) :
    (run interp h (ops ++ more)).host = (run interp (run interp h ops).host more).host := by
  induction more using List.reverseRecOn with
  | nil => rw [List.append_nil]; rfl
  | append_singleton more op ih =>
    rw [← List.append_assoc, run_concat, run_concat, Run.host_step, Run.host_step, ih]

/-- What is known of a regular host since an incarnation `i` was withdrawn from it. -/
structure Superseded (interp : Interpreter σ) (plugin : String) (n : Nat) (i : Incarnation σ) (handle : Handle)
    (h : Host σ) : Prop where
  regular : h.Regular
  renewed : h.Renewed plugin n
  withdrawn : h.WithdrawnAt interp True i handle

theorem Superseded.change {plugin : String} {n : Nat} {i : Incarnation σ} {handle : Handle} {h h' : Host σ}
    (hs : h.Sound) (hc : Change interp h h') (hk : h.Superseded interp plugin n i handle) :
    h'.Superseded interp plugin n i handle :=
  ⟨hk.regular.change hs hc, hk.renewed.registers hc.registers, hk.withdrawn.change hc⟩

variable (interp) in
theorem superseded_perform {h : Host σ} (hs : h.Sound) (hg : h.Regular) {plugin : String} {l : Loaded}
    (hl : h.find plugin = .ok l) {op : Op σ} (hop : op.unloads plugin = true) :
    ∃ i, (h.perform interp op).2.Superseded interp plugin h.nextId i l.handle := by
  obtain ⟨i, hi⟩ := hs.present plugin l (mem_of_find hl)
  obtain ⟨h₁, hbefore, hfind, hnext, hget, hafter⟩ := changes_unloads interp hs hl hop
  obtain ⟨hs₁, hg₁⟩ := hbefore.keep Regular.change hs hg
  have htorn : (h₁.tearDown interp plugin l.handle).Superseded interp plugin h.nextId i l.handle :=
    ⟨hg₁.change hs₁ (.tornDown hfind), hnext ▸ h₁.renewed_tearDown plugin l.handle,
      withdrawn_tearDown True plugin (hget.trans hi)⟩
  exact ⟨i, (hafter.keep Superseded.change (hs₁.tearDown hfind) htorn).2⟩

/-- **Routing.** After any run of operations the host is routed. Once a plugin has been unloaded,
for good or to be loaded again, a later incarnation of it is reached through registrations made
since then only. -/
theorem routed_run (interp : Interpreter σ) (policy : Policy) (modules : ModuleRegistry)
    (values : List (String × Json)) (graceMs : Nat) (scene : Scene) (ops : List (Op σ)) :
    let h := (run interp (start policy modules (.ofList values) graceMs scene) ops).host
    h.Routed interp ∧ ∀ plugin l op later l', h.find plugin = .ok l → op.unloads plugin = true →
      let h' := (run interp (start policy modules (.ofList values) graceMs scene) (ops ++ op :: later)).host
      h'.find plugin = .ok l' → l'.handle ≠ l.handle ∧
        ∀ op' : Op σ, op'.delivers = true → ∀ a ∈ h'.attempts op', a.handler.handle = l'.handle →
          h.nextId ≤ a.handler.id.value := by
  intro h
  obtain ⟨hs, hg⟩ := keep_run interp Regular.change (sound_start policy modules _ graceMs scene)
    (regular_start policy modules values graceMs scene) ops
  refine ⟨hg.routed, ?_⟩
  intro plugin l op later l' hl hop h' hl'
  obtain ⟨i, hsuperseded⟩ := superseded_perform interp hs hg hl hop
  have hlater : h' = (run interp (h.perform interp op).2 later).host := by
    have hsplit : ops ++ op :: later = (ops ++ [op]) ++ later := by simp
    show (run interp _ (ops ++ op :: later)).host = _
    rw [hsplit, host_run_append, run_concat, Run.host_step]
  obtain ⟨hs', hk⟩ := keep_run interp Superseded.change (hs.perform op) hsuperseded later
  rw [← hlater] at hs' hk
  have hm' := mem_of_find hl'
  constructor
  · intro heq
    obtain ⟨j, hj, hserving⟩ := hk.regular.serving plugin l' hm'
    obtain ⟨k, hk, hwithdrawn⟩ := hk.withdrawn
    rw [heq, hk] at hj
    cases hj
    cases hserving.stopping.symm.trans hwithdrawn.shut.stopping
  · intro op' hop' a ha hhandle
    have hmem := (h'.delivery interp hop').handlers a ha
    obtain ⟨k, hfind, howned⟩ := hk.regular.enrolled.owned _ hmem
    refine hk.renewed.registered _ hmem ?_
    by_contra hne
    exact hs'.ne_handle hm' (mem_of_find hfind) hne (howned.symm.trans hhandle)

/-- `p` is loaded anew and subscribes again; a third plugin keeps what it had. -/
theorem routed_run_reloaded :
    let asked : PermissionSet := { capabilities := [.events, .configRead] }
    let ops : List (Op Script) :=
      [.load "p" asked (Script.Recipe.factory {}), .subscribe "p" "saved" "old", .watchConfig "p" "tab" "old",
        .load "q" asked (Script.Recipe.factory {}), .subscribe "q" "saved" "kept"]
    let later : List (Op Script) := [.subscribe "p" "saved" "new", .setConfig "tab" (.nat 4)]
    let h := (run Script.interpreter (start {} .standard (.ofList []) 2000 {}) ops).host
    let h' := (run Script.interpreter (start {} .standard (.ofList []) 2000 {})
      (ops ++ .reload "p" (Script.Recipe.factory { generation := 2 }) :: later)).host
    h.find "p" = .ok ⟨0, asked⟩ ∧ h'.find "p" = .ok ⟨2, asked⟩ ∧
      (h'.attempts (.publish "saved" .null)).map (·.handler) =
        [⟨⟨2⟩, "q", "kept", 1⟩, ⟨⟨3⟩, "p", "new", 2⟩] ∧
      ∀ a ∈ h'.attempts (.publish "saved" .null), a.handler.handle = 2 → 3 ≤ a.handler.id.value := by
  intro asked ops later h h'
  have hl : h.find "p" = .ok ⟨0, asked⟩ := by decide +kernel
  have hl' : h'.find "p" = .ok ⟨2, asked⟩ := by decide +kernel
  have hrouted := (routed_run Script.interpreter {} .standard [] 2000 {} ops).2 "p" _
    (.reload "p" (Script.Recipe.factory { generation := 2 })) later _ hl (by decide) hl'
  have hissued : h.nextId = 3 := by decide +kernel
  refine ⟨hl, hl', by decide +kernel, fun a ha hhandle => ?_⟩
  rw [← hissued]
  exact hrouted.2 (.publish "saved" .null) rfl a ha hhandle

end PluginSandbox.Host
