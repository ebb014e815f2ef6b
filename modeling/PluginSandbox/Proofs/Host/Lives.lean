import Mathlib.Data.List.Induction
import PluginSandbox.Proofs.Host.Changes

/-!
# Lives of a host

A host lives on by its operations, while others who hold its sandboxes and its
workers change the ones and submit jobs to the others. Through all this it
stays sound, it remembers what its plugins asked for, and an incarnation that
was withdrawn stays so.
-/

namespace PluginSandbox

variable {σ : Type} {interp : Interpreter σ}

def Incarnation.offer (i : Incarnation σ) (job : Job) : Incarnation σ :=
  match i.worker.submit job with
  | .ok w => { i with worker := w }
  | .error _ => i

namespace Host

/-! ## Operations -/

def unloadEach (interp : Interpreter σ) (h : Host σ) (ls : List (String × Loaded)) : Host σ :=
  ls.foldl (fun h (plugin, l) => h.tearDown interp plugin l.handle) h

theorem unloadEach_append (h : Host σ) (ls more : List (String × Loaded)) :
    h.unloadEach interp (ls ++ more) = (h.unloadEach interp ls).unloadEach interp more :=
  List.foldl_append

section
variable {h : Host σ} (hs : h.Sound)
include hs

theorem Sound.ne_name {q : String × Loaded} {rest : List (String × Loaded)} (hp : h.plugins = q :: rest) :
    ∀ k ∈ rest, k.1 ≠ q.1 := by
  have hnames := hs.names
  rw [hp, List.map_cons, List.nodup_cons] at hnames
  exact fun k hk he => hnames.1 (he ▸ List.mem_map_of_mem (f := (·.1)) hk)

theorem plugins_tearDown_head {q : String × Loaded} {rest : List (String × Loaded)} (hp : h.plugins = q :: rest) :
    (h.tearDown interp q.1 q.2.handle).plugins = rest := by
  rw [plugins_tearDown, hp, List.filter_cons_of_neg (by simp), List.filter_eq_self]
  exact fun k hk => bne_iff_ne.mpr (hs.ne_name hp k hk)

variable (interp) in
theorem changes_unloadEach {ls rest : List (String × Loaded)} (hp : h.plugins = ls ++ rest) :
    Changes interp h (h.unloadEach interp ls) ∧ (h.unloadEach interp ls).plugins = rest ∧
      (h.unloadEach interp ls).nextId = h.nextId ∧
      ∀ k ∈ rest, (h.unloadEach interp ls).fleet.get? k.2.handle = h.fleet.get? k.2.handle := by
  induction ls generalizing h with
  | nil => exact ⟨.refl, hp, rfl, fun _ _ => rfl⟩
  | cons q ls ih =>
    have hmem : ∀ k ∈ q :: (ls ++ rest), k ∈ h.plugins := fun k hk => hp ▸ hk
    have hfind : h.find q.1 = .ok q.2 := find_of_mem hs.names (hmem q List.mem_cons_self)
    have htorn : (h.tearDown interp q.1 q.2.handle).Sound := hs.tearDown hfind
    obtain ⟨hchanges, hrest, hnext, hget⟩ := ih htorn (plugins_tearDown_head hs hp)
    refine ⟨.head (.tornDown hfind) hchanges, hrest, hnext.trans (h.nextId_tearDown _ _), fun k hk => ?_⟩
    have hlater : k ∈ ls ++ rest := List.mem_append_right _ hk
    refine (hget k hk).trans (h.get?_tearDown_of_ne q.1 q.2.handle ?_)
    exact hs.ne_handle (hmem q List.mem_cons_self) (hmem k (List.mem_cons_of_mem _ hlater)) (hs.ne_name hp k hlater)

theorem changes_perform (op : Op σ) : Changes interp h (h.perform interp op).2 := by
  have hperforms : h.Performs interp op (h.perform interp op) := h.performs op
  generalize h.perform interp op = r at hperforms ⊢
  cases hperforms with
  | refused => exact .refl
  | acted _ _ ha => exact .single (.acted ha)
  | confined path => exact .single (.confined h path)
  | loaded hl => exact .single (.loaded hl)
  | unloaded hl | leftOut _ _ hl => exact .single (.tornDown hl)
  | reloaded hl hload => exact .tail (.single (.tornDown hl)) (.loaded hload)
  | emptied => exact (changes_unloadEach interp hs (List.append_nil _).symm).1

end

/-- The operation unloads `plugin`, if that is loaded, whatever it does besides. -/
def Op.unloads (plugin : String) : Op σ → Bool
  | unload p => p = plugin
  | reload p _ => p = plugin
  | unloadAll => true
  | _ => false

variable (interp) in
/-- Before the plugin is torn down nothing has happened to its incarnation. -/
theorem changes_unloads {h : Host σ} (hs : h.Sound) {plugin : String} {l : Loaded} (hl : h.find plugin = .ok l)
    {op : Op σ} (hop : op.unloads plugin = true) :
    ∃ h₁, Changes interp h h₁ ∧ h₁.find plugin = .ok l ∧ h₁.nextId = h.nextId ∧
      h₁.fleet.get? l.handle = h.fleet.get? l.handle ∧
      Changes interp (h₁.tearDown interp plugin l.handle) (h.perform interp op).2 := by
  cases op with
  | unload p =>
    cases of_decide_eq_true hop
    refine ⟨h, .refl, hl, rfl, rfl, ?_⟩
    rw [perform, unload_of_find hl]
  | reload p factory =>
    cases of_decide_eq_true hop
    refine ⟨h, .refl, hl, rfl, rfl, ?_⟩
    rw [perform, reload_of_find hl]
    rcases (h.tearDown interp plugin l.handle).load_cases plugin l.requested factory with ⟨e, he⟩ | ⟨h', hload⟩
    · rw [he]
    · rw [hload]
      exact .single (.loaded hload)
  | unloadAll =>
    -- Those that were loaded before it go first, and leave it alone.
    obtain ⟨before, later, hsplit⟩ := List.append_of_mem (mem_of_find hl)
    obtain ⟨hchanges, hplugins, hnext, hget⟩ := changes_unloadEach interp hs hsplit
    have hsound := hchanges.sound hs
    have hfind := find_of_mem hsound.names (hplugins ▸ List.mem_cons_self)
    have hlast : ((h.unloadEach interp before).tearDown interp plugin l.handle).plugins = later :=
      plugins_tearDown_head (q := (plugin, l)) hsound hplugins
    have hall : (h.perform interp .unloadAll).2 =
        ((h.unloadEach interp before).tearDown interp plugin l.handle).unloadEach interp later := by
      have hsteps : (h.perform interp .unloadAll).2 = h.unloadEach interp h.plugins := rfl
      rw [hsteps, hsplit, unloadEach_append]
      rfl
    refine ⟨_, hchanges, hfind, hnext, hget _ List.mem_cons_self, ?_⟩
    rw [hall]
    exact (changes_unloadEach interp (hsound.tearDown hfind) (hlast.trans (List.append_nil _).symm)).1
  | _ => cases hop

/-! ## Runs -/

variable (interp) in
theorem keep_run {P : Host σ → Prop} (hP : ∀ {h h'}, h.Sound → Change interp h h' → P h → P h') {h : Host σ}
    (hs : h.Sound) (hh : P h) (ops : List (Op σ)) : (run interp h ops).host.Sound ∧ P (run interp h ops).host := by
  induction ops using List.reverseRecOn with
  | nil => exact ⟨hs, hh⟩
  | append_singleton ops op ih =>
    rw [run_concat, Run.host_step]
    exact (changes_perform ih.1 op).keep hP ih.1 ih.2

/-! ## Deeds -/

/-- What can happen to a host and to what it has handed out. Whoever has a sandbox may change it at
will, whoever has a worker may submit any job, and whoever has the bus or the store may register
anything with it. A parked job may come to its end. -/
inductive Deed (σ : Type) where
  | op (op : Op σ)
  | touch (handle : Handle) (change : Sandbox → Sandbox)
  | submit (handle : Handle) (job : Job)
  | release (handle : Handle)
  | subscribe (event : String) (r : Registration)
  | unsubscribePlugin (plugin : String)
  | watch (key : String) (r : Registration)
  | unwatchPlugin (plugin : String)

namespace Run

variable (interp)

def undergo (r : Run σ) : Deed σ → Run σ
  | .op op => r.step interp op
  | .touch handle change =>
    { r with host := r.host.modify handle fun i => { i with sandbox := change i.sandbox } }
  | .submit handle job => { r with host := r.host.modify handle (·.offer job) }
  | .release handle => { r with host := r.host.modify handle (·.release) }
  | .subscribe event reg => { r with host.events := r.host.events.subscribe event reg }
  | .unsubscribePlugin plugin => { r with host.events := (r.host.events.unsubscribePlugin plugin).2 }
  | .watch key reg => { r with host.config := r.host.config.watch key reg }
  | .unwatchPlugin plugin => { r with host.config := (r.host.config.unwatchPlugin plugin).2 }

def after (r : Run σ) (deeds : List (Deed σ)) : Run σ :=
  deeds.foldl (undergo interp) r

theorem after_keep {P : Run σ → Prop} {r : Run σ} {deeds : List (Deed σ)}
    (hP : ∀ d ∈ deeds, ∀ r, P r → P (r.undergo interp d)) (hr : P r) : P (r.after interp deeds) := by
  induction deeds generalizing r with
  | nil => exact hr
  | cons d deeds ih =>
    rw [List.forall_mem_cons] at hP
    exact ih hP.2 (hP.1 r hr)

end Run

def life (interp : Interpreter σ) (h : Host σ) (deeds : List (Deed σ)) : Run σ :=
  Run.after interp { host := h } deeds

/-! ## Soundness -/

theorem Sound.modify {h : Host σ} (hs : h.Sound) (handle : Handle) (change : Incarnation σ → Incarnation σ) :
    (h.modify handle change).Sound := by
  refine hs.of_plugins rfl rfl fun other i hi => ?_
  rw [Host.modify, Fleet.get?_modify, hi]
  exact ⟨_, rfl⟩

theorem Sound.perform {h : Host σ} (hs : h.Sound) (op : Op σ) : (h.perform interp op).2.Sound :=
  (changes_perform hs op).sound hs

theorem Run.sound_undergo {r : Run σ} (hs : r.host.Sound) (d : Deed σ) : (r.undergo interp d).host.Sound := by
  cases d with
  | op op =>
    rw [undergo, host_step]
    exact hs.perform op
  | touch | submit | release => exact hs.modify _ _
  | _ => exact hs.of_plugins rfl rfl fun _ i hi => ⟨i, hi⟩

theorem Keyed.change {h h' : Host σ} (hc : Change interp h h') (hk : h.Keyed) : h'.Keyed :=
  hc.registers.keyed hk

theorem Run.keyed_undergo {r : Run σ} (hs : r.host.Sound) (hk : r.host.Keyed) (d : Deed σ) :
    (r.undergo interp d).host.Keyed := by
  cases d with
  | op op =>
    rw [undergo, host_step]
    exact ((changes_perform hs op).keep (fun _ => Keyed.change) hs hk).2
  | subscribe event reg => exact ⟨hk.1.insert event reg, hk.2⟩
  | unsubscribePlugin plugin => exact ⟨hk.1.keep _, hk.2⟩
  | watch key reg => exact ⟨hk.1, hk.2.insert key reg⟩
  | unwatchPlugin plugin => exact ⟨hk.1, hk.2.keep _⟩
  | _ => exact hk

/-! ## Requests -/

def Run.Remembers (r : Run σ) : Prop :=
  ∀ p l, (p, l) ∈ r.host.plugins → lastRequest p r.succeeded = some l.requested

theorem mem_of_mem_tearDown {h : Host σ} {plugin : String} {handle : Handle} {q : String × Loaded}
    (hq : q ∈ (h.tearDown interp plugin handle).plugins) : q ∈ h.plugins := by
  rw [plugins_tearDown] at hq
  exact List.mem_of_mem_filter hq

theorem requested_perform {h : Host σ} (hs : h.Sound) {op : Op σ} (hop : ∀ p, op.request? p = none) {p : String}
    {l : Loaded} (hm : (p, l) ∈ (h.perform interp op).2.plugins) :
    ∃ l', (p, l') ∈ h.plugins ∧ l'.requested = l.requested := by
  have hperforms : h.Performs interp op (h.perform interp op) := h.performs op
  generalize h.perform interp op = r at hperforms hm
  cases hperforms with
  | refused | confined => exact ⟨l, hm, rfl⟩
  | acted _ _ ha =>
    rw [ha.plugins] at hm
    exact ⟨l, hm, rfl⟩
  | @loaded plugin => simpa [Op.request?] using hop plugin
  | unloaded | leftOut => exact ⟨l, mem_of_mem_tearDown hm, rfl⟩
  | @reloaded plugin k factory h' hl hload =>
    -- what is loaded again asks for what it asked for before
    obtain ⟨-, -, i, -, rfl⟩ := load_eq_ok hload
    rcases List.mem_append.mp hm with hm | hm
    · exact ⟨l, mem_of_mem_tearDown hm, rfl⟩
    · cases List.mem_singleton.mp hm
      exact ⟨k, mem_of_find hl, rfl⟩
  | emptied =>
    have hnone : (h.unloadAll interp).plugins = [] := (changes_unloadEach interp hs (List.append_nil _).symm).2.1
    rw [hnone] at hm
    cases hm

theorem Run.Remembers.load {r : Run σ} (hr : r.Remembers) (plugin : String) (requested : PermissionSet)
    (factory : Factory σ) : (r.step interp (.load plugin requested factory)).Remembers := by
  intro p l hm
  unfold step at hm ⊢
  rw [perform] at hm ⊢
  rcases r.host.load_cases plugin requested factory with ⟨e, he⟩ | ⟨h', hl⟩
  · rw [he] at hm ⊢
    exact hr p l hm
  · rw [hl] at hm ⊢
    dsimp only at hm ⊢
    rw [lastRequest_concat]
    obtain ⟨-, hfresh, i, -, rfl⟩ := load_eq_ok hl
    rcases List.mem_append.mp hm with hm | hm
    · have hne : plugin ≠ p := fun he => not_mem_of_isLoaded_eq_false hfresh l (he ▸ hm)
      simpa [Op.request?, hne] using hr p l hm
    · cases List.mem_singleton.mp hm
      simp [Op.request?]

theorem Run.Remembers.perform {r : Run σ} (hs : r.host.Sound) (hr : r.Remembers) {op : Op σ}
    (hop : ∀ p, op.request? p = none) : (r.step interp op).Remembers := by
  intro p l hm
  rw [host_step] at hm
  obtain ⟨l', hm', hrequested⟩ := requested_perform hs hop hm
  rw [lastRequest_step interp (hop p), ← hrequested]
  exact hr p l' hm'

theorem Run.remembers_undergo {r : Run σ} (hs : r.host.Sound) (hr : r.Remembers) (d : Deed σ) :
    (r.undergo interp d).Remembers := by
  cases d with
  | op op =>
    cases op with
    | load plugin requested factory => exact hr.load plugin requested factory
    | _ => exact hr.perform hs fun _ => rfl
  | _ => exact hr

structure Run.Coherent (r : Run σ) : Prop where
  sound : r.host.Sound
  keyed : r.host.Keyed
  remembers : r.Remembers

theorem Run.Coherent.undergo {r : Run σ} (hr : r.Coherent) (d : Deed σ) : (r.undergo interp d).Coherent where
  sound := Run.sound_undergo hr.sound d
  keyed := Run.keyed_undergo hr.sound hr.keyed d
  remembers := Run.remembers_undergo hr.sound hr.remembers d

theorem coherent_life (interp : Interpreter σ) (policy : Policy) (modules : ModuleRegistry)
    (values : List (String × Json)) (graceMs : Nat) (scene : Scene) (deeds : List (Deed σ)) :
    (life interp (start policy modules (.ofList values) graceMs scene) deeds).Coherent := by
  refine Run.after_keep interp (P := Run.Coherent) (fun d _ r hr => hr.undergo d) ⟨sound_start .., keyed_start .., ?_⟩
  intro p l hm
  cases hm

/-! ## Withdrawn incarnations -/

/-- What was `i` when it was unloaded is still withdrawn. -/
def WithdrawnAt (interp : Interpreter σ) (bare : Prop) (i : Incarnation σ) (handle : Handle) (h : Host σ) : Prop :=
  ∃ j, h.fleet.get? handle = some j ∧ i.Withdrawn interp bare j

section
variable {bare : Prop} {i : Incarnation σ} {handle : Handle} {h h' : Host σ}

theorem WithdrawnAt.of_get? (hw : h.WithdrawnAt interp bare i handle) {change : Incarnation σ → Incarnation σ}
    (hget : h'.fleet.get? handle = (h.fleet.get? handle).map change)
    (hc : ∀ j, i.Withdrawn interp bare j → i.Withdrawn interp bare (change j)) :
    h'.WithdrawnAt interp bare i handle := by
  obtain ⟨j, hj, hij⟩ := hw
  exact ⟨change j, by rw [hget, hj]; rfl, hc j hij⟩

theorem WithdrawnAt.modify (hw : h.WithdrawnAt interp bare i handle) (other : Handle)
    {change : Incarnation σ → Incarnation σ}
    (hc : other = handle → ∀ j, i.Withdrawn interp bare j → i.Withdrawn interp bare (change j)) :
    (h.modify other change).WithdrawnAt interp bare i handle := by
  refine hw.of_get? (h.fleet.get?_modify other handle change) fun j hj => ?_
  split
  next ho => exact hc ho j hj
  next => exact hj

variable (bare) in
theorem withdrawn_tearDown (plugin : String) (hi : h.fleet.get? handle = some i) :
    (h.tearDown interp plugin handle).WithdrawnAt interp bare i handle := by
  obtain ⟨late, hget⟩ := h.get?_tearDown_self interp plugin handle
  refine ⟨_, ?_, i.withdrawn_wipe interp bare h.scene late⟩
  rw [hget, hi]
  rfl

theorem WithdrawnAt.change (hc : Change interp h h') (hw : h.WithdrawnAt interp bare i handle) :
    h'.WithdrawnAt interp bare i handle := by
  cases hc with
  | acted ha =>
    obtain ⟨j, hj, hij⟩ := hw
    obtain ⟨acts, hroutine, hacts⟩ := ha.fleet.acts handle j hj
    exact ⟨_, hacts, hij.rests (Incarnation.rests_after hij.shut hroutine)⟩
  | confined path =>
    refine hw.of_get? (h.get?_setWorkspace path handle) fun j hj => ?_
    split
    next => exact hj.touch hj.granted
    next => exact hj
  | loaded hl =>
    obtain ⟨-, -, k, -, rfl⟩ := load_eq_ok hl
    obtain ⟨j, hj, hij⟩ := hw
    exact ⟨j, (List.getElem?_append_left (List.getElem?_eq_some_iff.mp hj).1).trans hj, hij⟩
  | @tornDown plugin l hl =>
    by_cases hn : handle = l.handle
    · subst hn
      obtain ⟨late, hget⟩ := h.get?_tearDown_self interp plugin l.handle
      refine hw.of_get? hget fun j hj => ?_
      have hstopped : j.Rests interp j.stopped := Incarnation.rests_stopped hj.shut
      have hrests : j.Rests interp (j.stopped.settle interp h.scene) :=
        hstopped.trans (Incarnation.rests_advanceFor hstopped.shut h.scene _)
      exact (hj.rests hrests).touch fun _ => rfl
    · obtain ⟨j, hj, hij⟩ := hw
      exact ⟨j, (h.get?_tearDown_of_ne plugin l.handle hn).trans hj, hij⟩

def Deed.GrantsNothing (handle : Handle) : Deed σ → Prop
  | touch other change => other = handle → ∀ box, box.checker.granted = [] → (change box).checker.granted = []
  | _ => True

theorem WithdrawnAt.undergo {r : Run σ} (hs : r.host.Sound) (hw : r.host.WithdrawnAt interp bare i handle)
    {d : Deed σ} (hd : bare → d.GrantsNothing handle) :
    (r.undergo interp d).host.WithdrawnAt interp bare i handle := by
  cases d with
  | op op =>
    rw [Run.undergo, Run.host_step]
    exact ((changes_perform hs op).keep (fun _ => WithdrawnAt.change) hs hw).2
  | touch other change =>
    exact hw.modify other fun ho j hj => hj.touch fun hb => hd hb ho j.sandbox (hj.granted hb)
  | submit other job =>
    refine hw.modify other fun _ j hj => ?_
    have hrefused : j.offer job = j := by
      unfold Incarnation.offer
      split
      next w hsubmit => exact absurd hsubmit (Worker.not_submit_of_stopping hj.shut.stopping)
      next => rfl
    rw [hrefused]
    exact hj
  | release other => exact hw.modify other fun _ j hj => hj.rests (Incarnation.rests_release hj.shut)
  | _ => exact hw

end

end Host

end PluginSandbox
